import KernelStats.Proofs.Mirror

/-!
# The kernel and its mirror are interchangeable

The kernel looks an id up by its bytes and takes the first statistic that it finds; memory compares
texts and takes all of them. Where names are texts and keys are distinct the two find the same, so
that a scrape of the kernel and one of its mirror put out the same samples and fail at the same
places.
-/

namespace KernelStats

theorem map_fst_find?_zipIdx (p : α → Bool) (l : List α) :
    (l.zipIdx.find? fun x => p x.1).map Prod.fst = l.find? p := by
  have h := List.find?_map (f := Prod.fst) (p := p) (l := l.zipIdx)
  rw [List.zipIdx_map_fst] at h
  exact h.symm

theorem filter_eq_toList_find? {p : α → Bool} {l : List α}
    (h : l.Pairwise fun a b => ¬ (p a = true ∧ p b = true)) : l.filter p = (l.find? p).toList := by
  induction l with
  | nil => rfl
  | cons a l ih =>
    obtain ⟨ha, hl⟩ := List.pairwise_cons.mp h
    by_cases hp : p a = true
    · have hrest : l.filter p = [] := List.filter_eq_nil_iff.mpr fun b hb hpb => ha b hb ⟨hp, hpb⟩
      rw [List.filter_cons_of_pos hp, List.find?_cons_of_pos hp, hrest]
      rfl
    · rw [List.filter_cons_of_neg hp, List.find?_cons_of_neg hp]
      exact ih hl

namespace Kernel

variable {chain : List Kstat}

theorem Kstat.isNamed_iff_belongs {group : GroupPattern} {name : String}
    (hl : group.literal? = some name) {k : Kstat} {module : String} {inst : Int} :
    k.isNamed module inst name = true ↔
      k.belongs module inst group = true ∧ IsText k.module ∧ IsText k.name := by
  rw [Kstat.belongs_iff, Kstat.isNamed_iff, GroupPattern.isMatch_eq_true_iff_of_literal hl]
  constructor
  · rintro ⟨hm, hi, hn⟩
    exact ⟨⟨hi, nameText_of_encode hm, nameText_of_encode hn⟩, ⟨_, hm⟩, ⟨_, hn⟩⟩
  · rintro ⟨⟨hi, hm, hn⟩, hmodule, hname⟩
    exact ⟨hmodule.nameText_eq_iff.mp hm, hi, hname.nameText_eq_iff.mp hn⟩

theorem Keyed.belongs_eq_isNamed (h : Keyed chain) {module : String} {inst : Nat}
    {group : GroupPattern} {name : String} (hl : group.literal? = some name) {k : Kstat}
    (hk : k ∈ chain) : k.belongs module inst group = k.isNamed module inst name := by
  rw [Bool.eq_iff_iff, Kstat.isNamed_iff_belongs hl]
  exact (and_iff_left ⟨h.module k hk, h.name k hk⟩).symm

/-- Where keys are distinct, a search by bytes finds what a search of the whole chain finds. -/
theorem Keyed.found_eq (h : Keyed chain) (module : String) (inst : Nat) (group : GroupPattern) :
    found chain module inst group =
      chain.zipIdx.filter fun x => x.1.belongs module inst group := by
  rw [found]
  cases hl : group.literal? with
  | none => rfl
  | some name =>
    have hnamed : ∀ x ∈ chain.zipIdx,
        x.1.belongs module inst group = x.1.isNamed module inst name := by
      intro x hx
      exact h.belongs_eq_isNamed hl (List.fst_mem_of_mem_zipIdx hx)
    -- two statistics of one name at one instance would have the same key
    have hone : chain.zipIdx.Pairwise fun x y =>
        ¬ (x.1.isNamed module inst name = true ∧ y.1.isNamed module inst name = true) := by
      have hkeys : chain.zipIdx.Pairwise fun x y => ¬ x.1.SameKey y.1 := by
        have hpairs := h.distinct
        rwa [← List.zipIdx_map_fst 0 chain, List.pairwise_map] at hpairs
      refine hkeys.imp fun {x y} hxy => ?_
      rintro ⟨hx, hy⟩
      obtain ⟨hxm, hxi, hxn⟩ := Kstat.isNamed_iff.mp hx
      obtain ⟨hym, hyi, hyn⟩ := Kstat.isNamed_iff.mp hy
      exact hxy ⟨hxm.trans hym.symm, Int32.toInt_inj.mp (hxi.trans hyi.symm), hxn.trans hyn.symm⟩
    rw [List.filter_congr hnamed, filter_eq_toList_find? hone]
    rfl

theorem Keyed.map_fst_found (h : Keyed chain) (module : String) (inst : Nat)
    (group : GroupPattern) :
    (found chain module inst group).map Prod.fst = chain.filter (·.belongs module inst group) := by
  rw [h.found_eq]
  exact map_fst_filter_zipIdx (fun k : Kstat => k.belongs module inst group) chain

theorem number_eq_iff {k : Kstat} (hk : 0 ≤ k.inst.toInt) {inst : UInt32} :
    k.number = inst ↔ k.inst.toInt = inst.toNat := by
  have hlt := k.inst.toInt_lt
  have hnat : k.number.toNat = k.inst.toInt.toNat :=
    UInt32.toNat_ofNat_of_lt' (by show _ < 2 ^ 32; omega)
  rw [← UInt32.toNat_inj, hnat]
  omega

theorem map_fst_found_mirror (text : Datum → String) (k : Kernel) (module : String) (inst : UInt32)
    (pattern : GroupPattern) :
    ((k.mirror text).found module inst pattern).map Prod.fst =
      (k.chain.filter (·.belongs module inst.toNat pattern)).map (Kstat.mirror text) := by
  rw [Memory.Data.map_fst_found, mirror, List.filter_map, List.filter_filter]
  refine congrArg _ (List.filter_congr fun x _ => ?_)
  have hm : (x.mirror text).module = nameText x.module := rfl
  have hi : (x.mirror text).inst = x.number := rfl
  have hn : (x.mirror text).name = nameText x.name := rfl
  rw [Bool.eq_iff_iff, Kstat.belongs_iff, Bool.and_eq_true, Function.comp_apply,
    Memory.Kstat.belongs, decide_eq_true_eq, decide_eq_true_eq, hm, hi, hn]
  by_cases hx : 0 ≤ x.inst.toInt
  · rw [number_eq_iff hx]
    exact ⟨fun ⟨⟨hm, hi, hn⟩, _⟩ => ⟨hi, hm, hn⟩, fun ⟨hi, hm, hn⟩ => ⟨⟨hm, hi, hn⟩, hx⟩⟩
  · refine ⟨fun h => absurd h.2 hx, fun h => ?_⟩
    omega

theorem Regular.find_snapshot (h : Regular chain) (module : String) (inst : UInt32)
    (pattern : GroupPattern) :
    ((snapshot chain).find module inst pattern).map Reading.forgetCauses =
      (chain.filter (·.belongs module inst.toNat pattern)).map fun k =>
        (k.reading 0).forgetCauses := by
  have hreading : Reading.forgetCauses ∘ (fun x : Kstat × Nat => x.1.reading x.2) =
      (fun k => (k.reading 0).forgetCauses) ∘ Prod.fst := rfl
  simp only [snapshot]
  by_cases hi : maxInstance < inst.toNat
  · -- no instance of the chain is that large
    have hnone : chain.filter (·.belongs module inst.toNat pattern) = [] := by
      rw [List.filter_eq_nil_iff]
      intro k _ hk
      have hinst := (Kstat.belongs_iff.mp hk).1
      have hlt := k.inst.toInt_lt
      rw [maxInstance] at hi
      omega
    rw [if_pos hi, hnone]
    rfl
  · rw [if_neg hi, ← h.keyed.map_fst_found, List.map_map, List.map_map, hreading]

theorem find_snapshot_mirror (text : Datum → String) (k : Kernel) (module : String) (inst : UInt32)
    (pattern : GroupPattern) :
    ((k.mirror text).snapshot.find module inst pattern).map Reading.forgetCauses =
      (k.chain.filter (·.belongs module inst.toNat pattern)).map
        fun x => ((x.mirror text).reading 0).forgetCauses := by
  have hreading : Reading.forgetCauses ∘ (fun x : Memory.Kstat × Nat => x.1.reading x.2) =
      (fun k => (k.reading 0).forgetCauses) ∘ Prod.fst := rfl
  rw [Memory.Data.find_snapshot, List.map_map, hreading, ← List.map_map, map_fst_found_mirror,
    List.map_map]
  rfl

theorem isVminfo_of_belongs {k : Kstat} {module : String} {inst : Int} {pattern : GroupPattern}
    (hr : StructuredKind.route? module pattern = none) (hk : k.belongs module inst pattern = true) :
    k.isVminfo = false := by
  obtain ⟨-, hmodule, hmatch⟩ := Kstat.belongs_iff.mp hk
  rw [Bool.eq_false_iff]
  intro hv
  obtain ⟨hm, -, hn⟩ := Kstat.isNamed_iff.mp hv
  rw [nameText_of_encode hm] at hmodule
  rw [nameText_of_encode hn] at hmatch
  rw [StructuredKind.route?, if_pos ⟨hmodule.symm, hmatch⟩] at hr
  nomatch hr

theorem Regular.forgetCause_record (h : Regular chain) {k : Kstat} (hk : k ∈ chain) :
    forgetCause (k.record .vminfo) =
      forgetCause (match k.vminfo? with
        | some (fields, snaptime) => .ok (.vminfo fields snaptime)
        | none => .error (.read "unix:0:vminfo not present")) := by
  rw [Kstat.record, Kstat.vminfo?]
  by_cases hr : k.readError = 0
  · obtain ⟨p, hp, ha⟩ := h.payload hk hr
    have hattached : k.attached? = k.payload := ha.trans hp.symm
    rw [if_pos hr, if_pos hr, hattached, ← vminfoOf?_eq_ofBytes?]
    dsimp only
    cases Live.vminfoOf? ((k.payload.map Payload.bytes).getD []) with
    | none => rfl
    | some fields => rfl
  · rw [if_neg hr, if_neg hr]
    rfl

theorem Regular.structured_snapshot {k : Kernel} (h : Regular k.chain) (text : Datum → String)
    (kind : StructuredKind) :
    forgetCause ((snapshot k.chain).structured kind) =
      forgetCause ((k.mirror text).snapshot.structured kind) := by
  cases kind
  have hfind : k.chain.find? Kstat.isVminfo =
      (locate? k.chain StructuredKind.vminfo.module 0 StructuredKind.vminfo.name).map Prod.fst :=
    (map_fst_find?_zipIdx Kstat.isVminfo k.chain).symm
  have hmirror : (k.mirror text).snapshot.structured .vminfo =
      match (k.chain.find? Kstat.isVminfo).bind Kstat.vminfo? with
      | some (fields, snaptime) => .ok (.vminfo fields snaptime)
      | none => .error (.read "unix:0:vminfo not present") := rfl
  rw [hmirror, hfind]
  simp only [snapshot]
  cases hx : locate? k.chain StructuredKind.vminfo.module 0 StructuredKind.vminfo.name with
  | none => rfl
  | some x =>
    obtain ⟨x, place⟩ := x
    have hmem := List.mem_of_getElem? (locate?_eq_some hx).1
    exact h.forgetCause_record hmem

theorem Regular.agrees {k : Kernel} (h : Regular k.chain) (text : Datum → String) :
    (snapshot k.chain).Agrees (k.mirror text).snapshot where
  find := by
    intro module inst pattern hr
    rw [h.find_snapshot, find_snapshot_mirror]
    refine List.map_congr_left fun x hx => ?_
    obtain ⟨hmem, hbelongs⟩ := List.mem_filter.mp hx
    exact forgetCauses_reading text h hmem (isVminfo_of_belongs hr hbelongs) 0 0
  structured := h.structured_snapshot text

end Kernel

namespace Collector

/-- A scrape of the kernel and one of its mirror put out the same samples, count the same instances
and fail at the same places, or neither can be opened. -/
theorem collect_mirror (schema : Schema) (ns : String) (k : Kernel) (hk : Kernel.Regular k.chain)
    (text : Kernel.Datum → String) (calls : Memory.Calls) (sink : Array Sample) :
    match ((ofSchema schema ns).collect Kernel.source k sink).result,
      ((ofSchema schema ns).collect Memory.source { data := k.mirror text, calls } sink).result with
    | .ok a, .ok b => k.openError = 0 ∧ a.Agrees b
    | .error _, .error _ => k.openError ≠ 0
    | _, _ => False := by
  by_cases ho : k.openError = 0
  · have hm : (k.mirror text).unavailable = false := by simp [Kernel.mirror, ho]
    have hmirror := (collect_memory_eq schema ns (m := { data := k.mirror text, calls }) hm sink).1
    dsimp only at hmirror
    rw [collect_kernel schema ns ho sink, hmirror]
    exact ⟨ho, Scrape.recordAll_agrees _ ((hk.agrees text).events ns schema)⟩
  · have hkernel : ((ofSchema schema ns).collect Kernel.source k sink).result =
        .error (.unopened (.unavailable (osError k.openError))) := by
      simp only [collect, Kernel.source, ho, if_false]
    have hmirror :
        ((ofSchema schema ns).collect Memory.source { data := k.mirror text, calls } sink).result =
        .error (.unopened (.unavailable "/dev/kstat not present")) := by
      simp [collect, Memory.source, Kernel.mirror, ho]
    rw [hkernel, hmirror]
    exact ho

end Collector

/-- A chain with statistics of all kinds: numbers of each type and one that is none, one that cannot
be read, one with a negative instance, a record, and two of which a pattern finds both. -/
def Kernel.brief : Kernel where
  chain := [
    { module := Utf8.encode "cpu", inst := 0, name := Utf8.encode "sys", type := 1, snaptime := 1
      readError := 0, readSnaptime := 10
      payload :=
        some (.named [⟨Utf8.encode "syscall", 4, 9⟩, ⟨Utf8.encode "absent", 1, 0xFFFFFFFF⟩]) },
    { module := Utf8.encode "cpu", inst := 1, name := Utf8.encode "sys", type := 1, snaptime := 1
      readError := 5, readSnaptime := 10, payload := none },
    { module := Utf8.encode "cpu", inst := -1, name := Utf8.encode "sys", type := 1, snaptime := 1
      readError := 0, readSnaptime := 10
      payload := some (.named [⟨Utf8.encode "syscall", 4, 9⟩]) },
    { module := Utf8.encode "unix", inst := 0, name := Utf8.encode "vminfo", type := 0
      snaptime := 1, readError := 0, readSnaptime := 10, payload := some (.ofWords [1, 2, 3, 4, 5, 6] none) },
    { module := Utf8.encode "zones", inst := 0, name := Utf8.encode "zone_misc_a", type := 1
      snaptime := 1, readError := 0, readSnaptime := 10
      payload := some (.named [⟨Utf8.encode "nprocs", 3, 7⟩]) },
    { module := Utf8.encode "zones", inst := 0, name := Utf8.encode "zone_misc_b", type := 1
      snaptime := 1, readError := 0, readSnaptime := 10
      payload := some (.named [⟨Utf8.encode "nprocs", 0, 7⟩]) }]

theorem Kernel.regular_brief : Regular Kernel.brief.chain where
  module := by decide +kernel
  name := by decide +kernel
  datum := by decide +kernel
  distinct := by decide +kernel
  named := by decide +kernel
  attached := by decide +kernel

namespace Collector

theorem collect_mirror_brief :
    Kernel.Regular Kernel.brief.chain ∧
      ∃ a b, ((ofSchema .brief defaultNamespace).collect Kernel.source .brief #[]).result = .ok a ∧
        ((ofSchema .brief defaultNamespace).collect Memory.source
          { data := Kernel.brief.mirror fun _ => "", calls := {} } #[]).result = .ok b ∧
        a.Agrees b ∧ a.emitted = 7 ∧ a.failures.size = 3 := by
  have h := collect_mirror .brief defaultNamespace .brief Kernel.regular_brief (fun _ => "") {} #[]
  have hkernel := collect_kernel .brief defaultNamespace (k := .brief) rfl #[]
  refine ⟨Kernel.regular_brief, ?_⟩
  rw [hkernel] at h ⊢
  generalize ((ofSchema .brief defaultNamespace).collect Memory.source
    { data := Kernel.brief.mirror fun _ => "", calls := {} } #[]).result = r at h ⊢
  cases r with
  | error cause => nomatch h
  | ok b =>
    refine ⟨_, b, rfl, rfl, h.2, ?_, ?_⟩
    · decide +kernel
    · decide +kernel

end Collector

end KernelStats

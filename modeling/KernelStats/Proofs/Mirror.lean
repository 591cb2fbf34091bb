import KernelStats.Proofs.Agreement
import KernelStats.Proofs.MemorySnapshot
import KernelStats.Proofs.RecordLayout

/-!
# Mirrors of the kernel in memory

The mirror of a chain holds in memory what the kernel holds: the statistics with an instance that is
not negative, in their order, each named value under its name and as the number that it is. Reading
a statistic of a regular chain and reading its mirror give the same, but for the reason why
something cannot be read.
-/

namespace KernelStats

namespace Kernel

def IsText (bytes : List UInt8) : Prop := ∃ s, nameBytes bytes = Utf8.encode s

theorem IsText.nameText_eq_iff {bytes : List UInt8} (h : IsText bytes) {s : String} :
    nameText bytes = s ↔ nameBytes bytes = Utf8.encode s := by
  obtain ⟨t, ht⟩ := h
  rw [nameText_of_encode ht, ht]
  exact ⟨congrArg Utf8.encode, Utf8.encode_injective⟩

theorem isText_iff {bytes : List UInt8} :
    IsText bytes ↔ nameBytes bytes = Utf8.encode (nameText bytes) := by
  constructor
  · intro h
    exact h.nameText_eq_iff.mp rfl
  · intro h
    exact ⟨_, h⟩

instance (bytes : List UInt8) : Decidable (IsText bytes) := decidable_of_iff' _ isText_iff

def Payload.data : Payload → List Datum
  | named data => data
  | raw _ => []

namespace Kstat

def data (k : Kstat) : List Datum := (k.payload.map Payload.data).getD []

def isVminfo (k : Kstat) : Bool :=
  k.isNamed StructuredKind.vminfo.module 0 StructuredKind.vminfo.name

def SameKey (k l : Kstat) : Prop :=
  nameBytes k.module = nameBytes l.module ∧ k.inst = l.inst ∧ nameBytes k.name = nameBytes l.name

instance (k l : Kstat) : Decidable (k.SameKey l) := inferInstanceAs (Decidable (_ ∧ _ ∧ _))

end Kstat

structure Keyed (chain : List Kstat) : Prop where
  module : ∀ k ∈ chain, IsText k.module
  name : ∀ k ∈ chain, IsText k.name
  distinct : chain.Pairwise fun k l => ¬ k.SameKey l

/-- A chain whose names are texts, no two statistics of which have the same key, and whose
statistics hold named values, the record of virtual memory apart. Reading one without an error
attaches data. -/
structure Regular (chain : List Kstat) : Prop where
  module : ∀ k ∈ chain, IsText k.module
  name : ∀ k ∈ chain, IsText k.name
  datum : ∀ k ∈ chain, ∀ d ∈ k.data, IsText d.name
  distinct : chain.Pairwise fun k l => ¬ k.SameKey l
  named : ∀ k ∈ chain, k.isVminfo = false → k.type = namedType
  attached : ∀ k ∈ chain, k.readError = 0 → k.attached?.isSome = true

theorem Regular.keyed {chain : List Kstat} (h : Regular chain) : Keyed chain :=
  ⟨h.module, h.name, h.distinct⟩

theorem Regular.payload {chain : List Kstat} (h : Regular chain) {k : Kstat} (hk : k ∈ chain)
    (hr : k.readError = 0) : ∃ p, k.payload = some p ∧ k.attached? = some p := by
  obtain ⟨p, hp⟩ := Option.isSome_iff_exists.mp (h.attached k hk hr)
  exact ⟨p, (Option.filter_eq_some_iff.mp hp).1, hp⟩

/-- A named value as it is kept in memory; what is no number is kept as some text. -/
def Datum.value (text : Datum → String) (d : Datum) : Memory.Value :=
  match d.dataType with
  | 1 => .signed d.word.toUInt32.toInt32.toInt64
  | 2 => .unsigned d.word.toUInt32.toUInt64
  | 3 => .signed d.word.toInt64
  | 4 => .unsigned d.word
  | _ => .text (text d)

def Kstat.mirror (text : Datum → String) (k : Kstat) : Memory.Kstat where
  module := nameText k.module
  inst := k.number
  name := nameText k.name
  snaptime := k.readSnaptime
  stats := k.data.map fun d => (nameText d.name, d.value text)
  unreadable := k.readError ≠ 0

def Kstat.vminfo? (k : Kstat) : Option (Vminfo × Int64) :=
  if k.readError = 0 then
    (Vminfo.ofBytes? ((k.payload.map Payload.bytes).getD [])).map fun fields =>
      (fields, k.readSnaptime)
  else none

def mirror (text : Datum → String) (k : Kernel) : Memory.Data where
  chain := (k.chain.filter fun x => 0 ≤ x.inst.toInt).map (Kstat.mirror text)
  vminfo := (k.chain.find? Kstat.isVminfo).bind Kstat.vminfo?
  unavailable := k.openError ≠ 0

def Datum.answer (stat : String) (d : Datum) : Except SourceError UInt64 :=
  match d.int? with
  | none => .error (.unsupportedType stat d.dataType)
  | some n => if n < 0 then .error (.outOfRange stat (.ofInt n)) else .ok (.ofNat n.toNat)

theorem forgetCause_signed (stat : String) (n : Int64) :
    forgetCause
        (if n.toInt < 0 then .error (.outOfRange stat (.ofInt n.toInt))
        else .ok (.ofNat n.toInt.toNat)) =
      forgetCause (Memory.Value.answer stat (.signed n)) := by
  have hlt : n < 0 ↔ n.toInt < 0 := Int64.lt_iff_toInt_lt
  rw [Memory.Value.answer]
  by_cases hn : n.toInt < 0
  · rw [if_pos hn, if_pos (hlt.mpr hn)]
    rfl
  · have hle : 0 ≤ n := Int64.le_iff_toInt_le.mpr (Int.not_lt.mp hn)
    have hnat : n.toUInt64 = .ofNat n.toInt.toNat := by
      rw [Int64.toNat_toInt, ← Int64.toNat_toUInt64_of_le hle, UInt64.ofNat_toNat]
    rw [if_neg hn, if_neg fun h => hn (hlt.mp h), hnat]

theorem Datum.forgetCause_answer (text : Datum → String) (stat : String) (d : Datum) :
    forgetCause (d.answer stat) = forgetCause ((d.value text).answer stat) := by
  obtain ⟨name, dataType, w⟩ := d
  have hunsigned (n : UInt64) :
      forgetCause (if (n.toNat : Int) < 0 then .error (.outOfRange stat (.ofInt n.toNat))
        else .ok (.ofNat (n.toNat : Int).toNat)) =
      forgetCause (Memory.Value.answer stat (.unsigned n)) := by
    rw [if_neg (Int.not_lt.mpr (Int.natCast_nonneg _)), Int.toNat_natCast, UInt64.ofNat_toNat]
    rfl
  by_cases h1 : dataType = 1
  · subst h1
    have hsigned := forgetCause_signed stat w.toUInt32.toInt32.toInt64
    rw [Int32.toInt_toInt64] at hsigned
    exact hsigned
  by_cases h2 : dataType = 2
  · subst h2
    exact hunsigned w.toUInt32.toUInt64
  by_cases h3 : dataType = 3
  · subst h3
    exact forgetCause_signed stat w.toInt64
  by_cases h4 : dataType = 4
  · subst h4
    exact hunsigned w
  have hint : Datum.int? ⟨name, dataType, w⟩ = none := by simp [Datum.int?]
  have hvalue : Datum.value text ⟨name, dataType, w⟩ = .text (text ⟨name, dataType, w⟩) := by
    simp [Datum.value]
  rw [Datum.answer, hint, hvalue]
  rfl

theorem lookup_mirror {data : List Datum} (h : ∀ d ∈ data, IsText d.name)
    (value : Datum → Memory.Value) (stat : String) :
    (data.map fun d => (nameText d.name, value d)).lookup stat =
      (data.find? fun d => nameBytes d.name == Utf8.encode stat).map value := by
  induction data with
  | nil => rfl
  | cons d data ih =>
    have htext := (h d List.mem_cons_self).nameText_eq_iff (s := stat)
    have ih := ih fun d hd => h d (List.mem_cons_of_mem _ hd)
    rw [List.map_cons, List.lookup_cons, List.find?_cons]
    by_cases hd : nameText d.name = stat
    · rw [htext.mp hd]
      simp [hd]
    · have hne : (nameBytes d.name == Utf8.encode stat) = false := by
        simpa using fun heq => hd (htext.mpr heq)
      have hne' : (stat == nameText d.name) = false := by
        simpa using fun heq : stat = _ => hd heq.symm
      rw [hne, hne']
      exact ih

theorem valueIn_eq {k : Kstat} (hk : k.type = namedType) (p : Payload) (stat : String) :
    Live.valueIn k p stat =
      match p.data.find? fun d => nameBytes d.name == Utf8.encode stat with
      | none => .error (.missingStat stat)
      | some d => d.answer stat := by
  have hfind : ((nameOf? stat).bind fun name => p.find? name) =
      p.data.find? fun d => nameBytes d.name == Utf8.encode stat := by
    cases hn : nameOf? stat with
    | none =>
      refine (List.find?_eq_none.mpr ?_).symm
      rintro d - hd
      exact nameBytes_ne_encode hn d.name (eq_of_beq hd)
    | some bytes =>
      obtain rfl := nameOf?_eq_some hn
      cases p with
      | named data => rfl
      | raw bytes => rfl
  rw [Live.valueIn, if_neg (not_not_intro hk), hfind]
  rfl

theorem Kstat.forgetCause_answer (text : Datum → String) {k : Kstat} {p : Payload}
    (hp : k.payload = some p) (ha : k.attached? = some p) (hk : k.type = namedType)
    (hd : ∀ d ∈ k.data, IsText d.name) (stat : String) :
    forgetCause (k.answer stat) = forgetCause ((k.mirror text).answer stat) := by
  have hdata : k.data = p.data := by rw [Kstat.data, hp]; rfl
  rw [hdata] at hd
  rw [Kstat.answer, ha, Memory.Kstat.answer, Kstat.mirror, hdata, lookup_mirror hd]
  dsimp only
  rw [valueIn_eq hk]
  cases p.data.find? fun d => nameBytes d.name == Utf8.encode stat with
  | none => rfl
  | some d => exact d.forgetCause_answer text stat

theorem forgetCauses_reading (text : Datum → String) {chain : List Kstat} (h : Regular chain)
    {k : Kstat} (hk : k ∈ chain) (hv : k.isVminfo = false) (place slot : Nat) :
    (k.reading place).forgetCauses = ((k.mirror text).reading slot).forgetCauses := by
  rw [Kstat.reading, Memory.Kstat.reading, Kstat.content, Memory.Kstat.content]
  by_cases hr : k.readError = 0
  · obtain ⟨p, hp, ha⟩ := h.payload hk hr
    have hu : (k.mirror text).unreadable = false := by simp [Kstat.mirror, hr]
    have hvalues : (fun stat => forgetCause (k.answer stat)) =
        fun stat => forgetCause ((k.mirror text).answer stat) :=
      funext fun stat => k.forgetCause_answer text hp ha (h.named k hk hv) (h.datum k hk) stat
    have hcontent : Content.forgetCauses { snaptime := k.readSnaptime, value := k.answer } =
        Content.forgetCauses { snaptime := k.readSnaptime, value := (k.mirror text).answer } := by
      rw [Content.forgetCauses, Content.forgetCauses, hvalues]
    rw [if_pos hr, hu, if_neg Bool.false_ne_true]
    exact congrArg (fun content => Reading.mk 0 (nameText k.name) (.ok content)) hcontent
  · have hu : (k.mirror text).unreadable = true := by simp [Kstat.mirror, hr]
    rw [if_neg hr, if_pos hu]
    rfl

end Kernel

end KernelStats

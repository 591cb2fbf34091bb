import KernelStats.Proofs.KernelSnapshot

/-!
# The layout of the record of virtual memory

The kernel keeps the record as six words, one behind the other, and it may grow at its end. Reading it
gives each field its own word under its own name. Data that are too short for six words are refused.
-/

namespace KernelStats

namespace Number

/-- Words that lie one behind the other, so many of them. -/
def words : Nat → List UInt8 → List UInt64
  | 0, _ => []
  | count + 1, bytes => wordOfBytes (bytes.take 8) :: words count (bytes.drop 8)

theorem length_words (count : Nat) (bytes : List UInt8) : (words count bytes).length = count := by
  induction count generalizing bytes with
  | zero => rfl
  | succ count ih => rw [words, List.length_cons, ih]

theorem words_flatMap_bytesOfWord (ws : List UInt64) (rest : List UInt8) (count : Nat) :
    words (ws.length + count) (ws.flatMap bytesOfWord ++ rest) = ws ++ words count rest := by
  induction ws with
  | nil => simp
  | cons w ws ih =>
    have hcount : (w :: ws).length + count = ws.length + count + 1 := by
      rw [List.length_cons]
      omega
    rw [hcount, List.flatMap_cons, List.append_assoc, words, List.take_left' (length_bytesOfWord w),
      List.drop_left' (length_bytesOfWord w), ih, wordOfBytes_bytesOfWord, List.cons_append]

theorem flatMap_words {count : Nat} {bytes : List UInt8} (h : 8 * count ≤ bytes.length) :
    (words count bytes).flatMap bytesOfWord = bytes.take (8 * count) := by
  induction count generalizing bytes with
  | zero => rfl
  | succ count ih =>
    have hfirst : (bytes.take 8).length = 8 := by
      rw [List.length_take]
      omega
    have hrest : 8 * count ≤ (bytes.drop 8).length := by
      rw [List.length_drop]
      omega
    rw [words, List.flatMap_cons, bytesOfWord_wordOfBytes hfirst, ih hrest, ← List.take_add,
      Nat.mul_succ, Nat.add_comm 8]

end Number

namespace Vminfo

def bytes (v : Vminfo) : List UInt8 := (v.words.map (·.2)).flatMap Number.bytesOfWord

theorem length_bytes (v : Vminfo) : v.bytes.length = 48 := by
  simp [bytes, words]

def ofWords? : List UInt64 → Option Vminfo
  | freemem :: swapResv :: swapAlloc :: swapAvail :: swapFree :: updates :: _ =>
    some { freemem, swapResv, swapAlloc, swapAvail, swapFree, updates }
  | _ => none

theorem ofWords?_append (v : Vminfo) (more : List UInt64) :
    ofWords? (v.words.map (·.2) ++ more) = some v := rfl

theorem exists_eq_of_ofWords? {ws : List UInt64} {v : Vminfo} (h : ofWords? ws = some v) :
    ∃ more, ws = v.words.map (·.2) ++ more := by
  fun_cases ofWords? ws with
  | case1 freemem swapResv swapAlloc swapAvail swapFree updates more =>
    obtain rfl := Option.some.inj h
    exact ⟨more, rfl⟩
  | case2 => simp_all [ofWords?]

theorem ofWords?_eq_none {ws : List UInt64} (h : ws.length < 6) : ofWords? ws = none := by
  rw [Option.eq_none_iff_forall_ne_some]
  intro v hv
  obtain ⟨more, rfl⟩ := exists_eq_of_ofWords? hv
  rw [List.length_append] at h
  exact Nat.not_lt_of_le (Nat.le_add_right 6 more.length) h

/-- The record whose words bytes begin with, if they have room for them. -/
def ofBytes? (bytes : List UInt8) : Option Vminfo :=
  ofWords? (Number.words (bytes.length / 8) bytes)

theorem ofBytes?_eq_some_iff {bytes : List UInt8} {v : Vminfo} :
    ofBytes? bytes = some v ↔ ∃ rest, bytes = v.bytes ++ rest := by
  constructor
  · intro h
    obtain ⟨more, hmore⟩ := exists_eq_of_ofWords? h
    have hwhole := Number.flatMap_words (Nat.mul_div_le bytes.length 8)
    rw [hmore, List.flatMap_append] at hwhole
    refine ⟨more.flatMap Number.bytesOfWord ++ bytes.drop (8 * (bytes.length / 8)), ?_⟩
    rw [← List.append_assoc, Vminfo.bytes, hwhole, List.take_append_drop]
  · intro h
    obtain ⟨rest, rfl⟩ := h
    have hcount : (v.bytes ++ rest).length / 8 =
        (v.words.map (·.2)).length + rest.length / 8 := by
      have hsix : (v.words.map (·.2)).length = 6 := rfl
      rw [List.length_append, v.length_bytes, hsix]
      omega
    rw [ofBytes?, hcount, bytes, Number.words_flatMap_bytesOfWord]
    exact v.ofWords?_append _

end Vminfo

theorem StructuredStats.eq_of_get? {stats stats' : StructuredStats}
    (ht : stats.snaptime = stats'.snaptime) (h : ∀ id, stats.get? id = stats'.get? id) :
    stats = stats' := by
  obtain ⟨v, t⟩ := stats
  obtain ⟨v', t'⟩ := stats'
  have hfree := Option.some.inj (h "freemem")
  have hresv := Option.some.inj (h "swap_resv")
  have halloc := Option.some.inj (h "swap_alloc")
  have havail := Option.some.inj (h "swap_avail")
  have hswap := Option.some.inj (h "swap_free")
  have hupdates := Option.some.inj (h "updates")
  obtain ⟨_, _, _, _, _, _⟩ := v
  obtain ⟨_, _, _, _, _, _⟩ := v'
  simp_all [StructuredStats.snaptime]

namespace Kernel

theorem vminfoOf?_eq_ofBytes? (bytes : List UInt8) :
    Live.vminfoOf? bytes = Vminfo.ofBytes? bytes := by
  rw [Live.vminfoOf?, Vminfo.ofBytes?]
  by_cases hlength : bytes.length < 48
  · have hfew : (Number.words (bytes.length / 8) bytes).length < 6 := by
      rw [Number.length_words]
      omega
    rw [if_pos hlength, Vminfo.ofWords?_eq_none hfew]
  · obtain ⟨more, hmore⟩ : ∃ more, bytes.length / 8 = more + 6 :=
      ⟨bytes.length / 8 - 6, by omega⟩
    rw [if_neg hlength, hmore]
    simp only [Number.words, List.drop_drop]
    rfl

theorem vminfoOf?_eq_some_iff {bytes : List UInt8} {v : Vminfo} :
    Live.vminfoOf? bytes = some v ↔ ∃ rest, bytes = v.bytes ++ rest := by
  rw [vminfoOf?_eq_ofBytes?, Vminfo.ofBytes?_eq_some_iff]

theorem vminfoOf?_eq_none_iff {bytes : List UInt8} :
    Live.vminfoOf? bytes = none ↔ bytes.length < 48 := by
  simp [Live.vminfoOf?]

namespace Live

structure HasRecord (s : Live) (before : List Link) (l : Link) (after : List Link) : Prop where
  chain : s.chain = before ++ l :: after
  named : l.kstat.isNamed "unix" 0 "vminfo" = true
  first : ∀ x ∈ before, x.kstat.isNamed "unix" 0 "vminfo" = false

/-- What asking for the record comes to, and what it leaves of the session. -/
inductive Decodes (s : Live) : Except SourceError StructuredStats → Live → Prop
  | absent (h : ∀ l ∈ s.chain, l.kstat.isNamed "unix" 0 "vminfo" = false) :
    Decodes s (.error (.notFound "unix" 0 "vminfo")) s
  | unread {before : List Link} {l : Link} {after : List Link} (h : s.HasRecord before l after)
    (hr : l.kstat.readError ≠ 0) : Decodes s (.error (.read (osError l.kstat.readError))) s
  | null {before : List Link} {l : Link} {after : List Link} (h : s.HasRecord before l after)
    (hr : l.kstat.readError = 0) (hp : l.refreshed.payload = none) :
    Decodes s (.error (.read "vminfo is 0 bytes"))
      { s with chain := before ++ l.refreshed :: after }
  | short {before : List Link} {l : Link} {after : List Link} {p : Payload}
    (h : s.HasRecord before l after) (hr : l.kstat.readError = 0)
    (hp : l.refreshed.payload = some p) (hlength : p.bytes.length < 48) :
    Decodes s (.error (.read ("vminfo is " ++ toString p.bytes.length ++ " bytes")))
      { s with chain := before ++ l.refreshed :: after }
  | whole {before : List Link} {l : Link} {after : List Link} {p : Payload} {fields : Vminfo}
    {rest : List UInt8} {stats : StructuredStats} (h : s.HasRecord before l after)
    (hr : l.kstat.readError = 0) (hp : l.refreshed.payload = some p)
    (hbytes : p.bytes = fields.bytes ++ rest) (htime : stats.snaptime = l.refreshed.snaptime)
    (hget : ∀ id, stats.get? id = fields.words.lookup id) :
    Decodes s (.ok stats) { s with chain := before ++ l.refreshed :: after }

variable {s : Live}

theorem findExact?_record (s : Live) :
    s.findExact? "unix" 0 "vminfo" = s.chain.findIdx? (·.kstat.isNamed "unix" 0 "vminfo") := rfl

theorem absent_or_hasRecord (s : Live) :
    (∀ l ∈ s.chain, l.kstat.isNamed "unix" 0 "vminfo" = false) ∨
      ∃ before l after, s.HasRecord before l after := by
  cases hfind : s.chain.find? (·.kstat.isNamed "unix" 0 "vminfo") with
  | none =>
    left
    simpa using hfind
  | some l =>
    right
    obtain ⟨hnamed, before, after, hchain, hfirst⟩ := List.find?_eq_some_iff_append.mp hfind
    refine ⟨before, l, after, hchain, hnamed, ?_⟩
    simpa using hfirst

theorem HasRecord.structured {before after : List Link} {l : Link} (h : s.HasRecord before l after) :
    s.structured .vminfo =
      if l.kstat.readError = 0 then
        let bytes := (l.refreshed.payload.map Payload.bytes).getD []
        (match vminfoOf? bytes with
          | some fields => .ok (.vminfo fields l.refreshed.snaptime)
          | none => .error (.read ("vminfo is " ++ toString bytes.length ++ " bytes")),
          { s with chain := before ++ l.refreshed :: after })
      else (.error (.read (osError l.kstat.readError)), s) := by
  have hfind : s.findExact? "unix" 0 "vminfo" = some before.length := by
    rw [findExact?_record, h.chain, List.findIdx?_append, List.findIdx?_eq_none_iff.mpr h.first,
      List.findIdx?_cons, h.named]
    simp
  have hlink : s.chain[before.length]? = some l := by simp [h.chain]
  have hset : s.chain.set before.length l.refreshed = before ++ l.refreshed :: after := by
    simp [h.chain]
  rw [Live.structured, StructuredKind.module, StructuredKind.name, hfind]
  simp only [Option.bind_some, hlink, Option.map_some, refresh, hset]
  by_cases hr : l.kstat.readError = 0
  · simp only [hr, if_true]
    cases vminfoOf? ((l.refreshed.payload.map Payload.bytes).getD []) <;> rfl
  · simp only [hr, if_false]

theorem structured_of_absent (h : ∀ l ∈ s.chain, l.kstat.isNamed "unix" 0 "vminfo" = false) :
    s.structured .vminfo = (.error (.notFound "unix" 0 "vminfo"), s) := by
  have hfind : s.findExact? "unix" 0 "vminfo" = none := by
    rw [findExact?_record, List.findIdx?_eq_none_iff]
    exact h
  rw [Live.structured, StructuredKind.module, StructuredKind.name, hfind]
  rfl

theorem Decodes.structured_eq {answer : Except SourceError StructuredStats} {t : Live}
    (h : s.Decodes answer t) : s.structured .vminfo = (answer, t) := by
  cases h with
  | absent h => exact structured_of_absent h
  | unread h hr => rw [h.structured, if_neg hr]
  | null h hr hp =>
    rw [h.structured, if_pos hr, hp]
    rfl
  | short h hr hp hlength =>
    rw [h.structured, if_pos hr, hp]
    simp [vminfoOf?_eq_none_iff.mpr hlength]
  | @whole _ l _ _ fields _ stats h hr hp hbytes htime hget =>
    have hstats : stats = .vminfo fields l.refreshed.snaptime :=
      StructuredStats.eq_of_get? htime fun id => (hget id).trans (fields.get?_eq_lookup id).symm
    rw [h.structured, if_pos hr, hp, hstats]
    simp [vminfoOf?_eq_some_iff.mpr ⟨_, hbytes⟩]

theorem decodes_structured (s : Live) :
    s.Decodes (s.structured .vminfo).1 (s.structured .vminfo).2 := by
  have hway {answer : Except SourceError StructuredStats} {t : Live} (h : s.Decodes answer t) :
      s.Decodes (s.structured .vminfo).1 (s.structured .vminfo).2 := by
    rw [h.structured_eq]
    exact h
  rcases s.absent_or_hasRecord with habsent | ⟨before, l, after, h⟩
  · exact hway (.absent habsent)
  · by_cases hr : l.kstat.readError = 0
    · cases hp : l.refreshed.payload with
      | none => exact hway (.null h hr hp)
      | some p =>
        by_cases hlength : p.bytes.length < 48
        · exact hway (.short h hr hp hlength)
        · have hsome : ∃ fields, vminfoOf? p.bytes = some fields := by
            rw [← Option.isSome_iff_exists, ← Option.ne_none_iff_isSome]
            exact mt vminfoOf?_eq_none_iff.mp hlength
          obtain ⟨fields, hfields⟩ := hsome
          obtain ⟨rest, hbytes⟩ := vminfoOf?_eq_some_iff.mp hfields
          have hwhole : s.Decodes (.ok (.vminfo fields l.refreshed.snaptime)) _ :=
            .whole h hr hp hbytes rfl fields.get?_eq_lookup
          exact hway hwhole
    · exact hway (.unread h hr)

/-- Asking for the record of virtual memory reads the first statistic of its key and gives back the words
that its data begin with, each under its name, with the time of that very reading. It fails if and only
if there is no such statistic, it cannot be read, or its data have no room for six words. -/
theorem structured_iff_decodes (s : Live) (answer : Except SourceError StructuredStats) (t : Live) :
    s.structured .vminfo = (answer, t) ↔ s.Decodes answer t := by
  constructor
  · intro h
    have hway := s.decodes_structured
    rwa [h] at hway
  · intro h
    exact h.structured_eq

example :
    let k (size : Nat) : Kstat :=
      { module := Utf8.encode "unix", inst := 0, name := Utf8.encode "vminfo", type := 0
        snaptime := 1, readError := 0, readSnaptime := 10
        payload := some (.ofWords [1, 2, 3, 4, 5, 6, 7] size) }
    let answer (size : Nat) := (Live.structured { chain := [.ofKstat (k size)] } .vminfo).1
    answer 47 = .error (.read "vminfo is 47 bytes") ∧
      answer 48 = .ok (.vminfo ⟨1, 2, 3, 4, 5, 6⟩ 10) ∧ answer 49 = answer 48 := by
  decide +kernel

end Live

end Kernel

end KernelStats

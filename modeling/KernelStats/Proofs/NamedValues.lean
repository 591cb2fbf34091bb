import KernelStats.Proofs.HandleTable
import KernelStats.Proofs.Independence
import KernelStats.Proofs.Interchange

/-!
# Numbers of named values

The bytes of a named value mean a number according to its type: four or eight of them count, and a
number may have a sign. Asking for a value gives that number if it is not negative, and else the error
of the first check that fails.
-/

namespace KernelStats

namespace Kernel

structure Format where
  size : Nat
  signed : Bool

namespace Format

def ofType? : UInt8 → Option Format
  | 1 => some ⟨4, true⟩
  | 2 => some ⟨4, false⟩
  | 3 => some ⟨8, true⟩
  | 4 => some ⟨8, false⟩
  | _ => none

def field (f : Format) (d : Datum) : List UInt8 := (d.bytes.drop 32).take f.size

def least (f : Format) : Int := if f.signed then -((256 ^ f.size / 2 : Nat) : Int) else 0

/-- The number that a field holds: of those that differ from its bytes by whole turns, the one in the
range of the format. -/
structure Reads (f : Format) (d : Datum) (n : Int) : Prop where
  turns : ((256 ^ f.size : Nat) : Int) ∣ n - (Number.wordOfBytes (f.field d)).toNat
  least_le : f.least ≤ n
  lt : n < f.least + (256 ^ f.size : Nat)

theorem length_nameField (length : Nat) (name : List UInt8) :
    (nameField length name).length = length := by
  simp only [nameField, List.length_append, List.length_replicate, List.length_take]
  omega

theorem toNat_field (f : Format) (d : Datum) (hf : f.size ≤ 8) :
    (Number.wordOfBytes (f.field d)).toNat = d.word.toNat % 256 ^ f.size := by
  have hbytes : d.bytes.drop 32 = Number.bytesOfWord d.word ++ List.replicate 8 0 := by
    have hname : (nameField 31 d.name ++ [d.dataType]).length = 32 := by
      rw [List.length_append, length_nameField]
      rfl
    rw [Datum.bytes, List.append_assoc, ← hname, List.drop_left]
  have hfield : f.field d = Number.bytesOfNat f.size d.word.toNat := by
    rw [field, hbytes, List.take_append_of_le_length (by simpa using hf), Number.bytesOfWord,
      Number.take_bytesOfNat hf]
  rw [hfield, Number.toNat_wordOfBytes (by simpa using hf), Number.foldr_bytesOfNat]

theorem reads_iff {f : Format} {d : Datum} {n : Int} (hf : f.size ≤ 8) :
    f.Reads d n ↔ ((256 ^ f.size : Nat) : Int) ∣ n - (d.word.toNat % 256 ^ f.size : Nat) ∧
      f.least ≤ n ∧ n < f.least + (256 ^ f.size : Nat) := by
  rw [← toNat_field f d hf]
  constructor
  · intro h
    exact ⟨h.turns, h.least_le, h.lt⟩
  · intro h
    exact ⟨h.1, h.2.1, h.2.2⟩

theorem reads_unsigned {size : Nat} {d : Datum} {n : Int} (h : size ≤ 8) :
    Reads ⟨size, false⟩ d n ↔ ((d.word.toNat % 256 ^ size : Nat) : Int) = n := by
  have hpos : 0 < 256 ^ size := Nat.pow_pos (by decide)
  have hmod := Int.emod_eq_iff (a := (d.word.toNat % 256 ^ size : Nat))
    (b := (256 ^ size : Nat)) (c := n) (by omega)
  rw [← Int.natCast_emod, Nat.mod_mod, Int.natAbs_natCast] at hmod
  rw [reads_iff h, hmod]
  simp only [least, Bool.false_eq_true, if_false, Int.zero_add]
  constructor
  · intro h
    exact ⟨h.2.1, h.2.2, h.1⟩
  · intro h
    exact ⟨h.2.2, h.1, h.2.1⟩

theorem reads_signed {size : Nat} {d : Datum} {n : Int} (hpos : 0 < size) (h : size ≤ 8) :
    Reads ⟨size, true⟩ d n ↔
      ((d.word.toNat % 256 ^ size : Nat) : Int).bmod (256 ^ size) = n := by
  -- a turn is even: half of the range lies below zero
  obtain ⟨half, hhalf⟩ : ∃ half, 256 ^ size = 2 * half := by
    obtain ⟨k, rfl⟩ : ∃ k, size = k + 1 := ⟨size - 1, by omega⟩
    exact ⟨128 * 256 ^ k, by rw [Nat.pow_succ]; omega⟩
  have hturn : 0 < 256 ^ size := Nat.pow_pos (by decide)
  rw [reads_iff h, Int.bmod_eq_iff hturn]
  simp only [least, if_true]
  rw [hhalf]
  constructor
  · intro h
    refine ⟨?_, ?_, h.1⟩
    · omega
    · omega
  · intro h
    refine ⟨h.2.2, ?_, ?_⟩
    · omega
    · omega

theorem toInt_toInt32 (x : UInt32) : x.toInt32.toInt = (x.toNat : Int).bmod (256 ^ 4) :=
  BitVec.toInt_eq_toNat_bmod _

theorem toInt_toInt64 (x : UInt64) : x.toInt64.toInt = (x.toNat : Int).bmod (256 ^ 8) :=
  BitVec.toInt_eq_toNat_bmod _

theorem range_of_ofType? {dataType : UInt8} {f : Format} {d : Datum} {n : Int}
    (h : ofType? dataType = some f) (hn : f.Reads d n) : -2 ^ 63 ≤ n ∧ n < 2 ^ 64 := by
  have hleast := hn.least_le
  have hlt := hn.lt
  unfold ofType? at h
  split at h
  case h_5 => cases h
  all_goals
    obtain rfl := Option.some.inj h
    simp only [least, if_true, Bool.false_eq_true, if_false] at hleast hlt
    omega

end Format

theorem Datum.int?_eq_some_iff {d : Datum} {n : Int} :
    d.int? = some n ↔ ∃ f, Format.ofType? d.dataType = some f ∧ f.Reads d n := by
  have hlow : d.word.toUInt32.toNat = d.word.toNat % 256 ^ 4 := UInt64.toNat_toUInt32 d.word
  have hwhole : d.word.toNat % 256 ^ 8 = d.word.toNat := Nat.mod_eq_of_lt d.word.toNat_lt
  rw [Datum.int?]
  split
  case h_1 htype => simp [htype, Format.ofType?, Format.reads_signed, Format.toInt_toInt32, hlow]
  case h_2 htype => simp [htype, Format.ofType?, Format.reads_unsigned, hlow]
  case h_3 htype => simp [htype, Format.ofType?, Format.reads_signed, Format.toInt_toInt64, hwhole]
  case h_4 htype => simp [htype, Format.ofType?, Format.reads_unsigned, hwhole]
  case h_5 => simp [Format.ofType?]

theorem Datum.int?_eq_none_iff {d : Datum} : d.int? = none ↔ Format.ofType? d.dataType = none := by
  unfold Datum.int? Format.ofType?
  split <;> simp_all

theorem Datum.answer_of_none {d : Datum} (h : d.int? = none) (stat : String) :
    d.answer stat = .error (.unsupportedType stat d.dataType) := by
  rw [answer, h]

theorem Datum.answer_of_neg {d : Datum} {n : Int} (h : d.int? = some n) (hn : n < 0)
    (stat : String) : d.answer stat = .error (.outOfRange stat (.ofInt n)) := by
  rw [answer, h]
  exact if_pos hn

theorem Datum.answer_of_nonneg {d : Datum} {n : Int} (h : d.int? = some n) (hn : 0 ≤ n)
    (stat : String) : d.answer stat = .ok (.ofNat n.toNat) := by
  rw [answer, h]
  exact if_neg (Int.not_lt.mpr hn)

def Payload.IsFirst (p : Payload) (stat : String) (d : Datum) : Prop :=
  ∃ before after, p.data = before ++ d :: after ∧ nameBytes d.name = Utf8.encode stat ∧
    ∀ x ∈ before, nameBytes x.name ≠ Utf8.encode stat

theorem nameBytes_ne_of_zero {stat : String} (h : '\x00' ∈ stat.toList) (bytes : List UInt8) :
    nameBytes bytes ≠ Utf8.encode stat := by
  intro heq
  have hzero : 0 ∈ Utf8.encode stat := List.mem_flatMap.mpr ⟨'\x00', h, by decide⟩
  rw [← heq] at hzero
  exact zero_notMem_nameBytes bytes hzero

namespace Live

def Notes (s : Live) (slot : Nat) (l : Link) : Prop :=
  ∃ place, s.handles[slot]? = some place ∧ s.chain[place]? = some l

def Wired (s : Live) : Prop := ∀ place ∈ s.handles.toList, place < s.chain.length

/-- What asking for a value comes to. Each check is made after those of the cases before. -/
inductive Takes (s : Live) (e : Entry) (stat : String) : Except SourceError UInt64 → Prop
  | unnoted (h : s.handles.size ≤ e.slot) : Takes s e stat (.error (.missingStat stat))
  | unread {l : Link} (h : s.Notes e.slot l) (hp : l.payload = none) :
    Takes s e stat
      (.error (.read (SourceError.place e.module e.inst e.name ++ " has not been read")))
  | unnamed {l : Link} {p : Payload} (h : s.Notes e.slot l) (hp : l.payload = some p)
    (ht : l.kstat.type ≠ namedType) :
    Takes s e stat (.error (.unsupportedType stat l.kstat.type))
  | absent {l : Link} {p : Payload} (h : s.Notes e.slot l) (hp : l.payload = some p)
    (ht : l.kstat.type = namedType)
    (hd : '\x00' ∈ stat.toList ∨ ∀ d ∈ p.data, nameBytes d.name ≠ Utf8.encode stat) :
    Takes s e stat (.error (.missingStat stat))
  | untyped {l : Link} {p : Payload} {d : Datum} (h : s.Notes e.slot l) (hp : l.payload = some p)
    (ht : l.kstat.type = namedType) (hd : p.IsFirst stat d)
    (hf : Format.ofType? d.dataType = none) :
    Takes s e stat (.error (.unsupportedType stat d.dataType))
  | negative {l : Link} {p : Payload} {d : Datum} {f : Format} {n : Int} {value : Int64}
    (h : s.Notes e.slot l) (hp : l.payload = some p) (ht : l.kstat.type = namedType)
    (hd : p.IsFirst stat d) (hf : Format.ofType? d.dataType = some f) (hn : f.Reads d n)
    (hneg : n < 0) (hv : value.toInt = n) :
    Takes s e stat (.error (.outOfRange stat value))
  | number {l : Link} {p : Payload} {d : Datum} {f : Format} {n : Int} {v : UInt64}
    (h : s.Notes e.slot l) (hp : l.payload = some p) (ht : l.kstat.type = namedType)
    (hd : p.IsFirst stat d) (hf : Format.ofType? d.dataType = some f) (hn : f.Reads d n)
    (hneg : 0 ≤ n) (hv : (v.toNat : Int) = n) :
    Takes s e stat (.ok v)

variable {s : Live}

theorem value_of_notes {e : Entry} {l : Link} (h : s.Notes e.slot l) (stat : String) :
    s.value e stat =
      match l.payload with
      | none =>
        .error (.read (SourceError.place e.module e.inst e.name ++ " has not been read"))
      | some p => valueIn l.kstat p stat := by
  obtain ⟨place, hhandle, hl⟩ := h
  have hresolve := resolve?_eq_some.mpr ⟨hhandle, hl⟩
  cases hp : l.payload <;> simp only [value, hresolve, hp]

theorem value_out_of_range {e : Entry} (h : s.handles.size ≤ e.slot) (stat : String) :
    s.value e stat = .error (.missingStat stat) := by
  have hresolve : s.resolve? e = none := by
    rw [resolve?, Array.getElem?_eq_none h]
    rfl
  rw [value, hresolve]

theorem find?_eq_some_iff_isFirst {p : Payload} {stat : String} {d : Datum} :
    p.data.find? (fun d => nameBytes d.name == Utf8.encode stat) = some d ↔ p.IsFirst stat d := by
  rw [List.find?_eq_some_iff_append]
  constructor
  · rintro ⟨hname, before, after, hdata, hfirst⟩
    exact ⟨before, after, hdata, by simpa using hname, by simpa using hfirst⟩
  · rintro ⟨before, after, hdata, hname, hfirst⟩
    exact ⟨by simpa using hname, before, after, hdata, by simpa using hfirst⟩

theorem valueIn_of_isFirst {k : Kstat} {p : Payload} {stat : String} {d : Datum}
    (ht : k.type = namedType) (hd : p.IsFirst stat d) : valueIn k p stat = d.answer stat := by
  rw [valueIn_eq ht, find?_eq_some_iff_isFirst.mpr hd]

theorem valueIn_of_absent {k : Kstat} {p : Payload} {stat : String} (ht : k.type = namedType)
    (hd : ∀ d ∈ p.data, nameBytes d.name ≠ Utf8.encode stat) :
    valueIn k p stat = .error (.missingStat stat) := by
  have hfind : p.data.find? (fun d => nameBytes d.name == Utf8.encode stat) = none := by
    simpa using hd
  rw [valueIn_eq ht, hfind]

theorem Takes.value_eq {e : Entry} {stat : String} {answer : Except SourceError UInt64}
    (h : s.Takes e stat answer) : s.value e stat = answer := by
  cases h with
  | unnoted h => exact value_out_of_range h stat
  | unread h hp => rw [value_of_notes h, hp]
  | unnamed h hp ht =>
    rw [value_of_notes h, hp]
    exact if_pos ht
  | absent h hp ht hd =>
    rw [value_of_notes h, hp]
    refine valueIn_of_absent ht ?_
    rcases hd with hzero | hd
    · intro d _
      exact nameBytes_ne_of_zero hzero d.name
    · exact hd
  | untyped h hp ht hd hf =>
    rw [value_of_notes h, hp]
    dsimp only
    rw [valueIn_of_isFirst ht hd, Datum.answer_of_none (Datum.int?_eq_none_iff.mpr hf)]
  | negative h hp ht hd hf hn hneg hv =>
    have hint := Datum.int?_eq_some_iff.mpr ⟨_, hf, hn⟩
    rw [value_of_notes h, hp]
    dsimp only
    rw [valueIn_of_isFirst ht hd, Datum.answer_of_neg hint hneg, ← hv, Int64.ofInt_toInt]
  | number h hp ht hd hf hn hneg hv =>
    have hint := Datum.int?_eq_some_iff.mpr ⟨_, hf, hn⟩
    rw [value_of_notes h, hp]
    dsimp only
    rw [valueIn_of_isFirst ht hd, Datum.answer_of_nonneg hint hneg, ← hv, Int.toNat_natCast,
      UInt64.ofNat_toNat]

theorem Wired.notes (hs : s.Wired) {slot : Nat} (h : slot < s.handles.size) :
    ∃ l, s.Notes slot l := by
  have hhandle : s.handles[slot]? = some s.handles[slot] := Array.getElem?_eq_getElem h
  have hplace := hs _ (Array.getElem_mem_toList h)
  exact ⟨_, _, hhandle, List.getElem?_eq_getElem hplace⟩

theorem Takes.of_first {e : Entry} {stat : String} {l : Link} {p : Payload} {d : Datum}
    (h : s.Notes e.slot l) (hp : l.payload = some p) (ht : l.kstat.type = namedType)
    (hd : p.IsFirst stat d) : ∃ answer, s.Takes e stat answer := by
  cases hint : d.int? with
  | none => exact ⟨_, .untyped h hp ht hd (Datum.int?_eq_none_iff.mp hint)⟩
  | some n =>
    obtain ⟨f, hf, hn⟩ := Datum.int?_eq_some_iff.mp hint
    obtain ⟨hleast, hlt⟩ := Format.range_of_ofType? hf hn
    by_cases hneg : n < 0
    · have hvalue : (Int64.ofInt n).toInt = n := Int64.toInt_ofInt_of_le hleast (by omega)
      exact ⟨_, .negative h hp ht hd hf hn hneg hvalue⟩
    · have hnat : n.toNat < 2 ^ 64 := by omega
      have hvalue : ((UInt64.ofNat n.toNat).toNat : Int) = n := by
        rw [UInt64.toNat_ofNat_of_lt' hnat]
        omega
      exact ⟨_, .number h hp ht hd hf hn (Int.not_lt.mp hneg) hvalue⟩

theorem Wired.takes_value (hs : s.Wired) (e : Entry) (stat : String) :
    s.Takes e stat (s.value e stat) := by
  have hway : ∃ answer, s.Takes e stat answer := by
    by_cases hslot : e.slot < s.handles.size
    · obtain ⟨l, h⟩ := hs.notes hslot
      cases hp : l.payload with
      | none => exact ⟨_, .unread h hp⟩
      | some p =>
        by_cases ht : l.kstat.type = namedType
        · cases hfind : p.data.find? fun d => nameBytes d.name == Utf8.encode stat with
          | none => exact ⟨_, .absent h hp ht (.inr (by simpa using hfind))⟩
          | some d => exact Takes.of_first h hp ht (find?_eq_some_iff_isFirst.mp hfind)
        · exact ⟨_, .unnamed h hp ht⟩
    · exact ⟨_, .unnoted (Nat.not_lt.mp hslot)⟩
  obtain ⟨answer, h⟩ := hway
  rwa [h.value_eq]

theorem Wired.of_handles {t : Live} (hs : s.Wired) (hchain : t.Over (s.chain.map (·.kstat)))
    (hhandles : t.handles = s.handles) : t.Wired := by
  have hlength : t.chain.length = s.chain.length := by
    simpa using congrArg List.length (show t.chain.map (·.kstat) = _ from hchain)
  intro place hplace
  rw [hhandles] at hplace
  rw [hlength]
  exact hs place hplace

theorem wired_lookup (hs : s.Wired) (module : String) (inst : UInt32) (group : GroupPattern) :
    (s.lookup module inst group).2.Wired := by
  rw [lookup]
  split_ifs
  · exact hs
  · split
    · exact hs
    · intro place hplace
      dsimp only at hplace
      rw [Array.toList_appendList, List.mem_append] at hplace
      rcases hplace with hplace | hplace
      · exact hs place hplace
      · obtain ⟨l, hl, -⟩ := isMatch_of_mem_findAll hplace
        exact (List.getElem?_eq_some_iff.mp hl).1

theorem wired_ask (hs : s.Wired) (q : Query) : (source.ask s q).2.Wired := by
  cases q with
  | lookup module inst group => exact wired_lookup hs module inst group
  | read e =>
    obtain ⟨hchain, hhandles⟩ := s.read_keeps e
    exact hs.of_handles hchain hhandles
  | value e stat => exact hs
  | structured kind =>
    have hover : s.Over (s.chain.map (·.kstat)) := rfl
    exact hs.of_handles (hover.structured kind).1 (s.structured_handles kind)
  | snapshotTime e => exact hs

theorem wired_askAll (hs : s.Wired) (qs : List Query) : (source.askAll s qs).2.Wired := by
  induction qs generalizing s with
  | nil => exact hs
  | cons q qs ih => exact ih (wired_ask hs q)

theorem wired_ofLinks (chain : List Link) : Wired { chain } := by
  intro place hplace
  cases hplace

end Live

end Kernel

def SourceError.typeless : SourceError → SourceError
  | unsupportedType stat _ => unsupportedType stat 0
  | e => e

namespace Kernel

/-- A value in memory holds the number that a named value holds, or a text in place of what is no
number. -/
inductive Datum.Stores (d : Datum) : Memory.Value → Prop
  | unsigned {f : Format} {n : UInt64} (hf : Format.ofType? d.dataType = some f)
    (h : f.Reads d n.toNat) : Stores d (.unsigned n)
  | signed {f : Format} {n : Int64} (hf : Format.ofType? d.dataType = some f)
    (h : f.Reads d n.toInt) : Stores d (.signed n)
  | text {s : String} (hf : Format.ofType? d.dataType = none) : Stores d (.text s)

def Datum.Corresponds (d : Datum) (x : String × Memory.Value) : Prop :=
  nameBytes d.name = Utf8.encode x.1 ∧ d.Stores x.2

inductive Live.SameData (s : Live) (e : Entry) (d : Memory.Data) (e' : Entry) : Prop
  | nowhere (h : s.handles.size ≤ e.slot) (h' : d.chain.length ≤ e'.slot)
  | held {l : Link} {p : Payload} {k : Memory.Kstat} (h : s.Notes e.slot l)
    (hp : l.payload = some p) (ht : l.kstat.type = namedType) (h' : d.chain[e'.slot]? = some k)
    (hstats : List.Forall₂ Datum.Corresponds p.data k.stats)

theorem Datum.Stores.answer_agrees {d : Datum} {v : Memory.Value} (h : d.Stores v) (stat : String) :
    (d.answer stat).mapError SourceError.typeless =
      (v.answer stat).mapError SourceError.typeless := by
  cases h with
  | @unsigned f n hf h =>
    have hint := Datum.int?_eq_some_iff.mpr ⟨f, hf, h⟩
    rw [Datum.answer_of_nonneg hint (Int.natCast_nonneg _), Int.toNat_natCast, UInt64.ofNat_toNat]
    rfl
  | @signed f n hf h =>
    have hint := Datum.int?_eq_some_iff.mpr ⟨f, hf, h⟩
    have hlt : n < 0 ↔ n.toInt < 0 := Int64.lt_iff_toInt_lt
    rw [Memory.Value.answer]
    by_cases hn : n.toInt < 0
    · rw [Datum.answer_of_neg hint hn, if_pos (hlt.mpr hn), Int64.ofInt_toInt]
    · have hle : 0 ≤ n := Int64.le_iff_toInt_le.mpr (Int.not_lt.mp hn)
      rw [Datum.answer_of_nonneg hint (Int.not_lt.mp hn), if_neg (fun h => hn (hlt.mp h)),
        Int64.toNat_toInt, ← Int64.toNat_toUInt64_of_le hle, UInt64.ofNat_toNat]
  | text hf =>
    rw [Datum.answer_of_none (Datum.int?_eq_none_iff.mpr hf)]
    rfl

theorem lookup_of_corresponds {data : List Datum} {stats : List (String × Memory.Value)}
    (h : List.Forall₂ Datum.Corresponds data stats) (stat : String) :
    Option.Rel Datum.Stores (data.find? fun d => nameBytes d.name == Utf8.encode stat)
      (stats.lookup stat) := by
  induction h with
  | nil => exact .none
  | @cons d x data stats hd _ ih =>
    obtain ⟨hname, hstores⟩ := hd
    rw [List.find?_cons, List.lookup_cons, hname]
    by_cases heq : x.1 = stat
    · rw [heq, beq_self_eq_true, beq_self_eq_true]
      exact .some hstores
    · have hne : (Utf8.encode x.1 == Utf8.encode stat) = false := by
        simpa using fun h => heq (Utf8.encode_injective h)
      have hne' : (stat == x.1) = false := by
        simpa using fun h : stat = _ => heq h.symm
      rw [hne, hne']
      exact ih

theorem Live.SameData.value_agrees {s : Live} {e : Entry} {d : Memory.Data} {e' : Entry}
    (h : s.SameData e d e') (stat : String) :
    (s.value e stat).mapError SourceError.typeless =
      (d.value e' stat).mapError SourceError.typeless := by
  cases h with
  | nowhere h h' =>
    rw [value_out_of_range h, Memory.Data.value, List.getElem?_eq_none h']
    rfl
  | @held l p k h hp ht h' hstats =>
    rw [value_of_notes h, hp, Memory.Data.value_eq h', Memory.Kstat.answer]
    dsimp only
    rw [valueIn_eq ht]
    have hlookup := lookup_of_corresponds hstats stat
    generalize hfind : p.data.find? (fun d => nameBytes d.name == Utf8.encode stat) = found at *
    generalize k.stats.lookup stat = v at *
    cases hlookup with
    | none => rfl
    | some hstores => exact hstores.answer_agrees stat

theorem Datum.stores_value (text : Datum → String) (d : Datum) : d.Stores (d.value text) := by
  have hreads {n : Int} (h : d.int? = some n) := Datum.int?_eq_some_iff.mp h
  rw [Datum.value]
  split
  case h_1 htype =>
    obtain ⟨f, hf, h⟩ := hreads (n := d.word.toUInt32.toInt32.toInt64.toInt) (by simp [int?, htype])
    exact .signed hf h
  case h_2 htype =>
    obtain ⟨f, hf, h⟩ := hreads (n := d.word.toUInt32.toUInt64.toNat) (by simp [int?, htype])
    exact .unsigned hf h
  case h_3 htype =>
    obtain ⟨f, hf, h⟩ := hreads (n := d.word.toInt64.toInt) (by simp [int?, htype])
    exact .signed hf h
  case h_4 htype =>
    obtain ⟨f, hf, h⟩ := hreads (n := d.word.toNat) (by simp [int?, htype])
    exact .unsigned hf h
  case h_5 => exact .text (by simp [Format.ofType?])

theorem corresponds_mirror (text : Datum → String) {k : Kstat} {p : Payload}
    (hp : k.payload = some p) (h : ∀ d ∈ p.data, IsText d.name) :
    List.Forall₂ Datum.Corresponds p.data (k.mirror text).stats := by
  have hdata : k.data = p.data := by
    rw [Kstat.data, hp]
    rfl
  rw [Kstat.mirror, hdata, List.forall₂_map_right_iff, List.forall₂_same]
  intro d hd
  exact ⟨isText_iff.mp (h d hd), d.stores_value text⟩

namespace Live

/-- Whatever a session has been asked, it gives for a named value the very number that the field of its
type holds, if that is not negative, and otherwise the error of the first check that fails. A statistic
in memory that holds the same gives the same number or the same kind of error. -/
theorem value_iff_takes {s : Live} (hs : s.Wired) (asked : List Query) :
    let t := (source.askAll s asked).2
    t.Wired ∧ ∀ e stat,
      (∀ answer, t.value e stat = answer ↔ t.Takes e stat answer) ∧
      ∀ d e', t.SameData e d e' →
        (t.value e stat).mapError SourceError.typeless =
          (d.value e' stat).mapError SourceError.typeless := by
  intro t
  have ht : t.Wired := wired_askAll hs asked
  refine ⟨ht, fun e stat => ⟨fun answer => ⟨?_, ?_⟩, fun d e' h => h.value_agrees stat⟩⟩
  · intro h
    rw [← h]
    exact ht.takes_value e stat
  · intro h
    exact h.value_eq

theorem value_iff_takes_brief :
    let s : Live := { chain := brief.chain.map .ofKstat }
    let sys := (GroupPattern.ofText? "sys").get (by rfl)
    let e : Entry := ⟨"cpu", 0, "sys", 1, 0⟩
    let t := (source.askAll s [.lookup "cpu" 0 sys, .read e]).2
    let d := brief.mirror fun _ => ""
    s.Wired ∧ t.Takes e "syscall" (.ok 9) ∧
      t.Takes e "absent" (.error (.outOfRange "absent" (-1))) ∧
      t.Takes e "absent\x00" (.error (.missingStat "absent\x00")) ∧ t.SameData e d e ∧
      (t.value e "absent").mapError SourceError.typeless =
        (d.value e "absent").mapError SourceError.typeless := by
  intro s sys e t d
  have hs : s.Wired := wired_ofLinks _
  obtain ⟨-, h⟩ := value_iff_takes hs [.lookup "cpu" 0 sys, .read e]
  have hsame : t.SameData e d e := by
    have hk : brief.chain[0]? = some brief.chain[0] := rfl
    have hl : t.chain[0]? = some (Link.ofKstat brief.chain[0]).refreshed := by decide +kernel
    have hp : (Link.ofKstat brief.chain[0]).refreshed.payload = brief.chain[0].payload := rfl
    refine .held ⟨0, by decide +kernel, hl⟩ hp rfl rfl ?_
    exact corresponds_mirror _ rfl fun d hd => regular_brief.datum _ (List.mem_of_getElem? hk) d hd
  refine ⟨hs, ((h e _).1 _).mp ?_, ((h e _).1 _).mp ?_, ((h e _).1 _).mp ?_, hsame,
    (h e _).2 d e hsame⟩
  · decide +kernel
  · decide +kernel
  · decide +kernel

end Live

end Kernel

end KernelStats

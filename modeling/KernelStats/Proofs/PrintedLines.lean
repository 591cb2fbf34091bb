import Mathlib.Algebra.GroupWithZero.Nat
import KernelStats.Proofs.SingleRun

/-!
# Printed samples

Nothing is escaped where samples are printed. Still the text can be read back: it is cut at the ends of
its lines, and each line at its delimiters, every time at the first place where the delimiter stands.
That finds the parts of a sample if none of them holds a sign of the delimiter behind it. The text has
one line for each sample exactly if there is no end of a line in a sample.
-/

namespace KernelStats

def lineBreaks (text : String) : Nat := text.toList.count '\n'

def linesOf (text : String) : List String := (text.toList.splitOn '\n').map .ofList

@[simp] theorem lineBreaks_append (a b : String) : lineBreaks (a ++ b) = lineBreaks a + lineBreaks b := by
  simp [lineBreaks]

theorem lineBreaks_eq_zero {text : String} : lineBreaks text = 0 ↔ '\n' ∉ text.toList :=
  List.count_eq_zero

theorem length_splitOn (c : Char) (cs : List Char) : (cs.splitOn c).length = cs.count c + 1 := by
  induction cs with
  | nil => rfl
  | cons a cs ih =>
    rw [List.splitOn_cons_eq_if_modifyHead, List.count_cons]
    cases a == c with
    | true => simp [ih]
    | false => simp [ih]

theorem length_linesOf (text : String) : (linesOf text).length = lineBreaks text + 1 := by
  rw [linesOf, List.length_map, length_splitOn, lineBreaks]

theorem linesOf_join {lines : List String} (h : ∀ l ∈ lines, lineBreaks l = 0) :
    linesOf (String.join (lines.map (· ++ "\n"))) = lines ++ [""] := by
  induction lines with
  | nil => rfl
  | cons l lines ih =>
    have hl := lineBreaks_eq_zero.mp (h l List.mem_cons_self)
    have ih := ih fun l hl => h l (List.mem_cons_of_mem _ hl)
    rw [linesOf] at ih
    have hend : (l ++ "\n" ++ String.join (lines.map (· ++ "\n"))).toList =
        l.toList ++ '\n' :: (String.join (lines.map (· ++ "\n"))).toList := by
      simp
    rw [linesOf, List.map_cons, String.join_cons, hend,
      List.splitOn_append_cons_self_of_not_mem hl, List.map_cons, ih, String.ofList_toList]
    rfl

namespace Number

theorem newline_notMem_toDigits (n : Nat) : '\n' ∉ Nat.toDigits 10 n := by
  intro h
  have hdigit := Nat.isDigit_of_mem_toDigits (by decide) (by decide) h
  exact absurd hdigit (by decide)

theorem newline_notMem_positional (d : Decimal) : '\n' ∉ d.positional.toList := by
  rw [Decimal.positional]
  cases d.exponent with
  | ofNat n => simp [newline_notMem_toDigits]
  | negSucc n =>
    have hpadded : '\n' ∉ List.replicate (n + 1 + 1 - (Nat.toDigits 10 d.digits).length) '0' ++
        Nat.toDigits 10 d.digits := by
      simp [newline_notMem_toDigits]
    intro h
    rw [String.toList_ofList] at h
    rcases List.mem_append.mp h with htake | hdrop
    · exact hpadded (List.mem_of_mem_take htake)
    · rcases List.mem_cons.mp hdrop with hpoint | hdrop
      · exact absurd hpoint (by decide)
      · exact hpadded (List.mem_of_mem_drop hdrop)

theorem lineBreaks_decimal (x : Float) : lineBreaks (decimal x) = 0 := by
  have hsigned (negative : Bool) {text : String} (h : lineBreaks text = 0) :
      lineBreaks (signed negative text) = 0 := by
    cases negative with
    | true =>
      rw [signed, if_pos rfl, lineBreaks_append, h]
      rfl
    | false => exact h
  rw [decimal]
  cases Reading.ofFloat x with
  | nan => rfl
  | infinite negative => exact hsigned negative rfl
  | finite negative significand shift =>
    exact hsigned negative (lineBreaks_eq_zero.mpr (newline_notMem_positional _))

end Number

def cutAt? (delimiter : List Char) : List Char → Option (List Char × List Char)
  | [] => none
  | c :: rest =>
    if delimiter.isPrefixOf (c :: rest) then some ([], (c :: rest).drop delimiter.length)
    else (cutAt? delimiter rest).map fun (before, after) => (c :: before, after)

theorem cutAt?_eq_some_iff {delimiter text before after : List Char} (hd : delimiter ≠ []) :
    cutAt? delimiter text = some (before, after) ↔
      text = before ++ delimiter ++ after ∧
        ∀ a b, text = a ++ delimiter ++ b → before.length ≤ a.length := by
  induction text generalizing before with
  | nil => simp [cutAt?, hd]
  | cons c rest ih =>
    rw [cutAt?]
    by_cases h : delimiter <+: c :: rest
    · rw [if_pos (List.isPrefixOf_iff_prefix.mpr h)]
      obtain ⟨tail, htail⟩ := h
      rw [← htail, List.drop_left]
      constructor
      · intro heq
        cases heq
        exact ⟨rfl, fun _ _ _ => Nat.zero_le _⟩
      · rintro ⟨heq, hfirst⟩
        obtain rfl : before = [] := List.eq_nil_of_length_eq_zero (Nat.le_zero.mp (hfirst [] tail rfl))
        simpa using heq
    · rw [if_neg (mt List.isPrefixOf_iff_prefix.mp h)]
      -- the delimiter does not stand at the start, so every place of it is a place in the rest
      have hcons : ∀ {a b}, c :: rest = a ++ delimiter ++ b →
          ∃ a', a = c :: a' ∧ rest = a' ++ delimiter ++ b := by
        intro a b hab
        cases a with
        | nil => exact absurd ⟨b, hab.symm⟩ h
        | cons x a' =>
          cases hab
          exact ⟨a', rfl, rfl⟩
      constructor
      · intro heq
        obtain ⟨⟨b, _⟩, hcut, heq⟩ := Option.map_eq_some_iff.mp heq
        cases heq
        obtain ⟨hrest, hfirst⟩ := ih.mp hcut
        refine ⟨congrArg (c :: ·) hrest, fun a b hab => ?_⟩
        obtain ⟨a', rfl, htail⟩ := hcons hab
        exact Nat.succ_le_succ (hfirst a' b htail)
      · rintro ⟨heq, hfirst⟩
        obtain ⟨before', rfl, hrest⟩ := hcons heq
        have hcut := ih.mpr ⟨hrest, fun a b hab =>
          Nat.le_of_succ_le_succ (hfirst (c :: a) b (congrArg (c :: ·) hab))⟩
        rw [hcut]
        rfl

theorem cutAt?_append {c : Char} {delimiter before : List Char} (hc : c ∈ delimiter)
    (hb : c ∉ before) (after : List Char) :
    cutAt? delimiter (before ++ delimiter ++ after) = some (before, after) := by
  refine (cutAt?_eq_some_iff (List.ne_nil_of_mem hc)).mpr ⟨rfl, fun a b h => ?_⟩
  have hplace := congrArg (List.idxOf c) h
  rw [List.append_assoc, List.append_assoc, List.idxOf_append, if_neg hb, List.idxOf_append, if_pos hc,
    List.idxOf_append] at hplace
  by_cases ha : c ∈ a
  · have hlt := List.idxOf_lt_length_of_mem ha
    rw [if_pos ha] at hplace
    omega
  · rw [if_neg ha, List.idxOf_append, if_pos hc] at hplace
    omega

structure SampleText where
  name : String
  label : String
  labelValue : String
  value : String
deriving DecidableEq

namespace SampleText

def ofLine? (line : String) : Option SampleText := do
  let (name, rest) ← cutAt? "\x7b".toList line.toList
  let (label, rest) ← cutAt? "=\"".toList rest
  let (labelValue, value) ← cutAt? "\"\x7d ".toList rest
  return ⟨.ofList name, .ofList label, .ofList labelValue, .ofList value⟩

def ofPrinted? (text : String) : Option (List SampleText) := (linesOf text).dropLast.mapM ofLine?

end SampleText

namespace Sample

def text (s : Sample) : SampleText where
  name := s.desc.name
  label := s.desc.label
  labelValue := s.labelValue
  value := Number.decimal s.value

/-- No part holds a sign of the delimiter behind it, and none the end of a line. -/
structure Plain (s : Sample) : Prop where
  brace : '\x7b' ∉ s.desc.name.toList
  label : '"' ∉ s.desc.label.toList
  labelValue : '"' ∉ s.labelValue.toList
  breaks : lineBreaks s.desc.name = 0 ∧ lineBreaks s.desc.label = 0 ∧ lineBreaks s.labelValue = 0

theorem lineBreaks_line (s : Sample) : lineBreaks s.line = lineBreaks s.series := by
  rw [line, lineBreaks_append, Number.lineBreaks_decimal, Nat.add_zero]

theorem lineBreaks_series (s : Sample) :
    lineBreaks s.series =
      lineBreaks s.desc.name + lineBreaks s.desc.label + lineBreaks s.labelValue := by
  have h : lineBreaks "\x7b" = 0 ∧ lineBreaks "=\"" = 0 ∧ lineBreaks "\"\x7d " = 0 := by decide
  simp only [series, lineBreaks_append, h]
  omega

theorem Plain.lineBreaks_line {s : Sample} (h : s.Plain) : lineBreaks s.line = 0 := by
  rw [s.lineBreaks_line, s.lineBreaks_series, h.breaks.1, h.breaks.2.1, h.breaks.2.2]

theorem Plain.ofLine?_line {s : Sample} (h : s.Plain) : SampleText.ofLine? s.line = some s.text := by
  have hline : s.line.toList = s.desc.name.toList ++ "\x7b".toList ++ (s.desc.label.toList ++
      "=\"".toList ++ (s.labelValue.toList ++ "\"\x7d ".toList ++
        (Number.decimal s.value).toList)) := by
    simp [line, series]
  rw [SampleText.ofLine?, hline, cutAt?_append (by decide) h.brace]
  simp only [Option.bind_eq_bind, Option.bind_some]
  rw [cutAt?_append (c := '"') (by decide) h.label]
  simp only [Option.bind_some]
  rw [cutAt?_append (c := '"') (by decide) h.labelValue]
  simp [text]

end Sample

namespace SampleText

theorem mapM_ofLine? {samples : List Sample} (h : ∀ s ∈ samples, s.Plain) :
    (samples.map Sample.line).mapM ofLine? = some (samples.map Sample.text) := by
  induction samples with
  | nil => rfl
  | cons s samples ih =>
    have hs := (h s List.mem_cons_self).ofLine?_line
    have ih := ih fun x hx => h x (List.mem_cons_of_mem _ hx)
    rw [List.map_cons, List.mapM_cons, hs, ih]
    rfl

end SampleText

namespace Gathered

theorem printed_eq_join (g : Gathered) :
    g.printed = String.join ((g.samples.toList.map Sample.line).map (· ++ "\n")) := by
  rw [printed, List.map_map]
  rfl

theorem lineBreaks_printed (g : Gathered) :
    lineBreaks g.printed = g.samples.size + (g.samples.toList.map fun s => lineBreaks s.line).sum := by
  rw [printed_eq_join, ← Array.length_toList]
  induction g.samples.toList with
  | nil => rfl
  | cons s samples ih =>
    have hend : lineBreaks "\n" = 1 := by decide
    simp only [List.map_cons, String.join_cons, lineBreaks_append, ih, hend, List.length_cons,
      List.sum_cons]
    omega

theorem linesOf_printed_iff (g : Gathered) :
    linesOf g.printed = g.samples.toList.map Sample.line ++ [""] ↔
      ∀ s ∈ g.samples, lineBreaks s.line = 0 := by
  constructor
  · intro h s hs
    have hcount := congrArg List.length h
    rw [length_linesOf, lineBreaks_printed, List.length_append, List.length_map,
      Array.length_toList, List.length_singleton] at hcount
    have hsum : (g.samples.toList.map fun s => lineBreaks s.line).sum = 0 := by omega
    exact List.sum_eq_zero_iff_forall_eq_nat.mp hsum _
      (List.mem_map_of_mem (Array.mem_toList_iff.mpr hs))
  · intro h
    rw [printed_eq_join]
    apply linesOf_join
    intro l hl
    obtain ⟨s, hs, rfl⟩ := List.mem_map.mp hl
    exact h s (Array.mem_toList_iff.mp hs)

/-- Plain samples can be read back from what is printed, line by line. So what is printed tells all that
is written of them. -/
theorem printed_reads_back {g : Gathered} (h : ∀ s ∈ g.samples, s.Plain) :
    linesOf g.printed = g.samples.toList.map Sample.line ++ [""] ∧
      (∀ s ∈ g.samples, SampleText.ofLine? s.line = some s.text) ∧
      SampleText.ofPrinted? g.printed = some (g.samples.toList.map Sample.text) ∧
      ∀ g' : Gathered, (∀ s ∈ g'.samples, s.Plain) → g'.printed = g.printed →
        g'.samples.toList.map Sample.text = g.samples.toList.map Sample.text := by
  have hlines {g : Gathered} (h : ∀ s ∈ g.samples, s.Plain) :
      linesOf g.printed = g.samples.toList.map Sample.line ++ [""] :=
    g.linesOf_printed_iff.mpr fun s hs => (h s hs).lineBreaks_line
  have hread {g : Gathered} (h : ∀ s ∈ g.samples, s.Plain) :
      SampleText.ofPrinted? g.printed = some (g.samples.toList.map Sample.text) := by
    rw [SampleText.ofPrinted?, hlines h, List.dropLast_concat]
    exact SampleText.mapM_ofLine? fun s hs => h s (Array.mem_toList_iff.mp hs)
  refine ⟨hlines h, fun s hs => (h s hs).ofLine?_line, hread h, ?_⟩
  intro g' h' hsame
  have hread' := hread h'
  rw [hsame, hread h] at hread'
  exact (Option.some.inj hread').symm

def bracketed : Gathered where
  samples := #[⟨⟨"m_reads", "", "pool=\x7b"⟩, "a\x7d b=\x7b", 1.0⟩, ⟨⟨"m_reads=", "", ""⟩, "", 0.0⟩]

theorem bracketed_reads_back :
    bracketed.printed =
        "m_reads\x7bpool=\x7b=\"a\x7d b=\x7b\"\x7d 1\nm_reads=\x7b=\"\"\x7d 0\n" ∧
      SampleText.ofPrinted? bracketed.printed =
        some [⟨"m_reads", "pool=\x7b", "a\x7d b=\x7b", "1"⟩, ⟨"m_reads=", "", "", "0"⟩] := by
  have hplain : ∀ s ∈ bracketed.samples, s.Plain := by
    intro s hs
    obtain rfl | rfl := by simpa [bracketed] using hs
    · exact ⟨by decide, by decide, by decide, by decide⟩
    · exact ⟨by decide, by decide, by decide, by decide⟩
  refine ⟨?_, ?_⟩
  · simp [bracketed, printed, Sample.line, Sample.series, Number.decimal_one, Number.decimal_zero]
  · rw [(printed_reads_back hplain).2.2.1]
    simp [bracketed, Sample.text, Number.decimal_one, Number.decimal_zero]

end Gathered

end KernelStats

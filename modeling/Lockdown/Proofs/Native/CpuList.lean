import Lockdown.Native.CpuList
import Lockdown.Proofs.Sequence
import Lockdown.Proofs.Text.Pieces
import Mathlib.Data.List.TakeDrop

/-! What a list of processors is: numbers and ranges with commas between them and blanks around the
whole. A text is read just when it is such a list, and then as the numbers that it stands for, one
range after another; every other text is refused whole. -/
namespace Lockdown

open Text

namespace Text

variable {s : List Char} {n : Nat}

theorem digits?_eq_some_iff : digits? s = some n ↔
    s ≠ [] ∧ (∀ d ∈ s, d.isDigit) ∧ Nat.ofDigitChars 10 s 0 = n := by
  unfold digits?
  split
  · rename_i h
    simp only [List.all_eq_true] at h
    rw [Option.some.injEq]
    exact ⟨fun hn => ⟨h.1, h.2, hn⟩, fun hs => hs.2.2⟩
  · rename_i h
    simp only [List.all_eq_true, not_and] at h
    constructor
    · rintro ⟨⟩
    · rintro ⟨hne, hall, -⟩
      exact absurd hall (h hne)

/-- A plus sign is no digit, so at most one of the two readings is a number. -/
theorem unsigned?_eq_some_iff : unsigned? s = some n ↔
    ∃ digits, (s = digits ∨ s = '+' :: digits) ∧ digits ≠ [] ∧ (∀ d ∈ digits, d.isDigit) ∧
      Nat.ofDigitChars 10 digits 0 = n := by
  have hplus : ∀ digits : List Char, ¬ ∀ d ∈ '+' :: digits, d.isDigit := by
    intro digits h
    exact absurd (h '+' List.mem_cons_self) (by decide)
  unfold unsigned?
  split
  · rename_i digits
    rw [digits?_eq_some_iff]
    constructor
    · intro h
      exact ⟨digits, .inr rfl, h⟩
    · rintro ⟨ds, rfl | hds, h⟩
      · exact absurd h.2.1 (hplus digits)
      · rwa [(List.cons_eq_cons.1 hds).2]
  · rename_i hsign
    rw [digits?_eq_some_iff]
    constructor
    · intro h
      exact ⟨s, .inl rfl, h⟩
    · rintro ⟨ds, rfl | rfl, h⟩
      · exact h
      · exact absurd rfl (hsign ds)

end Text

namespace CpuRange

/-- Decimal digits, at least one, with a plus sign before them or none, that stand for `n`. -/
def Numeral (s : List Char) (n : UInt32) : Prop :=
  ∃ digits, (s = digits ∨ s = '+' :: digits) ∧ digits ≠ [] ∧ (∀ d ∈ digits, d.isDigit) ∧
    Nat.ofDigitChars 10 digits 0 = n.toNat

inductive Denotes : List Char → CpuRange → Prop
  | one {s : List Char} {n : UInt32} (h : Numeral s n) : Denotes s (.one n)
  | span {s t : List Char} {first last : UInt32} (hfirst : Numeral s first)
      (hlast : Numeral t last) : Denotes (s ++ '-' :: t) (.span first last)

def Lists (text : String) (ranges : List CpuRange) : Prop :=
  ∃ before parts after, text.toList = before ++ [','].intercalate parts ++ after ∧
    (∀ c ∈ before ++ after, isBlank c) ∧ parts ≠ [] ∧ List.Forall₂ Denotes parts ranges

variable {s t part : List Char} {n : UInt32} {r : CpuRange}

theorem number?_eq_some_iff : number? s = some n ↔ Numeral s n := by
  have hsmall := n.toNat_lt
  simp only [number?, unsignedBelow?, Option.map_eq_some_iff, Option.filter_eq_some_iff,
    decide_eq_true_eq]
  constructor
  · rintro ⟨v, ⟨hv, hlt⟩, rfl⟩
    rw [unsigned?_eq_some_iff] at hv
    rwa [Numeral, UInt32.toNat_ofNat_of_lt' hlt]
  · intro h
    exact ⟨n.toNat, ⟨unsigned?_eq_some_iff.2 h, hsmall⟩, UInt32.ofNat_toNat⟩

theorem Numeral.plain (h : Numeral s n) {c : Char} (hc : c ∈ s) :
    c ≠ '-' ∧ c ≠ ',' ∧ isBlank c = false := by
  obtain ⟨digits, hs, -, hdigits, -⟩ := h
  have hsign : c = '+' ∨ c.isDigit := by
    rcases hs with rfl | rfl
    · exact .inr (hdigits c hc)
    · exact (List.mem_cons.1 hc).imp_right (hdigits c)
  rcases hsign with rfl | hdigit
  · decide
  · obtain ⟨hlow, hhigh⟩ : 48 ≤ c.toNat ∧ c.toNat ≤ 57 := by
      simp only [Char.isDigit, Bool.and_eq_true, decide_eq_true_eq] at hdigit
      exact hdigit
    refine ⟨?_, ?_, ?_⟩
    · rintro rfl
      exact absurd hlow (by decide)
    · rintro rfl
      exact absurd hlow (by decide)
    · simp only [isBlank, inRanges, blankRanges, List.any_cons, List.any_nil, Bool.or_false,
        Bool.or_eq_false_iff, Bool.and_eq_false_iff, decide_eq_false_iff_not]
      omega

theorem parse?_of_no_dash (h : '-' ∉ part) : parse? part = (number? part).map one := by
  have hspan : part.span (· ≠ '-') = (part, []) := by
    rw [List.span_eq_takeWhile_dropWhile, List.takeWhile_eq_self_iff.2, List.dropWhile_eq_nil_iff.2]
    · exact fun c hc => decide_eq_true (ne_of_mem_of_not_mem hc h)
    · exact fun c hc => decide_eq_true (ne_of_mem_of_not_mem hc h)
  rw [parse?, hspan]

theorem parse?_append_dash (h : '-' ∉ s) : parse? (s ++ '-' :: t) =
    (number? s).bind fun first => (number? t).map (span first) := by
  have hspan : (s ++ '-' :: t).span (· ≠ '-') = (s, '-' :: t) := by
    have hs : ∀ c ∈ s, decide (c ≠ '-') = true :=
      fun c hc => decide_eq_true (ne_of_mem_of_not_mem hc h)
    rw [List.span_eq_takeWhile_dropWhile, List.takeWhile_append_of_pos hs,
      List.dropWhile_append_of_pos hs]
    simp
  rw [parse?, hspan]
  dsimp only
  cases number? s with
  | none => rfl
  | some first => cases number? t <;> rfl

theorem parse?_eq_some_iff : parse? part = some r ↔ Denotes part r := by
  have hnumeral : ∀ {s n}, Numeral s n → '-' ∉ s := fun hs hdash => (hs.plain hdash).1 rfl
  constructor
  · intro h
    by_cases hdash : '-' ∈ part
    · obtain ⟨s, t, rfl, hs⟩ := List.eq_append_cons_of_mem hdash
      rw [parse?_append_dash hs, Option.bind_eq_some_iff] at h
      obtain ⟨first, hfirst, h⟩ := h
      obtain ⟨last, hlast, rfl⟩ := Option.map_eq_some_iff.1 h
      exact .span (number?_eq_some_iff.1 hfirst) (number?_eq_some_iff.1 hlast)
    · rw [parse?_of_no_dash hdash, Option.map_eq_some_iff] at h
      obtain ⟨n, hn, rfl⟩ := h
      exact .one (number?_eq_some_iff.1 hn)
  · rintro (h | ⟨hfirst, hlast⟩)
    · rw [parse?_of_no_dash (hnumeral h), number?_eq_some_iff.2 h, Option.map_some]
    · rw [parse?_append_dash (hnumeral hfirst), number?_eq_some_iff.2 hfirst,
        number?_eq_some_iff.2 hlast, Option.bind_some, Option.map_some]

theorem Denotes.plain (h : Denotes s r) {c : Char} (hc : c ∈ s) : c ≠ ',' ∧ isBlank c = false := by
  cases h with
  | one h => exact (h.plain hc).2
  | span hfirst hlast =>
    rcases List.mem_append.1 hc with hc | hc
    · exact (hfirst.plain hc).2
    · rcases List.mem_cons.1 hc with rfl | hc
      · decide
      · exact (hlast.plain hc).2

theorem map_toNat_expand_span (first last : UInt32) : (expand (.span first last)).map UInt32.toNat =
    List.range' first.toNat (last.toNat + 1 - first.toNat) := by
  have hlast := last.toNat_lt
  rw [expand, List.map_map, List.range'_eq_map_range]
  apply List.map_congr_left
  intro i hi
  have hi' := List.mem_range.1 hi
  exact UInt32.toNat_ofNat_of_lt' (show first.toNat + i < 2 ^ 32 by omega)

variable {text : String} {ranges : List CpuRange}

def digits : CpuRange → List Char
  | one n => Nat.toDigits 10 n.toNat
  | span first last => Nat.toDigits 10 first.toNat ++ '-' :: Nat.toDigits 10 last.toNat

def listText (ranges : List CpuRange) : String :=
  String.ofList ([','].intercalate (ranges.map digits))

theorem numeral_toDigits (n : UInt32) : Numeral (Nat.toDigits 10 n.toNat) n :=
  ⟨_, .inl rfl, Nat.toDigits_ne_nil,
    fun _ hd => Nat.isDigit_of_mem_toDigits (by decide) (by decide) hd,
    Nat.ofDigitChars_ten_toDigits⟩

theorem denotes_digits (r : CpuRange) : Denotes r.digits r := by
  cases r with
  | one n => exact .one (numeral_toDigits n)
  | span first last => exact .span (numeral_toDigits first) (numeral_toDigits last)

theorem lists_listText (h : ranges ≠ []) : Lists (listText ranges) ranges := by
  refine ⟨[], ranges.map digits, [], ?_, ?_, ?_, ?_⟩
  · rw [listText, String.toList_ofList, List.nil_append, List.append_nil]
  · simp
  · simpa using h
  · rw [List.forall₂_map_left_iff]
    exact List.forall₂_same.2 fun r _ => denotes_digits r

end CpuRange

open CpuRange

theorem exists_ranges_of_parseCpuList? {text : String} {cpus : List UInt32}
    (h : parseCpuList? text = some cpus) :
    ∃ ranges, Lists text ranges ∧ cpus = ranges.flatMap expand := by
  obtain ⟨ranges, hparse, rfl⟩ := Option.map_eq_some_iff.1 h
  obtain ⟨before, after, htext, hends⟩ := exists_eq_append_trimmed isBlank text.toList
  rw [splitAtChar_eq_splitOn, mapM_eq_some_iff] at hparse
  refine ⟨ranges, ⟨before, _, after, ?_, hends, List.splitOn_ne_nil ',' _,
    hparse.imp fun _ _ => parse?_eq_some_iff.1⟩, rfl⟩
  rwa [List.intercalate_splitOn]

theorem parseCpuList?_of_lists {text : String} {ranges : List CpuRange} (h : Lists text ranges) :
    parseCpuList? text = some (ranges.flatMap expand) := by
  obtain ⟨before, parts, after, htext, hends, hne, hparts⟩ := h
  have hplain : ∀ part ∈ parts, ∀ c ∈ part, c ≠ ',' ∧ isBlank c = false :=
    ((List.forall₂_and_left _ _).1 (hparts.imp fun _ _ h => ⟨fun _ hc => h.plain hc, h⟩)).1
  have hcomma : ∀ part ∈ parts, ',' ∉ part := fun part hpart hc => (hplain part hpart _ hc).1 rfl
  have hbody : ∀ c ∈ [','].intercalate parts, isBlank c = false := by
    intro c hc
    rcases mem_of_mem_intercalate hc with rfl | ⟨part, hpart, hc⟩
    · decide
    · exact (hplain part hpart c hc).2
  rw [parseCpuList?, htext, trimmed_append hends hbody, splitAtChar_eq_splitOn,
    List.splitOn_intercalate ',' hcomma hne,
    mapM_eq_some_iff.2 (hparts.imp fun _ _ => parse?_eq_some_iff.2), Option.map_some]

/-- A text is a list of processors just when it is ranges and numbers with commas between them and
blanks around the whole, and it then stands for the numbers of these one after another, each range
upwards from its first number to its last. All other texts are refused whole. -/
theorem parseCpuList?_exact :
    (∀ text cpus, parseCpuList? text = some cpus ↔
      ∃ ranges, Lists text ranges ∧ cpus = ranges.flatMap expand) ∧
    (∀ text, parseCpuList? text = none ↔ ¬ ∃ ranges, Lists text ranges) ∧
    (∀ ranges, ranges ≠ [] → parseCpuList? (listText ranges) = some (ranges.flatMap expand)) ∧
    (∀ n, expand (.one n) = [n]) ∧
    ∀ first last, (expand (.span first last)).map UInt32.toNat =
      List.range' first.toNat (last.toNat + 1 - first.toNat) := by
  refine ⟨?_, ?_, ?_, fun _ => rfl, map_toNat_expand_span⟩
  · intro text cpus
    constructor
    · exact exists_ranges_of_parseCpuList?
    · rintro ⟨ranges, hlists, rfl⟩
      exact parseCpuList?_of_lists hlists
  · intro text
    rw [Option.eq_none_iff_forall_ne_some]
    constructor
    · rintro h ⟨ranges, hlists⟩
      exact h _ (parseCpuList?_of_lists hlists)
    · intro h cpus hcpus
      obtain ⟨ranges, hlists, -⟩ := exists_ranges_of_parseCpuList? hcpus
      exact h ⟨ranges, hlists⟩
  · intro ranges hne
    exact parseCpuList?_of_lists (lists_listText hne)

/-- Nothing between commas, a blank inside, a second dash, a number too large. -/
example : ["", "0,,1", "0, 1", "0-1-2", "4294967296"].map parseCpuList? =
    [none, none, none, none, none] := by decide +kernel

end Lockdown

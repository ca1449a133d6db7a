import Lockdown.Json.Reader
import Lockdown.Proofs.Text.Radix
import Mathlib.Data.List.Forall2
import Mathlib.Data.List.TakeDrop
import Mathlib.Tactic.SplitIfs

/-! Strings and numbers as they are written and read again. An escape stands for its character by
one letter or by one 16-bit unit, and no unit written here is half of a pair, except the one that
spells a text without a value. A number ends where neither a digit nor a point nor an exponent
follows. -/
namespace Lockdown.Json

def Spells : Char ⊕ Nat → Char → Prop
  | .inl d, c => d = c
  | .inr u, c => u = c.toNat ∧ u < 0xD800

variable {c : Char} {s r : List Char} {us : List (Char ⊕ Nat)}

theorem hexUnit?_hexLower {n : Nat} (h : n < 256) :
    hexUnit? '0' '0' (Nat.digitChar (n / 16)) (Nat.digitChar (n % 16)) = some n := by
  have hzero : Text.hexDigit? '0' = some 0 := by decide
  have hhigh := Text.hexDigit?_digitChar (n := n / 16) (by omega)
  have hlow := Text.hexDigit?_digitChar (n := n % 16) (by omega)
  simp only [hexUnit?, hzero, hhigh, hlow, Option.bind_eq_bind, Option.bind_some,
    Option.some.injEq]
  omega

theorem scanUnits_short {e : Char} (he : shortEscape? e = some c) (h : scanUnits s = some (us, r)) :
    scanUnits ('\\' :: e :: s) = some (.inl c :: us, r) := by
  have hu : e ≠ 'u' := by
    rintro rfl
    cases he
  rw [scanUnits, he, h]
  · rfl
  all_goals simp_all

theorem scanUnits_unit {a b d e : Char} {u : Nat} (hu : hexUnit? a b d e = some u)
    (h : scanUnits s = some (us, r)) :
    scanUnits ('\\' :: 'u' :: a :: b :: d :: e :: s) = some (.inr u :: us, r) := by
  rw [scanUnits, hu, h]
  rfl

theorem scanUnits_raw (hquote : c ≠ '"') (hslash : c ≠ '\\') (hc : 0x20 ≤ c.toNat)
    (h : scanUnits s = some (us, r)) : scanUnits (c :: s) = some (.inl c :: us, r) := by
  have hcontrol : ¬ (c.toNat < 0x20 ∨ c = '\\') := not_or.2 ⟨Nat.not_lt.2 hc, hslash⟩
  rw [scanUnits, if_neg hcontrol, h]
  · rfl
  all_goals simp_all

theorem exists_scanUnits_escape (c : Char) (h : scanUnits s = some (us, r)) :
    ∃ u, Spells u c ∧ scanUnits (escape c ++ s) = some (u :: us, r) := by
  unfold escape
  split_ifs with hquote hslash hback hfeed hline hreturn htab hcontrol
  · exact ⟨.inl c, rfl, scanUnits_short (by simp [shortEscape?, hquote]) h⟩
  · exact ⟨.inl c, rfl, scanUnits_short (by simp [shortEscape?, hslash]) h⟩
  · exact ⟨.inl c, rfl, scanUnits_short (by simp [shortEscape?, hback]) h⟩
  · exact ⟨.inl c, rfl, scanUnits_short (by simp [shortEscape?, hfeed]) h⟩
  · exact ⟨.inl c, rfl, scanUnits_short (by simp [shortEscape?, hline]) h⟩
  · exact ⟨.inl c, rfl, scanUnits_short (by simp [shortEscape?, hreturn]) h⟩
  · exact ⟨.inl c, rfl, scanUnits_short (by simp [shortEscape?, htab]) h⟩
  · have hbyte : c.toNat < 256 := by omega
    refine ⟨.inr c.toNat, ⟨rfl, by omega⟩, ?_⟩
    rw [Text.hexLower_two hbyte]
    exact scanUnits_unit (hexUnit?_hexLower hbyte) h
  · exact ⟨.inl c, rfl, scanUnits_raw hquote hslash (Nat.not_lt.1 hcontrol) h⟩

theorem exists_scanUnits_flatMap (cs rest : List Char) :
    ∃ us, List.Forall₂ Spells us cs ∧
      scanUnits (cs.flatMap escape ++ '"' :: rest) = some (us, rest) := by
  induction cs with
  | nil => exact ⟨[], .nil, by rw [List.flatMap_nil, List.nil_append, scanUnits]⟩
  | cons c cs ih =>
    obtain ⟨us, hus, hscan⟩ := ih
    obtain ⟨u, hu, hfirst⟩ := exists_scanUnits_escape c hscan
    refine ⟨u :: us, .cons hu hus, ?_⟩
    rw [List.flatMap_cons, List.append_assoc]
    exact hfirst

theorem joinUnits_inr {u : Nat} (h : u < 0xD800) (us : List (Char ⊕ Nat)) :
    joinUnits (.inr u :: us) = (joinUnits us).map (Char.ofNat u :: ·) := by
  have hhigh : isHigh u = false := by simp [isHigh]; omega
  have hlow : isLow u = false := by simp [isLow]; omega
  rcases us with - | ⟨c | v, us⟩ <;> simp [joinUnits, hhigh, hlow]

theorem joinUnits_of_spells {cs : List Char} (h : List.Forall₂ Spells us cs) :
    joinUnits us = some cs := by
  induction h with
  | nil => rfl
  | @cons u c us cs hu _ ih =>
    cases u with
    | inl d =>
      obtain rfl : d = c := hu
      rw [joinUnits, ih, Option.map_some]
    | inr u =>
      obtain ⟨rfl, hplain⟩ : u = c.toNat ∧ u < 0xD800 := hu
      rw [joinUnits_inr hplain, ih, Option.map_some, Char.ofNat_toNat]

theorem scanString_quoted (t : Text) (rest : List Char) :
    ∃ body, quoted t = '"' :: body ∧ scanString (body ++ rest) = some (t, rest) := by
  cases t with
  | none =>
    have hunit : hexUnit? 'd' '8' '0' '0' = some 0xD800 := by decide
    have hclose : scanUnits ('"' :: rest) = some ([], rest) := by rw [scanUnits]
    have hscan := scanUnits_unit hunit hclose
    refine ⟨_, rfl, ?_⟩
    simp only [scanString, List.cons_append, List.nil_append, hscan, Option.map_some]
    rfl
  | some s =>
    obtain ⟨us, hus, hscan⟩ := exists_scanUnits_flatMap s.toList rest
    refine ⟨s.toList.flatMap escape ++ ['"'], rfl, ?_⟩
    simp only [scanString, List.append_assoc, List.singleton_append, hscan, Option.map_some,
      joinUnits_of_spells hus, String.ofList_toList]

/-- What follows is no part of a number. -/
def Stops (rest : List Char) : Prop :=
  ∀ c ∈ rest.head?, c.isDigit = false ∧ c ≠ '.' ∧ c ≠ 'e' ∧ c ≠ 'E'

variable {ds rest : List Char}

theorem span_digits (hds : ∀ d ∈ ds, d.isDigit) (hrest : ∀ c ∈ rest.head?, c.isDigit = false) :
    (ds ++ rest).span Char.isDigit = (ds, rest) := by
  have hstop : rest.takeWhile Char.isDigit = [] ∧ rest.dropWhile Char.isDigit = rest := by
    cases rest with
    | nil => exact ⟨rfl, rfl⟩
    | cons c rest => simp [hrest c rfl]
  rw [List.span_eq_takeWhile_dropWhile, List.takeWhile_append_of_pos hds,
    List.dropWhile_append_of_pos hds, hstop.1, hstop.2, List.append_nil]

theorem isDigit_of_mem_toDigits {n : Nat} : ∀ d ∈ Nat.toDigits 10 n, d.isDigit :=
  fun _ => Nat.isDigit_of_mem_toDigits (by decide) (by decide)

theorem exists_cons_toDigits (n : Nat) : ∃ d ds, Nat.toDigits 10 n = d :: ds ∧ d.isDigit := by
  obtain ⟨d, ds, h⟩ := List.exists_cons_of_ne_nil (Nat.toDigits_ne_nil (n := n) (b := 10))
  exact ⟨d, ds, h, isDigit_of_mem_toDigits d (h ▸ List.mem_cons_self)⟩

theorem ne_of_isDigit {c d : Char} (hd : d.isDigit = true) (hc : c.isDigit = false) : d ≠ c := by
  rintro rfl
  rw [hd] at hc
  cases hc

theorem toList_toString_ofNat (n : Nat) :
    (toString (Int.ofNat n)).toList = Nat.toDigits 10 n := by
  change n.repr.toList = Nat.toDigits 10 n
  rw [Nat.repr_eq_ofList_toDigits, String.toList_ofList]

theorem toList_toString_negSucc (n : Nat) :
    (toString (Int.negSucc n)).toList = '-' :: Nat.toDigits 10 (n + 1) := by
  change ("-" ++ (n + 1).repr).toList = '-' :: Nat.toDigits 10 (n + 1)
  simp only [Nat.repr_eq_ofList_toDigits, String.toList_append, String.toList_ofList]
  rfl

theorem scanFraction_of_head? (h : rest.head? ≠ some '.') :
    scanFraction rest = some ([], rest) := by
  unfold scanFraction
  split
  · exact absurd rfl h
  · rfl

theorem scanExponent_of_stops (h : Stops rest) : scanExponent rest = some (none, rest) := by
  cases rest with
  | nil => rfl
  | cons c rest =>
    obtain ⟨-, -, he, hE⟩ := h c rfl
    simp [scanExponent, he, hE]

theorem scanExponent_unsigned {d : Char} (hplus : d ≠ '+') (hminus : d ≠ '-')
    (h : (d :: s).span Char.isDigit = (d :: ds, rest)) :
    scanExponent ('e' :: d :: s) = some (some (1 * (digitValue (d :: ds) : Int)), rest) := by
  simp [scanExponent, hplus, hminus, h, -List.span_eq_takeWhile_dropWhile]

theorem scanExponent_minus {d : Char} (h : s.span Char.isDigit = (d :: ds, rest)) :
    scanExponent ('e' :: '-' :: s) = some (some (-1 * (digitValue (d :: ds) : Int)), rest) := by
  simp only [scanExponent, h, true_or, ↓reduceIte]

theorem scanExponent_toString (e : Int) (h : Stops rest) :
    scanExponent ('e' :: (toString e).toList ++ rest) = some (some e, rest) := by
  have hspan : ∀ n, (Nat.toDigits 10 n ++ rest).span Char.isDigit = (Nat.toDigits 10 n, rest) :=
    fun n => span_digits isDigit_of_mem_toDigits fun c hc => (h c hc).1
  cases e with
  | ofNat n =>
    obtain ⟨d, ds, hdigits, hd⟩ := exists_cons_toDigits n
    have hn := hspan n
    rw [hdigits] at hn
    rw [toList_toString_ofNat, hdigits]
    refine (scanExponent_unsigned (ne_of_isDigit hd rfl) (ne_of_isDigit hd rfl) hn).trans ?_
    rw [digitValue, ← hdigits, Nat.ofDigitChars_ten_toDigits, Int.one_mul]
    rfl
  | negSucc n =>
    obtain ⟨d, ds, hdigits, hd⟩ := exists_cons_toDigits (n + 1)
    have hn := hspan (n + 1)
    rw [hdigits] at hn
    rw [toList_toString_negSucc, hdigits]
    refine (scanExponent_minus hn).trans ?_
    have hneg : -1 * ((n + 1 : Nat) : Int) = Int.negSucc n := by omega
    rw [digitValue, ← hdigits, Nat.ofDigitChars_ten_toDigits, hneg]

def Number.scaleChars (n : Number) : List Char :=
  match n.scale with
  | none => []
  | some e => 'e' :: (toString e).toList

theorem head?_scaleChars {n : Number} (h : Stops rest) {c : Char}
    (hc : (n.scaleChars ++ rest).head? = some c) : c.isDigit = false ∧ c ≠ '.' := by
  obtain ⟨negative, digits, scale⟩ := n
  cases scale with
  | none => exact ⟨(h c hc).1, (h c hc).2.1⟩
  | some e =>
    obtain rfl : 'e' = c := Option.some.inj hc
    exact ⟨rfl, by decide⟩

theorem scanExponent_scaleChars (n : Number) (h : Stops rest) :
    scanExponent (n.scaleChars ++ rest) = some (n.scale, rest) := by
  obtain ⟨negative, digits, scale⟩ := n
  cases scale with
  | none => exact scanExponent_of_stops h
  | some e => exact scanExponent_toString e h

theorem no_leading_zero (n : Nat) : ((Nat.toDigits 10 n).isEmpty ||
    ((Nat.toDigits 10 n).head? = some '0' && (Nat.toDigits 10 n).length ≠ 1)) = false := by
  have hempty : (Nat.toDigits 10 n).isEmpty = false := by simp [Nat.toDigits_ne_nil]
  rcases Nat.eq_zero_or_pos n with rfl | hpos
  · decide
  · simp [hempty, Text.head?_toDigits (Nat.ne_of_gt hpos)]

theorem scanNumber_minus {tail : List Char} {scale : Option Int}
    (hspan : s.span Char.isDigit = (ds, tail))
    (hzero : (ds.isEmpty || (ds.head? = some '0' && ds.length ≠ 1)) = false)
    (hfraction : scanFraction tail = some ([], tail))
    (hexponent : scanExponent tail = some (scale, rest)) :
    scanNumber ('-' :: s) = some (⟨true, digitValue ds, scale⟩, rest) := by
  simp only [scanNumber, hspan, hzero, hfraction, Option.bind_eq_bind, Option.bind_some, hexponent]
  cases scale <;> simp

theorem scanNumber_unsigned {tail : List Char} {scale : Option Int} {d : Char} (hminus : d ≠ '-')
    (hspan : (d :: s).span Char.isDigit = (ds, tail))
    (hzero : (ds.isEmpty || (ds.head? = some '0' && ds.length ≠ 1)) = false)
    (hfraction : scanFraction tail = some ([], tail))
    (hexponent : scanExponent tail = some (scale, rest)) :
    scanNumber (d :: s) = some (⟨false, digitValue ds, scale⟩, rest) := by
  unfold scanNumber
  split
  rename_i negative t hsign
  split at hsign
  · rename_i r hd
    exact absurd (List.cons_eq_cons.1 hd).1 hminus
  · obtain ⟨rfl, rfl⟩ := Prod.mk.inj hsign
    simp only [hspan, hzero, hfraction, Option.bind_eq_bind, Option.bind_some, hexponent]
    cases scale <;> simp

theorem scanNumber_chars (n : Number) (h : Stops rest) :
    scanNumber (n.chars ++ rest) = some (n, rest) := by
  have hhead := fun c => head?_scaleChars (n := n) (c := c) h
  have hspan : (Nat.toDigits 10 n.digits ++ (n.scaleChars ++ rest)).span Char.isDigit =
      (Nat.toDigits 10 n.digits, n.scaleChars ++ rest) :=
    span_digits isDigit_of_mem_toDigits fun c hc => (hhead c hc).1
  have hfraction : scanFraction (n.scaleChars ++ rest) = some ([], n.scaleChars ++ rest) :=
    scanFraction_of_head? fun hc => (hhead '.' hc).2 rfl
  have hexponent := scanExponent_scaleChars n h
  have hzero := no_leading_zero n.digits
  have hvalue : digitValue (Nat.toDigits 10 n.digits) = n.digits := Nat.ofDigitChars_ten_toDigits
  have hchars : n.chars ++ rest = (if n.negative then ['-'] else []) ++
      (Nat.toDigits 10 n.digits ++ (n.scaleChars ++ rest)) := by
    simp only [Number.chars, List.append_assoc]
    rfl
  rw [hchars]
  obtain ⟨negative, digits, scale⟩ := n
  cases negative with
  | true =>
    rw [if_pos rfl, List.singleton_append, scanNumber_minus hspan hzero hfraction hexponent, hvalue]
  | false =>
    obtain ⟨d, ds, hdigits, hd⟩ := exists_cons_toDigits digits
    rw [if_neg Bool.false_ne_true, List.nil_append]
    rw [hdigits, List.cons_append] at hspan ⊢
    rw [hdigits] at hzero hvalue
    rw [scanNumber_unsigned (ne_of_isDigit hd rfl) hspan hzero hfraction hexponent, hvalue]

end Lockdown.Json

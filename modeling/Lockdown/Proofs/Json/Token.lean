import Lockdown.Proofs.Json.Literal
import Mathlib.Data.List.TakeWhile

/-! Strings and numbers as they stand in a text. What a scanner takes from the front of a text it
takes wherever that stands, a string before any text and a number before what does not go on with
it. -/
namespace Lockdown.Json

variable {s r rest : List Char}

theorem exists_body_of_scanUnits {us : List (Char ⊕ Nat)} (h : scanUnits s = some (us, r)) :
    ∃ body, s = body ++ r ∧ ∀ rest, scanUnits (body ++ rest) = some (us, rest) := by
  fun_induction scanUnits s generalizing us r with
  | case1 => cases h
  | case2 t =>
    obtain ⟨rfl, rfl⟩ := Prod.mk.inj (Option.some.inj h)
    exact ⟨['"'], rfl, fun rest => by rw [List.singleton_append, scanUnits]⟩
  | case3 a b c d t ih =>
    simp only [Option.bind_eq_bind, Option.bind_eq_some_iff, Option.some.injEq] at h
    obtain ⟨u, hu, ⟨us', r'⟩, hscan, heq⟩ := h
    obtain ⟨rfl, rfl⟩ := Prod.mk.inj heq
    obtain ⟨body, rfl, hbody⟩ := ih hscan
    exact ⟨'\\' :: 'u' :: a :: b :: c :: d :: body, rfl, fun rest => scanUnits_unit hu (hbody rest)⟩
  | case4 e t hunit ih =>
    simp only [Option.bind_eq_bind, Option.bind_eq_some_iff, Option.some.injEq] at h
    obtain ⟨c, hc, ⟨us', r'⟩, hscan, heq⟩ := h
    obtain ⟨rfl, rfl⟩ := Prod.mk.inj heq
    obtain ⟨body, rfl, hbody⟩ := ih hscan
    exact ⟨'\\' :: e :: body, rfl, fun rest => scanUnits_short hc (hbody rest)⟩
  | case5 => cases h
  | case6 c t hquote _ _ hplain ih =>
    simp only [Option.bind_eq_bind, Option.bind_eq_some_iff, Option.some.injEq] at h
    obtain ⟨⟨us', r'⟩, hscan, heq⟩ := h
    obtain ⟨rfl, rfl⟩ := Prod.mk.inj heq
    obtain ⟨body, rfl, hbody⟩ := ih hscan
    obtain ⟨hc, hslash⟩ := not_or.1 hplain
    exact ⟨c :: body, rfl, fun rest => scanUnits_raw hquote hslash (Nat.not_lt.1 hc) (hbody rest)⟩

structure StringToken where
  body : List Char
  value : Text
  reads : ∀ rest, scanString (body ++ rest) = some (value, rest)

theorem exists_stringToken {t : Text} (h : scanString s = some (t, r)) :
    ∃ token : StringToken, token.value = t ∧ s = token.body ++ r := by
  obtain ⟨⟨us, r'⟩, hscan, heq⟩ := Option.map_eq_some_iff.1 h
  obtain ⟨rfl, rfl⟩ := Prod.mk.inj heq
  obtain ⟨body, hs, hbody⟩ := exists_body_of_scanUnits hscan
  refine ⟨⟨body, (joinUnits us).map String.ofList, fun rest => ?_⟩, rfl, hs⟩
  rw [scanString, hbody, Option.map_some]

def EndsDigits (rest : List Char) : Prop := ∀ c ∈ rest.head?, c.isDigit = false ∧ c ≠ '.'

theorem Stops.endsDigits (h : Stops rest) : EndsDigits rest :=
  fun c hc => ⟨(h c hc).1, (h c hc).2.1⟩

theorem exists_of_span {ds : List Char} (h : s.span Char.isDigit = (ds, r)) :
    s = ds ++ r ∧ (∀ d ∈ ds, d.isDigit) ∧ ∀ c ∈ r.head?, c.isDigit = false := by
  rw [List.span_eq_takeWhile_dropWhile] at h
  obtain ⟨rfl, rfl⟩ := Prod.mk.inj h
  refine ⟨List.takeWhile_append_dropWhile.symm, fun d hd => List.mem_takeWhile_imp hd, ?_⟩
  intro c hc
  have hstop := List.head?_dropWhile_not Char.isDigit s
  rw [Option.mem_def.1 hc] at hstop
  exact hstop

theorem exists_fraction {part : List Char} (h : scanFraction s = some (part, r)) :
    ∃ fraction, s = fraction ++ r ∧ ∀ rest, EndsDigits rest →
      scanFraction (fraction ++ rest) = some (part, rest) ∧
        ∀ c ∈ (fraction ++ rest).head?, c.isDigit = false := by
  unfold scanFraction at h
  split at h
  · rename_i t
    split at h
    · cases h
    · rename_i ds t' hne hspan
      obtain ⟨rfl, rfl⟩ := Prod.mk.inj (Option.some.inj h)
      obtain ⟨rfl, hds, -⟩ := exists_of_span hspan
      refine ⟨'.' :: ds, rfl, fun rest hrest => ⟨?_, ?_⟩⟩
      · rw [List.cons_append, scanFraction, span_digits hds fun c hc => (hrest c hc).1]
        split
        · simp_all
        · simp_all
      · rintro c ⟨⟩
        rfl
  · obtain ⟨rfl, rfl⟩ := Prod.mk.inj (Option.some.inj h)
    refine ⟨[], rfl, fun rest hrest => ⟨scanFraction_of_head? fun hc => ?_, fun c hc => ?_⟩⟩
    · exact (hrest '.' hc).2 rfl
    · exact (hrest c hc).1

def exponentSign : List Char → Int × List Char
  | '+' :: r => (1, r)
  | '-' :: r => (-1, r)
  | r => (1, r)

theorem scanExponent_cons {c : Char} (h : c = 'e' ∨ c = 'E') (s : List Char) :
    scanExponent (c :: s) = match (exponentSign s).2.span Char.isDigit with
      | ([], _) => none
      | (ds, r) => some (some ((exponentSign s).1 * digitValue ds), r) := by
  unfold scanExponent
  simp only [if_pos h]
  rfl

theorem exists_sign (s : List Char) :
    ∃ sign, s = sign ++ (exponentSign s).2 ∧ ∀ d rest, d.isDigit = true →
      exponentSign (sign ++ d :: rest) = ((exponentSign s).1, d :: rest) := by
  unfold exponentSign
  split
  · exact ⟨['+'], rfl, fun _ _ _ => rfl⟩
  · exact ⟨['-'], rfl, fun _ _ _ => rfl⟩
  · refine ⟨[], rfl, fun d rest hd => ?_⟩
    rw [List.nil_append]
    split
    · simp_all
    · simp_all
    · rfl

theorem exists_exponent {e : Option Int} (h : scanExponent s = some (e, r)) :
    ∃ exponent, s = exponent ++ r ∧ ∀ rest, Stops rest →
      scanExponent (exponent ++ rest) = some (e, rest) ∧ EndsDigits (exponent ++ rest) := by
  have hnone : s = r → e = none → ∃ exponent, s = exponent ++ r ∧ ∀ rest, Stops rest →
      scanExponent (exponent ++ rest) = some (e, rest) ∧ EndsDigits (exponent ++ rest) := by
    rintro rfl rfl
    exact ⟨[], rfl, fun rest hrest => ⟨scanExponent_of_stops hrest, hrest.endsDigits⟩⟩
  cases s with
  | nil =>
    obtain ⟨rfl, rfl⟩ := Prod.mk.inj (Option.some.inj h)
    exact hnone rfl rfl
  | cons c t =>
    by_cases he : c = 'e' ∨ c = 'E'
    · rw [scanExponent_cons he] at h
      obtain ⟨sign, ht, hsign⟩ := exists_sign t
      split at h
      · cases h
      · rename_i ds t' hne hspan
        obtain ⟨rfl, rfl⟩ := Prod.mk.inj (Option.some.inj h)
        obtain ⟨hafter, hds, -⟩ := exists_of_span hspan
        obtain ⟨d, ds, rfl⟩ := List.exists_cons_of_ne_nil hne
        refine ⟨c :: (sign ++ d :: ds), ?_, fun rest hrest => ⟨?_, ?_⟩⟩
        · rw [ht, hafter]
          simp
        · have hdigits := span_digits hds fun c hc => (hrest c hc).1
          rw [List.cons_append, scanExponent_cons he, List.append_assoc, List.cons_append,
            hsign d _ (hds d List.mem_cons_self)]
          rw [List.cons_append] at hdigits
          simp only [hdigits]
        · rintro c' ⟨⟩
          rcases he with rfl | rfl <;> decide
    · unfold scanExponent at h
      simp only [if_neg he] at h
      obtain ⟨rfl, rfl⟩ := Prod.mk.inj (Option.some.inj h)
      exact hnone rfl rfl

/-- Digits that begin no number: none, or a zero before others. -/
def BadWhole (whole : List Char) : Prop :=
  (whole.isEmpty || (whole.head? = some '0' && whole.length ≠ 1)) = true

/-- The number of some digits, those behind the point, and an exponent. -/
def numberOf (negative : Bool) (whole part : List Char) (exponent : Option Int) : Number :=
  if part.isEmpty && exponent.isNone then ⟨negative, digitValue whole, none⟩
  else ⟨negative, digitValue (whole ++ part), some (exponent.getD 0 - part.length)⟩

def scanUnsigned (negative : Bool) (s : List Char) : Option (Number × List Char) :=
  let (whole, r) := s.span Char.isDigit
  if whole.isEmpty || (whole.head? = some '0' && whole.length ≠ 1) then none
  else do
    let (part, r') ← scanFraction r
    let (exponent, r'') ← scanExponent r'
    if part.isEmpty && exponent.isNone then some (⟨negative, digitValue whole, none⟩, r'')
    else some (⟨negative, digitValue (whole ++ part), some (exponent.getD 0 - part.length)⟩, r'')

theorem scanNumber_minus_cons (s : List Char) : scanNumber ('-' :: s) = scanUnsigned true s := rfl

theorem scanNumber_of_head? (h : s.head? ≠ some '-') : scanNumber s = scanUnsigned false s := by
  unfold scanNumber
  split
  rename_i negative t hsign
  split at hsign
  · exact absurd rfl h
  · obtain ⟨rfl, rfl⟩ := Prod.mk.inj hsign
    rfl

variable {negative : Bool} {n : Number}

theorem scanUnsigned_eq {whole tail : List Char} (hspan : s.span Char.isDigit = (whole, tail))
    (hwhole : ¬ BadWhole whole) :
    scanUnsigned negative s = (scanFraction tail).bind fun part =>
      (scanExponent part.2).map fun power => (numberOf negative whole part.1 power.1, power.2) := by
  unfold scanUnsigned
  simp only [hspan]
  refine (if_neg hwhole).trans ?_
  refine congrArg (Option.bind (scanFraction tail)) (funext fun ⟨part, tail'⟩ => ?_)
  rw [Option.map_eq_bind]
  refine congrArg (Option.bind (scanExponent tail')) (funext fun ⟨exponent, r⟩ => ?_)
  unfold numberOf
  dsimp only [Function.comp_apply]
  split <;> rfl

theorem scanUnsigned_of_bad {whole tail : List Char} (hspan : s.span Char.isDigit = (whole, tail))
    (hwhole : BadWhole whole) : scanUnsigned negative s = none := by
  unfold scanUnsigned
  simp only [hspan]
  exact if_pos hwhole

theorem exists_unsigned (h : scanUnsigned negative s = some (n, r)) :
    ∃ d ds, d.isDigit = true ∧ s = d :: ds ++ r ∧
      ∀ rest, Stops rest → scanUnsigned negative (d :: ds ++ rest) = some (n, rest) := by
  obtain ⟨whole, tail, hspan⟩ : ∃ whole tail, s.span Char.isDigit = (whole, tail) := ⟨_, _, rfl⟩
  obtain ⟨rfl, hdigits, -⟩ := exists_of_span hspan
  by_cases hwhole : BadWhole whole
  · rw [scanUnsigned_of_bad hspan hwhole] at h
    cases h
  rw [scanUnsigned_eq hspan hwhole, Option.bind_eq_some_iff] at h
  obtain ⟨⟨part, tail'⟩, hpart, h⟩ := h
  obtain ⟨⟨exponent, r'⟩, hexponent, h⟩ := Option.map_eq_some_iff.1 h
  obtain ⟨rfl, rfl⟩ := Prod.mk.inj h
  obtain ⟨fraction, rfl, hreadf⟩ := exists_fraction hpart
  obtain ⟨power, rfl, hreade⟩ := exists_exponent hexponent
  obtain ⟨d, ds, rfl⟩ : ∃ d ds, whole = d :: ds := by
    cases whole with
    | nil => exact absurd rfl hwhole
    | cons d ds => exact ⟨d, ds, rfl⟩
  refine ⟨d, ds ++ fraction ++ power, hdigits d List.mem_cons_self, by simp, fun rest hrest => ?_⟩
  obtain ⟨hpower, hends⟩ := hreade rest hrest
  obtain ⟨hfraction, hhead⟩ := hreadf _ hends
  have hchars : d :: (ds ++ fraction ++ power) ++ rest =
      d :: ds ++ (fraction ++ (power ++ rest)) := by simp
  rw [hchars, scanUnsigned_eq (span_digits hdigits hhead) hwhole, hfraction, Option.bind_some]
  exact congrArg (Option.map _) hpower

structure NumberToken where
  chars : List Char
  value : Number
  reads : ∀ rest, Stops rest → scanNumber (chars ++ rest) = some (value, rest)

theorem stops_nil : Stops [] := fun _ hc => nomatch hc

theorem NumberToken.begins (t : NumberToken) :
    ∃ c s, t.chars = c :: s ∧ (c.isDigit = true ∨ c = '-') := by
  have hread := t.reads [] stops_nil
  rw [List.append_nil] at hread
  by_cases hminus : t.chars.head? = some '-'
  · obtain ⟨s, hs⟩ := List.head?_eq_some_iff.1 hminus
    exact ⟨'-', s, hs, .inr rfl⟩
  · rw [scanNumber_of_head? hminus] at hread
    obtain ⟨d, ds, hd, hchars, -⟩ := exists_unsigned hread
    exact ⟨d, _, hchars, .inl hd⟩

theorem exists_numberToken {n : Number} (h : scanNumber s = some (n, r)) :
    ∃ token : NumberToken, token.value = n ∧ s = token.chars ++ r := by
  by_cases hminus : s.head? = some '-'
  · obtain ⟨s, rfl⟩ := List.head?_eq_some_iff.1 hminus
    rw [scanNumber_minus_cons] at h
    obtain ⟨d, ds, hd, rfl, hread⟩ := exists_unsigned h
    exact ⟨⟨'-' :: d :: ds, n, hread⟩, rfl, rfl⟩
  · rw [scanNumber_of_head? hminus] at h
    obtain ⟨d, ds, hd, rfl, hread⟩ := exists_unsigned h
    refine ⟨⟨d :: ds, n, fun rest hrest => ?_⟩, rfl, rfl⟩
    rw [scanNumber_of_head?]
    · exact hread rest hrest
    · intro hhead
      exact ne_of_isDigit hd rfl (Option.some.inj hhead)

end Lockdown.Json

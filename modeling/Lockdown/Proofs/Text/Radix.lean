import Lockdown.Text.Radix
import Mathlib.Data.List.Basic

/-! Digits that are written and read again. -/
namespace Lockdown.Text

theorem hexDigit?_digitChar {n : Nat} (h : n < 16) : hexDigit? (Nat.digitChar n) = some n := by
  revert n
  decide

theorem digitChar_inj {m n : Nat} (hm : m < 16) (hn : n < 16)
    (h : Nat.digitChar m = Nat.digitChar n) : m = n := by
  have hall : ∀ m < 16, ∀ n < 16, Nat.digitChar m = Nat.digitChar n → m = n := by decide
  exact hall m hm n hn h

theorem hexLower_two {n : Nat} (h : n < 256) :
    (hexLower 2 n).toList = [Nat.digitChar (n / 16), Nat.digitChar (n % 16)] := by
  by_cases hn : n < 16
  · rw [Nat.div_eq_of_lt hn, Nat.mod_eq_of_lt hn, hexLower, Nat.toDigits_of_lt_base hn]
    simp [padLeft]
  · have hhigh : n / 16 < 16 := by omega
    rw [hexLower, Nat.toDigits_of_base_le (by decide) (by omega), Nat.toDigits_of_lt_base hhigh]
    simp [padLeft]

theorem hexLower_two_inj {m n : Nat} (hm : m < 256) (hn : n < 256)
    (h : hexLower 2 m = hexLower 2 n) : m = n := by
  have hchars := congrArg String.toList h
  rw [hexLower_two hm, hexLower_two hn, List.cons_eq_cons, List.cons_eq_cons] at hchars
  have hhigh := digitChar_inj (by omega) (by omega) hchars.1
  have hlow := digitChar_inj (by omega) (by omega) hchars.2.1
  omega

theorem digitChar_ne_zero {n : Nat} (h : n ≠ 0) (hn : n < 10) : Nat.digitChar n ≠ '0' := by
  intro he
  exact h (digitChar_inj (by omega) (by omega) he)

/-- Only zero begins with a zero. -/
theorem head?_toDigits {n : Nat} (h : n ≠ 0) : (Nat.toDigits 10 n).head? ≠ some '0' := by
  induction n using Nat.strongRecOn with
  | _ n ih =>
    rcases Nat.lt_or_ge n 10 with hn | hn
    · rw [Nat.toDigits_of_lt_base hn, List.head?_cons]
      exact fun he => digitChar_ne_zero h hn (Option.some.inj he)
    · rw [Nat.toDigits_of_base_le (by decide) hn,
        List.head?_append_of_ne_nil _ Nat.toDigits_ne_nil]
      exact ih (n / 10) (by omega) (by omega)

end Lockdown.Text

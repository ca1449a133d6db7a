import Lockdown.Text.Blank
import Lockdown.Text.Lines
import Mathlib.Data.List.DropRight

/-! A text cut at separators is its pieces with the separators between them, and a text without
what is dropped at its ends is what remains between those ends. -/
namespace Lockdown.Text

theorem splitAtChar_eq_splitOn (sep : Char) (s : List Char) :
    splitAtChar sep s = s.splitOn sep := by
  induction s with
  | nil => rfl
  | cons c s ih =>
    have hne := List.splitOn_ne_nil sep s
    rw [splitAtChar, List.splitOn_cons_eq_if_modifyHead, ih]
    simp only [beq_iff_eq]
    split
    · rfl
    · cases hparts : s.splitOn sep with
      | nil => exact absurd hparts hne
      | cons part parts => rfl

theorem mem_of_mem_intercalate {sep c : Char} {parts : List (List Char)}
    (h : c ∈ [sep].intercalate parts) : c = sep ∨ ∃ part ∈ parts, c ∈ part := by
  induction parts with
  | nil => cases h
  | cons part rest ih =>
    cases rest with
    | nil =>
      rw [List.intercalate_singleton] at h
      exact .inr ⟨part, List.mem_cons_self, h⟩
    | cons next rest =>
      rw [List.intercalate_cons_cons, List.append_assoc, List.mem_append, List.mem_append,
        List.mem_singleton] at h
      rcases h with hc | rfl | hc
      · exact .inr ⟨part, List.mem_cons_self, hc⟩
      · exact .inl rfl
      · exact (ih hc).imp_right fun ⟨p, hp, hcp⟩ => ⟨p, List.mem_cons_of_mem part hp, hcp⟩

variable {p : Char → Bool} {s before body after : List Char}

theorem trimmed_eq_rdropWhile (p : Char → Bool) (s : List Char) :
    trimmed p s = (s.dropWhile p).rdropWhile p := rfl

theorem exists_eq_append_trimmed (p : Char → Bool) (s : List Char) :
    ∃ before after, s = before ++ trimmed p s ++ after ∧ ∀ c ∈ before ++ after, p c := by
  refine ⟨s.takeWhile p, (s.dropWhile p).rtakeWhile p, ?_, ?_⟩
  · rw [trimmed_eq_rdropWhile, List.append_assoc, List.rdropWhile_append_rtakeWhile,
      List.takeWhile_append_dropWhile]
  · intro c hc
    rcases List.mem_append.1 hc with hc | hc
    · exact List.mem_takeWhile_imp hc
    · exact List.mem_rtakeWhile_imp hc

theorem rdropWhile_append_of_pos (h : ∀ c ∈ after, p c) :
    (body ++ after).rdropWhile p = body.rdropWhile p := by
  rw [List.rdropWhile, List.rdropWhile, List.reverse_append,
    List.dropWhile_append_of_pos fun c hc => h c (List.mem_reverse.1 hc)]

theorem trimmed_append (hends : ∀ c ∈ before ++ after, p c) (hbody : ∀ c ∈ body, p c = false) :
    trimmed p (before ++ body ++ after) = body := by
  obtain ⟨hbefore, hafter⟩ := List.forall_mem_append.1 hends
  rw [trimmed_eq_rdropWhile, List.append_assoc, List.dropWhile_append_of_pos hbefore]
  cases body with
  | nil =>
    rw [List.nil_append, List.dropWhile_eq_nil_iff.2 hafter]
    rfl
  | cons c body =>
    have hfirst : p c = false := hbody c List.mem_cons_self
    rw [List.cons_append, List.dropWhile_cons_of_neg (by simp [hfirst]), ← List.cons_append,
      rdropWhile_append_of_pos hafter, List.rdropWhile_eq_self_iff]
    intro hne
    simp [hbody _ (List.getLast_mem hne)]

end Lockdown.Text

import Mathlib.Data.List.Perm.Basic

/-! Steps one after another. Where each may fail, the whole ends well when every step does, and an
error of the whole is the error of one step. Where each may overwrite, the last that does
decides. -/
namespace Lockdown

variable {ε α β : Type} {x : Except ε α} {f : α → Except ε β}

theorem exists_eq_ok_of_isOk (h : x.isOk = true) : ∃ a, x = .ok a := by
  cases x with
  | ok a => exact ⟨a, rfl⟩
  | error e => cases h

theorem bind_eq_ok_iff {b : β} : x >>= f = .ok b ↔ ∃ a, x = .ok a ∧ f a = .ok b := by
  cases x <;> simp [bind, Except.bind]

theorem check_bind_eq_ok_iff {x : Except ε Unit} {f : Unit → Except ε β} {b : β} :
    x >>= f = .ok b ↔ x = .ok () ∧ f () = .ok b := by
  cases x <;> simp [bind, Except.bind]

theorem bind_eq_error_iff {e : ε} :
    x >>= f = .error e ↔ x = .error e ∨ ∃ a, x = .ok a ∧ f a = .error e := by
  cases x <;> simp [bind, Except.bind]

theorem forM_eq_ok_iff (f : α → Except ε Unit) (l : List α) :
    l.forM f = .ok () ↔ ∀ x ∈ l, f x = .ok () := by
  rw [List.forM_eq_forM]
  induction l with
  | nil => simp [pure, Except.pure]
  | cons x rest ih =>
    rw [List.forM_cons, check_bind_eq_ok_iff, List.forall_mem_cons, ih]

theorem exists_of_forM_eq_error {f : α → Except ε Unit} {l : List α} {e : ε}
    (h : l.forM f = .error e) : ∃ x ∈ l, f x = .error e := by
  rw [List.forM_eq_forM] at h
  induction l with
  | nil => cases h
  | cons x rest ih =>
    rw [List.forM_cons, bind_eq_error_iff] at h
    rcases h with hx | ⟨-, -, hrest⟩
    · exact ⟨x, List.mem_cons_self, hx⟩
    · obtain ⟨y, hy, hfail⟩ := ih hrest
      exact ⟨y, List.mem_cons_of_mem x hy, hfail⟩

theorem mapM_eq_some_iff {f : α → Option β} {l : List α} {results : List β} :
    l.mapM f = some results ↔ List.Forall₂ (fun a b => f a = some b) l results := by
  induction l generalizing results with
  | nil => simp [eq_comm]
  | cons a rest ih =>
    rw [List.mapM_cons, List.forall₂_cons_left_iff]
    simp only [Option.bind_eq_bind, Option.bind_eq_some_iff, Option.pure_def, Option.some.injEq, ih]
    constructor
    · rintro ⟨b, hb, bs, hbs, rfl⟩
      exact ⟨b, bs, hb, hbs, rfl⟩
    · rintro ⟨b, bs, hb, hbs, rfl⟩
      exact ⟨b, hb, bs, hbs, rfl⟩

theorem exists_mem_of_mapM {f : α → Option β} {l : List α} {results : List β}
    (h : l.mapM f = some results) {a : α} (ha : a ∈ l) : ∃ b ∈ results, f a = some b := by
  rw [mapM_eq_some_iff] at h
  induction h with
  | nil => cases ha
  | @cons x b rest results hx _ ih =>
    rcases List.mem_cons.1 ha with rfl | ha
    · exact ⟨b, List.mem_cons_self, hx⟩
    · obtain ⟨c, hc, hac⟩ := ih ha
      exact ⟨c, List.mem_cons_of_mem b hc, hac⟩

theorem exists_mapM_of_perm {f : α → Option β} {l l' : List α} {results : List β} (h : l.Perm l')
    (hl : l.mapM f = some results) :
    ∃ results', l'.mapM f = some results' ∧ results.Perm results' := by
  rw [mapM_eq_some_iff] at hl
  obtain ⟨results', hl', hperm⟩ := List.perm_comp_forall₂ h.symm hl
  exact ⟨results', mapM_eq_some_iff.2 hl', hperm.symm⟩

theorem rel_mapM_of_perm (f : α → Option β) {l l' : List α} (h : l.Perm l') :
    Option.Rel List.Perm (l.mapM f) (l'.mapM f) := by
  cases hl : l.mapM f with
  | some results =>
    obtain ⟨results', hl', hperm⟩ := exists_mapM_of_perm h hl
    rw [hl']
    exact .some hperm
  | none =>
    cases hl' : l'.mapM f with
    | none => exact .none
    | some results' =>
      obtain ⟨results, hresults, -⟩ := exists_mapM_of_perm h.symm hl'
      rw [hl] at hresults
      cases hresults

theorem bind_eq_of_rel {γ : Type} {R : α → β → Prop} {o : Option α} {o' : Option β}
    {f : α → Option γ} {g : β → Option γ} (h : Option.Rel R o o')
    (hf : ∀ a b, o = some a → R a b → f a = g b) : o.bind f = o'.bind g := by
  cases h with
  | none => rfl
  | some hab => exact hf _ _ rfl hab

section Congruence

variable {m : Type → Type} [Monad m] {l : List α}

theorem mapM_congr [LawfulMonad m] {f g : α → m β} (h : ∀ a ∈ l, f a = g a) :
    l.mapM f = l.mapM g := by
  induction l with
  | nil => rfl
  | cons a rest ih =>
    obtain ⟨ha, hrest⟩ := List.forall_mem_cons.1 h
    rw [List.mapM_cons, List.mapM_cons, ha, ih hrest]

theorem forM_congr {f g : α → m PUnit} (h : ∀ a ∈ l, f a = g a) : l.forM f = l.forM g := by
  induction l with
  | nil => rfl
  | cons a rest ih =>
    obtain ⟨ha, hrest⟩ := List.forall_mem_cons.1 h
    have ih := ih hrest
    rw [List.forM_eq_forM] at ih ⊢
    rw [List.forM_cons, List.forM_cons, ha, ih]

end Congruence

/-- What is seen after steps that each replace it or leave it alone. -/
theorem foldl_latest {σ ι : Type} (view : σ → α) {step : σ → ι → σ} {written : ι → Option α}
    (h : ∀ s i, view (step s i) = (written i).getD (view s)) (l : List ι) (s : σ) :
    view (l.foldl step s) = (l.reverse.findSome? written).getD (view s) := by
  induction l generalizing s with
  | nil => rfl
  | cons i rest ih =>
    rw [List.foldl_cons, ih, h, List.reverse_cons, List.findSome?_append]
    cases rest.reverse.findSome? written <;> simp

end Lockdown

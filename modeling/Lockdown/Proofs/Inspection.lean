import Lockdown.Simulator
import Lockdown.Proofs.Access

/-! Accesses that only look. A read may program the configuration latch and is entered in the
transaction log, but no value depends on either. So what a read ends with is said once for every
state that agrees with a platform elsewhere, and a chain of reads is followed link by link. -/
namespace Lockdown

/-- Nothing but the latch and the transaction log differs. -/
def Simulator.Undisturbed (s t : Simulator) : Prop :=
  ∃ latch log, t = { s with latch := latch, transactions := log }

namespace Simulator.Undisturbed

variable {s t u : Simulator}

theorem refl (s : Simulator) : s.Undisturbed s := ⟨s.latch, s.transactions, rfl⟩

theorem trans (h : s.Undisturbed t) (h' : t.Undisturbed u) : s.Undisturbed u := by
  obtain ⟨_, _, rfl⟩ := h
  obtain ⟨latch, log, rfl⟩ := h'
  exact ⟨latch, log, rfl⟩

theorem config_eq (h : s.Undisturbed t) : t.config = s.config := by
  obtain ⟨_, _, rfl⟩ := h
  rfl

theorem memory_eq (h : s.Undisturbed t) : t.memory = s.memory := by
  obtain ⟨_, _, rfl⟩ := h
  rfl

theorem msr_eq (h : s.Undisturbed t) : t.msr = s.msr := by
  obtain ⟨_, _, rfl⟩ := h
  rfl

theorem record (s : Simulator) (kind : TransactionKind) (address : UInt64) (width : AccessWidth) :
    s.Undisturbed (s.record kind address width) :=
  ⟨s.latch, _, rfl⟩

theorem portIn (s : Simulator) (port : UInt16) (width : AccessWidth) :
    s.Undisturbed (s.portIn port width).2 :=
  record s _ _ _

theorem select (s : Simulator) (l : PciLocation) : s.Undisturbed (s.select l) := ⟨_, _, rfl⟩

end Simulator.Undisturbed

namespace Access

variable {α β : Type} {s : Simulator} {x : Access Simulator α} {f : α → Access Simulator β}

/-- From every state that agrees with `s`, the access ends so and in such a state. -/
def Inspects (s : Simulator) (x : Access Simulator α) (post : Except AccessError α → Prop) :
    Prop :=
  ∀ st : Session Simulator, s.Undisturbed st.platform →
    post (x.outcome st).1 ∧ s.Undisturbed (x.outcome st).2.platform

/-- There is one result, whatever the latch and the log hold. -/
def Yields (s : Simulator) (x : Access Simulator α) (r : Except AccessError α) : Prop :=
  Inspects s x (· = r)

namespace Inspects

variable {post : Except AccessError α → Prop} {goal : Except AccessError β → Prop}

theorem mono {post' : Except AccessError α → Prop} (h : Inspects s x post)
    (himp : ∀ r, post r → post' r) : Inspects s x post' := fun st hs =>
  ⟨himp _ (h st hs).1, (h st hs).2⟩

/-- What an access returns is what it returns from some such state. -/
theorem traced (h : Inspects s x post) : Inspects s x fun r =>
    post r ∧ ∃ st : Session Simulator, s.Undisturbed st.platform ∧ (x.outcome st).1 = r :=
  fun st hs => ⟨⟨(h st hs).1, st, hs, rfl⟩, (h st hs).2⟩

theorem pure {a : α} (h : post (.ok a)) : Inspects s (Pure.pure a) post := fun _ hs => ⟨h, hs⟩

theorem ofExcept {r : Except AccessError α} (h : post r) : Inspects s (Access.ofExcept r) post := by
  intro st hs
  rw [outcome_ofExcept]
  exact ⟨h, hs⟩

theorem bind (hx : Inspects s x post) (hok : ∀ a, post (.ok a) → Inspects s (f a) goal)
    (herr : ∀ e, post (.error e) → goal (.error e)) : Inspects s (x >>= f) goal := by
  intro st hs
  obtain ⟨hpost, hs'⟩ := hx st hs
  rw [outcome_bind]
  cases hr : x.outcome st with
  | mk r st' =>
    rw [hr] at hpost hs'
    cases r with
    | ok a => exact hok a hpost st' hs'
    | error e => exact ⟨herr e hpost, hs'⟩

theorem logged (hx : Inspects s x post) (line : α → LogLine) :
    Inspects s (do let a ← x; MonadJournal.append (line a); return a) post :=
  bind hx (fun _ ha _ hs => ⟨ha, hs⟩) fun _ he => he

theorem step {g : Simulator → α × Simulator}
    (h : ∀ t, s.Undisturbed t → post (.ok (g t).1) ∧ t.Undisturbed (g t).2) :
    Inspects s (Access.step g) post := fun _ hs =>
  ⟨(h _ hs).1, hs.trans (h _ hs).2⟩

theorem query {kind : TransactionKind} {address : UInt64} {width : AccessWidth} {g : Simulator → α}
    (h : ∀ t, s.Undisturbed t → post (.ok (g t))) :
    Inspects s (Simulator.query kind address width g) post :=
  step fun t hs => ⟨h t hs, .record t kind address width⟩

theorem lift {act : Act Simulator α}
    (h : ∀ st : Session Simulator, s.Undisturbed st.platform →
      post (.ok (act.run st).1) ∧ st.platform.Undisturbed (act.run st).2.platform) :
    Inspects s (ExceptT.lift act) post := fun _ hs =>
  ⟨(h _ hs).1, hs.trans (h _ hs).2⟩

end Inspects

namespace Yields

variable {r : Except AccessError α} {goal : Except AccessError β → Prop}

theorem pure (a : α) : Yields s (Pure.pure a) (.ok a) := Inspects.pure rfl

theorem throw (e : AccessError) : Yields s (throw e : Access Simulator α) (.error e) :=
  fun _ hs => ⟨rfl, hs⟩

theorem ofExcept (r : Except AccessError α) : Yields s (Access.ofExcept r) r :=
  Inspects.ofExcept rfl

theorem append (line : LogLine) :
    Yields s (MonadJournal.append line : Access Simulator Unit) (.ok ()) := fun _ hs => ⟨rfl, hs⟩

theorem bind {g : α → Except AccessError β} (hx : Yields s x r)
    (hf : ∀ a, r = .ok a → Yields s (f a) (g a)) : Yields s (x >>= f) (r >>= g) := by
  refine Inspects.bind hx ?_ ?_
  · rintro a rfl
    exact hf a rfl
  · rintro e rfl
    rfl

theorem stop {e : AccessError} (hx : Yields s x (.error e)) : Yields s (x >>= f) (.error e) :=
  Inspects.bind hx (fun _ ha => nomatch ha) fun _ he => congrArg Except.error (Except.error.inj he)

theorem andThen {a : α} (hx : Yields s x (.ok a)) (hf : Inspects s (f a) goal) :
    Inspects s (x >>= f) goal := by
  refine Inspects.bind hx ?_ (fun e he => nomatch he)
  intro b hb
  obtain rfl := Except.ok.inj hb
  exact hf

theorem observe {g : Simulator → α} (h : ∀ t, s.Undisturbed t → g t = g s) :
    Yields s (Access.observe g) (.ok (g s)) :=
  Inspects.step fun t ht => ⟨congrArg Except.ok (h t ht), .refl t⟩

theorem mapM {g : α → Access Simulator β} {value : α → β} {items : List α}
    (h : ∀ a ∈ items, Yields s (g a) (.ok (value a))) :
    Yields s (items.mapM g) (.ok (items.map value)) := by
  induction items with
  | nil => exact pure []
  | cons a rest ih =>
    obtain ⟨ha, hrest⟩ := List.forall_mem_cons.1 h
    rw [List.mapM_cons]
    exact ha.andThen ((ih hrest).andThen (pure _))

end Yields

def ErrorIn (refused : AccessError → Prop) (r : Except AccessError α) : Prop :=
  ∀ err, r = .error err → refused err

@[simp] theorem errorIn_ok (refused : AccessError → Prop) (a : α) :
    ErrorIn refused (.ok a : Except AccessError α) := fun _ h => nomatch h

@[simp] theorem errorIn_error {refused : AccessError → Prop} {err : AccessError} :
    ErrorIn refused (.error err : Except AccessError α) ↔ refused err :=
  ⟨fun h => h err rfl, fun h _ he => Except.error.inj he ▸ h⟩

theorem Yields.errorIn {refused : AccessError → Prop} {r : Except AccessError α}
    (hx : Yields s x r) (h : ErrorIn refused r) : Inspects s x (ErrorIn refused) := by
  refine hx.mono ?_
  rintro _ rfl
  exact h

/-- From every state that agrees with `s`, only these errors end the access. -/
def FailsOnly (s : Simulator) (x : Access Simulator α) (refused : AccessError → Prop) : Prop :=
  ∀ st : Session Simulator, s.Undisturbed st.platform → ErrorIn refused (x.outcome st).1

namespace FailsOnly

variable {refused : AccessError → Prop}

theorem of_succeeds (hx : Succeeds x) : FailsOnly s x refused := by
  intro st _
  obtain ⟨a, ha⟩ := hx st
  rw [ha]
  exact errorIn_ok refused a

theorem of_yields_error {err : AccessError} (hx : Yields s x (.error err)) (h : refused err) :
    FailsOnly s x refused := by
  intro st hs
  rw [(hx st hs).1]
  exact errorIn_error.2 h

theorem throw {err : AccessError} (h : refused err) :
    FailsOnly s (throw err : Access Simulator α) refused := fun _ _ => errorIn_error.2 h

theorem bind {post : Except AccessError α → Prop} (hx : Inspects s x post)
    (hok : ∀ a, post (.ok a) → FailsOnly s (f a) refused)
    (herr : ∀ err, post (.error err) → refused err) : FailsOnly s (x >>= f) refused := by
  intro st hs
  obtain ⟨hpost, hs'⟩ := hx st hs
  rw [outcome_bind]
  cases hr : x.outcome st with
  | mk r st' =>
    rw [hr] at hpost hs'
    cases r with
    | ok a => exact hok a hpost st' hs'
    | error e => exact errorIn_error.2 (herr e hpost)

theorem andThen {a : α} (hx : Yields s x (.ok a)) (hf : FailsOnly s (f a) refused) :
    FailsOnly s (x >>= f) refused := by
  refine bind hx ?_ (fun e he => nomatch he)
  intro b hb
  obtain rfl := Except.ok.inj hb
  exact hf

theorem followed (hx : FailsOnly s x refused) (hf : ∀ a, Succeeds (f a)) :
    FailsOnly s (x >>= f) refused := by
  intro st hs
  have hpost := hx st hs
  rw [outcome_bind]
  cases hr : x.outcome st with
  | mk r st' =>
    rw [hr] at hpost
    cases r with
    | ok a =>
      obtain ⟨b, hb⟩ := hf a st'
      exact hb ▸ errorIn_ok refused b
    | error e => exact errorIn_error.2 (errorIn_error.1 hpost)

end FailsOnly

end Access

end Lockdown

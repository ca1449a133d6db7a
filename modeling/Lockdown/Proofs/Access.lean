import Lockdown.Access

/-! How an access ends: with a result and a session. An error ends a sequence where it happens and
keeps what was done before, so the session goes on through every step that was reached. -/
namespace Lockdown

variable {σ α β : Type}

theorem Act.run_bind (act : Act σ α) (f : α → Act σ β) (st : Session σ) :
    (act >>= f).run st = (f (act.run st).1).run (act.run st).2 := rfl

namespace Access

def outcome (x : Access σ α) (st : Session σ) : Except AccessError α × Session σ :=
  StateT.run (ExceptT.run x) st

theorem run_attempt (x : Access σ α) (st : Session σ) : x.attempt.run st = x.outcome st := rfl

theorem outcome_bind (x : Access σ α) (f : α → Access σ β) (st : Session σ) :
    outcome (x >>= f) st = match x.outcome st with
      | (.ok a, st') => (f a).outcome st'
      | (.error e, st') => (.error e, st') := by
  unfold outcome ExceptT.run StateT.run
  simp only [bind, ExceptT.bind, ExceptT.mk, ExceptT.bindCont, StateT.bind]
  cases x st with
  | mk result st' => cases result <;> rfl

theorem outcome_tryCatch (x : Access σ α) (handler : AccessError → Access σ α) (st : Session σ) :
    outcome (tryCatch x handler) st = match x.outcome st with
      | (.ok a, st') => (.ok a, st')
      | (.error e, st') => (handler e).outcome st' := by
  unfold outcome ExceptT.run StateT.run
  simp only [tryCatch, tryCatchThe, MonadExceptOf.tryCatch, ExceptT.tryCatch, ExceptT.mk, bind,
    StateT.bind]
  cases x st with
  | mk result st' => cases result <;> rfl

theorem outcome_ofExcept (r : Except AccessError α) (st : Session σ) :
    outcome (ofExcept r) st = (r, st) := by
  cases r <;> rfl

theorem ofExcept_ok_bind (a : α) (f : α → Access σ β) : ofExcept (.ok a) >>= f = f a := rfl

theorem ofExcept_error_bind (e : AccessError) (f : α → Access σ β) :
    ofExcept (.error e) >>= f = throw e := rfl

theorem run_mapM_attempt {ι τ : Type} {R : τ → σ → Prop} {perform : ι → Access σ α}
    {result : ι → Except AccessError α} {apply : τ → ι → τ} {calls : List ι}
    (h : ∀ c ∈ calls, ∀ s st, R s st.platform → ((perform c).outcome st).1 = result c ∧
      R (apply s c) ((perform c).outcome st).2.platform)
    {s : τ} {st : Session σ} (hs : R s st.platform) :
    let ran := (calls.mapM fun c => (perform c).attempt : Act σ _).run st
    ran.1 = calls.map result ∧ R (calls.foldl apply s) ran.2.platform := by
  induction calls generalizing s st with
  | nil => exact ⟨rfl, hs⟩
  | cons c rest ih =>
    obtain ⟨hc, hrest⟩ := List.forall_mem_cons.1 h
    obtain ⟨hresult, hafter⟩ := hc s st hs
    obtain ⟨hresults, hend⟩ := ih hrest hafter
    rw [List.mapM_cons]
    simp only [Act.run_bind, run_attempt, hresult, hresults]
    exact ⟨rfl, hend⟩

def Succeeds (x : Access σ α) : Prop := ∀ st, ∃ a, (x.outcome st).1 = .ok a

namespace Succeeds

theorem pure (a : α) : Succeeds (Pure.pure a : Access σ α) := fun _ => ⟨a, rfl⟩

theorem step (f : σ → α × σ) : Succeeds (Access.step f) := fun _ => ⟨_, rfl⟩

theorem lift (act : Act σ α) : Succeeds (ExceptT.lift act : Access σ α) := fun _ => ⟨_, rfl⟩

theorem append (line : LogLine) : Succeeds (MonadJournal.append line : Access σ Unit) :=
  fun _ => ⟨(), rfl⟩

theorem bind {x : Access σ α} {f : α → Access σ β} (hx : Succeeds x) (hf : ∀ a, Succeeds (f a)) :
    Succeeds (x >>= f) := by
  intro st
  obtain ⟨a, ha⟩ := hx st
  rw [outcome_bind]
  cases hout : x.outcome st with
  | mk r st' =>
    rw [hout] at ha
    cases ha
    exact hf a st'

end Succeeds

/-- If there is a result, then it and the session left are so. -/
def Ends (st : Session σ) (x : Access σ α) (post : α → Session σ → Prop) : Prop :=
  ∀ a, (x.outcome st).1 = .ok a → post a (x.outcome st).2

namespace Ends

variable {st : Session σ} {x : Access σ α} {post : α → Session σ → Prop}

/-- The result and the session are those of the access. -/
theorem exact (st : Session σ) (x : Access σ α) :
    Ends st x fun a st' => x.outcome st = (.ok a, st') := fun _ ha => Prod.ext ha rfl

theorem pure {a : α} (h : post a st) : Ends st (Pure.pure a) post := by
  intro b hb
  obtain rfl : a = b := Except.ok.inj hb
  exact h

theorem ofExcept (st : Session σ) (r : Except AccessError α) :
    Ends st (Access.ofExcept r) fun a st' => r = .ok a ∧ st' = st := by
  intro a ha
  rw [outcome_ofExcept] at ha ⊢
  exact ⟨ha, rfl⟩

theorem bind {f : α → Access σ β} {goal : β → Session σ → Prop} (hx : Ends st x post)
    (hf : ∀ a st', post a st' → Ends st' (f a) goal) : Ends st (x >>= f) goal := by
  intro b hb
  rw [outcome_bind] at hb ⊢
  cases hout : x.outcome st with
  | mk r st' =>
    rw [hout] at hb
    cases r with
    | error e => cases hb
    | ok a =>
      have hpost : post a st' := by
        have hpost := hx a
        rw [hout] at hpost
        exact hpost rfl
      exact hf a st' hpost b hb

end Ends

/-- From this platform there is a result, and it and the platform left are so. -/
def Reaches (t : σ) (x : Access σ α) (post : α → σ → Prop) : Prop :=
  ∀ journal, ∃ a st, x.outcome ⟨t, journal⟩ = (.ok a, st) ∧ post a st.platform

namespace Reaches

variable {t : σ} {post : α → σ → Prop}

theorem pure {a : α} (h : post a t) : Reaches t (Pure.pure a) post :=
  fun journal => ⟨a, ⟨t, journal⟩, rfl, h⟩

theorem mono {x : Access σ α} {goal : α → σ → Prop} (hx : Reaches t x post)
    (himp : ∀ a u, post a u → goal a u) : Reaches t x goal := by
  intro journal
  obtain ⟨a, st, hout, hpost⟩ := hx journal
  exact ⟨a, st, hout, himp a st.platform hpost⟩

theorem bind {x : Access σ α} {f : α → Access σ β} {goal : β → σ → Prop} (hx : Reaches t x post)
    (hf : ∀ a u, post a u → Reaches u (f a) goal) : Reaches t (x >>= f) goal := by
  intro journal
  obtain ⟨a, st, hout, hpost⟩ := hx journal
  rw [outcome_bind, hout]
  exact hf a st.platform hpost st.journal

theorem andThen {x : Access σ α} {f : α → Access σ β} {goal : β → σ → Prop} {a : α} {u : σ}
    (hx : Reaches t x fun b v => b = a ∧ v = u) (hf : Reaches u (f a) goal) :
    Reaches t (x >>= f) goal := by
  refine hx.bind ?_
  rintro _ _ ⟨rfl, rfl⟩
  exact hf

theorem observe (t : σ) (f : σ → α) : Reaches t (Access.observe f) fun a u => a = f t ∧ u = t :=
  fun _ => ⟨_, _, rfl, rfl, rfl⟩

theorem update (t : σ) (f : σ → σ) : Reaches t (Access.update f) fun a u => a = () ∧ u = f t :=
  fun _ => ⟨_, _, rfl, rfl, rfl⟩

theorem append (t : σ) (line : LogLine) :
    Reaches t (MonadJournal.append line) fun a u => a = () ∧ u = t :=
  fun _ => ⟨_, _, rfl, rfl, rfl⟩

theorem tryCatch {x : Access σ α} {handler : AccessError → Access σ α} (hx : Reaches t x post) :
    Reaches t (tryCatch x handler) post := by
  intro journal
  obtain ⟨a, st, hout, hpost⟩ := hx journal
  refine ⟨a, st, ?_, hpost⟩
  rw [outcome_tryCatch, hout]

end Reaches

/-- From this platform the access ends by this error and leaves such a platform. -/
def Stops (t : σ) (x : Access σ α) (err : AccessError) (post : σ → Prop) : Prop :=
  ∀ journal, ∃ st, x.outcome ⟨t, journal⟩ = (.error err, st) ∧ post st.platform

namespace Stops

variable {t : σ} {err : AccessError} {post : σ → Prop} {x : Access σ α}

theorem throw (t : σ) (err : AccessError) :
    Stops t (MonadExcept.throw err : Access σ α) err (· = t) :=
  fun journal => ⟨⟨t, journal⟩, rfl, rfl⟩

theorem mono {goal : σ → Prop} (hx : Stops t x err post) (himp : ∀ u, post u → goal u) :
    Stops t x err goal := by
  intro journal
  obtain ⟨st, hout, hpost⟩ := hx journal
  exact ⟨st, hout, himp st.platform hpost⟩

theorem bind (hx : Stops t x err post) (f : α → Access σ β) : Stops t (x >>= f) err post := by
  intro journal
  obtain ⟨st, hout, hpost⟩ := hx journal
  refine ⟨st, ?_, hpost⟩
  rw [outcome_bind, hout]

theorem rethrown {handler : AccessError → Access σ α} (hx : Stops t x err post)
    (hhandler : handler err = MonadExcept.throw err) : Stops t (tryCatch x handler) err post := by
  intro journal
  obtain ⟨st, hout, hpost⟩ := hx journal
  refine ⟨st, ?_, hpost⟩
  rw [outcome_tryCatch, hout]
  change (handler err).outcome st = _
  rw [hhandler]
  rfl

theorem handled {handler : AccessError → Access σ α} {a : α} (hx : Stops t x err post)
    (hhandler : handler err = Pure.pure a) :
    Reaches t (tryCatch x handler) fun b u => b = a ∧ post u := by
  intro journal
  obtain ⟨st, hout, hpost⟩ := hx journal
  refine ⟨a, st, ?_, rfl, hpost⟩
  rw [outcome_tryCatch, hout]
  change (handler err).outcome st = _
  rw [hhandler]
  rfl

end Stops

theorem Reaches.stops {t : σ} {x : Access σ α} {f : α → Access σ β} {err : AccessError}
    {mid : α → σ → Prop} {post : σ → Prop} (hx : Reaches t x mid)
    (hf : ∀ a u, mid a u → Stops u (f a) err post) : Stops t (x >>= f) err post := by
  intro journal
  obtain ⟨a, st, hout, hmid⟩ := hx journal
  rw [outcome_bind, hout]
  exact hf a st.platform hmid st.journal

/-- Wherever it is begun, the access ends by this error and the platform is as it was: nothing was
asked of it and nothing entered in its log. -/
def Refuses (x : Access σ α) (err : AccessError) : Prop :=
  ∀ st, (x.outcome st).1 = .error err ∧ (x.outcome st).2.platform = st.platform

namespace Refuses

variable {err : AccessError}

theorem throw (err : AccessError) : Refuses (throw err : Access σ α) err := fun _ => ⟨rfl, rfl⟩

theorem stop {x : Access σ α} (hx : Refuses x err) (f : α → Access σ β) :
    Refuses (x >>= f) err := by
  intro st
  obtain ⟨hresult, hplatform⟩ := hx st
  rw [outcome_bind]
  cases hout : x.outcome st with
  | mk r st' =>
    rw [hout] at hresult hplatform
    obtain rfl : r = .error err := hresult
    exact ⟨rfl, hplatform⟩

theorem append_bind {f : Unit → Access σ α} (line : LogLine) (hf : Refuses (f ()) err) :
    Refuses (MonadJournal.append line >>= f) err :=
  fun st => hf { st with journal := st.journal.push line }

end Refuses

end Access

end Lockdown

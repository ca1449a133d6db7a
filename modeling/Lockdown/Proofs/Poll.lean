import Lockdown.Proofs.Engine.Refusal

/-! Reading until a value is accepted. The reader may do anything: each call changes the session and
ends as it likes. What the poll comes to is decided by the first call that fails or is accepted, no
call is made after that one, and the session that it left is the one that the poll leaves. -/
namespace Lockdown

open Access Text

variable {σ τ α : Type}

def Session.counting (st : Session σ) (count : Nat) : Session (σ × Nat) :=
  ⟨(st.platform, count), st.journal⟩

namespace Access

def after (x : Access σ α) (st : Session σ) : Nat → Session σ
  | 0 => st
  | k + 1 => (x.outcome (x.after st k)).2

def reply (x : Access σ α) (st : Session σ) (k : Nat) : Except AccessError α :=
  (x.outcome (x.after st k)).1

/-- The same access, which counts its calls. -/
def counted (x : Access σ α) : Access (σ × Nat) α :=
  ExceptT.mk fun st =>
    let ended := x.outcome ⟨st.platform.1, st.journal⟩
    (ended.1, ended.2.counting (st.platform.2 + 1))

variable (x : Access σ α) (st : Session σ)

theorem after_counted (count k : Nat) :
    x.counted.after (st.counting count) k = (x.after st k).counting (count + k) := by
  induction k with
  | zero => rfl
  | succ k ih =>
    rw [after, ih]
    rfl

theorem reply_counted (count k : Nat) : x.counted.reply (st.counting count) k = x.reply st k := by
  rw [reply, after_counted]
  rfl

end Access

/-- After this the poll goes on. -/
def Waits (ready : UInt64 → Bool) (r : Except AccessError UInt64) : Prop :=
  ∃ v, r = .ok v ∧ ready v = false

section

variable {ready : UInt64 → Bool} {k : Nat} {v : UInt64} {read : Access σ UInt64} {st : Session σ}

theorem outcome_pollFrom_error {err : AccessError} (h : (read.outcome st).1 = .error err)
    (ready : UInt64 → Bool) (attempts : UInt32) (n : Nat) (last : UInt64) :
    (pollFrom attempts read ready (n + 1) last).outcome st = (.error err, (read.outcome st).2) := by
  rw [pollFrom, outcome_bind]
  cases hout : read.outcome st with
  | mk r st' =>
    rw [hout] at h
    obtain rfl : r = .error err := h
    rfl

theorem outcome_pollFrom_ok (h : (read.outcome st).1 = .ok v) (ready : UInt64 → Bool)
    (attempts : UInt32) (n : Nat) (last : UInt64) :
    (pollFrom attempts read ready (n + 1) last).outcome st =
      if ready v then
        (.ok (.ready v), { (read.outcome st).2 with
          journal := (read.outcome st).2.journal.push ⟨.debug, .poll,
            s!"Poll satisfied after {attempts.toNat - n} attempt(s): 0x{hex v.toNat}"⟩ })
      else (pollFrom attempts read ready n v).outcome (read.outcome st).2 := by
  rw [pollFrom, outcome_bind]
  cases hout : read.outcome st with
  | mk r st' =>
    rw [hout] at h
    obtain rfl : r = .ok v := h
    dsimp only
    cases ready v <;> rfl

/-- Calls that the poll waits after only advance the session, and the last of them is remembered. -/
theorem outcome_pollFrom_waits (h : ∀ j < k, Waits ready (read.reply st j)) (attempts : UInt32)
    (n : Nat) (last : UInt64) : ∃ shown, (k = 0 → shown = last) ∧
      (∀ j, k = j + 1 → read.reply st j = .ok shown) ∧
      (pollFrom attempts read ready (n + k) last).outcome st =
        (pollFrom attempts read ready n shown).outcome (read.after st k) := by
  induction k generalizing n with
  | zero => exact ⟨last, fun _ => rfl, nofun, rfl⟩
  | succ k ih =>
    obtain ⟨before, -, -, hbefore⟩ := ih (fun j hj => h j (hj.trans k.lt_succ_self)) (n + 1)
    obtain ⟨v, hv, hwaits⟩ := h k k.lt_succ_self
    have hstep := outcome_pollFrom_ok hv ready attempts n before
    rw [hwaits, if_neg Bool.false_ne_true] at hstep
    refine ⟨v, nofun, ?_, ?_⟩
    · rintro j hj
      obtain rfl : k = j := Nat.succ.inj hj
      exact hv
    · rw [show n + (k + 1) = n + 1 + k by omega, hbefore, hstep]
      rfl

end

def pollLines (result : Except AccessError PollOutcome) (calls : Nat) : Array LogLine :=
  match result with
  | .error _ => #[]
  | .ok (.ready v) =>
    #[⟨.debug, .poll, s!"Poll satisfied after {calls} attempt(s): 0x{hex v.toNat}"⟩]
  | .ok (.notReady last attempts) =>
    #[⟨.debug, .poll,
      s!"Poll gave up after {attempts} attempt(s), last value 0x{hex last.toNat}"⟩]

def EndsAfter (policy : PollPolicy) (read : Access σ UInt64) (ready : UInt64 → Bool)
    (st : Session σ) (result : Except AccessError PollOutcome) (calls : Nat) : Prop :=
  (pollUntil policy read ready).outcome st = (result, { read.after st calls with
    journal := (read.after st calls).journal ++ pollLines result calls })

/-- The poll ends so after exactly so many calls: it leaves what these leave, and had they been
counted, they would be so many. -/
structure Polls (policy : PollPolicy) (read : Access σ UInt64) (ready : UInt64 → Bool)
    (st : Session σ) (result : Except AccessError PollOutcome) (calls : Nat) : Prop where
  ends : EndsAfter policy read ready st result calls
  counts : ∀ count, ((pollUntil policy read.counted ready).outcome
    (st.counting count)).2.platform.2 = count + calls

section

variable {policy : PollPolicy} {read : Access σ UInt64} {ready : UInt64 → Bool} {st : Session σ}
  {result : Except AccessError PollOutcome} {k : Nat}

theorem outcome_pollUntil_waits (hk : k < policy.attempts.toNat)
    (h : ∀ j < k, Waits ready (read.reply st j)) : ∃ n last, policy.attempts.toNat - n = k + 1 ∧
      (pollUntil policy read ready).outcome st =
        (pollFrom policy.attempts read ready (n + 1) last).outcome (read.after st k) := by
  obtain ⟨n, hn⟩ := Nat.exists_eq_add_of_lt hk
  obtain ⟨last, -, -, hwaits⟩ := outcome_pollFrom_waits h policy.attempts (n + 1) 0
  refine ⟨n, last, by omega, ?_⟩
  rw [pollUntil, show policy.attempts.toNat = n + 1 + k by omega, hwaits]

theorem endsAfter_error (hk : k < policy.attempts.toNat)
    (h : ∀ j < k, Waits ready (read.reply st j)) {err : AccessError}
    (herr : read.reply st k = .error err) :
    EndsAfter policy read ready st (.error err) (k + 1) := by
  obtain ⟨n, last, -, hwaits⟩ := outcome_pollUntil_waits hk h
  rw [EndsAfter, hwaits, outcome_pollFrom_error herr]
  rfl

theorem endsAfter_ready (hk : k < policy.attempts.toNat)
    (h : ∀ j < k, Waits ready (read.reply st j)) {v : UInt64} (hv : read.reply st k = .ok v)
    (hready : ready v = true) : EndsAfter policy read ready st (.ok (.ready v)) (k + 1) := by
  obtain ⟨n, last, hcalls, hwaits⟩ := outcome_pollUntil_waits hk h
  rw [EndsAfter, hwaits, outcome_pollFrom_ok hv, if_pos hready, hcalls]
  rfl

theorem endsAfter_notReady (h : ∀ j < policy.attempts.toNat, Waits ready (read.reply st j)) :
    ∃ last, (policy.attempts.toNat = 0 → last = 0) ∧
      (∀ j, policy.attempts.toNat = j + 1 → read.reply st j = .ok last) ∧
      EndsAfter policy read ready st (.ok (.notReady last policy.attempts))
        policy.attempts.toNat := by
  obtain ⟨last, hzero, hlast, hwaits⟩ :=
    outcome_pollFrom_waits h policy.attempts 0 0
  rw [Nat.zero_add] at hwaits
  refine ⟨last, hzero, hlast, ?_⟩
  rw [EndsAfter, pollUntil, hwaits]
  rfl

theorem waits_counted (h : ∀ j < k, Waits ready (read.reply st j)) (count : Nat) :
    ∀ j < k, Waits ready (read.counted.reply (st.counting count) j) := by
  intro j hj
  rw [reply_counted]
  exact h j hj

theorem EndsAfter.polls (h : EndsAfter policy read ready st result k)
    (hcounted : ∀ count, ∃ result', EndsAfter policy read.counted ready (st.counting count)
      result' k) : Polls policy read ready st result k := by
  refine ⟨h, fun count => ?_⟩
  obtain ⟨_, hends⟩ := hcounted count
  rw [hends]
  exact congrArg (·.platform.2) (after_counted read st count k)

theorem polls_error (hk : k < policy.attempts.toNat)
    (h : ∀ j < k, Waits ready (read.reply st j)) {err : AccessError}
    (herr : read.reply st k = .error err) : Polls policy read ready st (.error err) (k + 1) :=
  (endsAfter_error hk h herr).polls fun count =>
    ⟨_, endsAfter_error hk (waits_counted h count) ((reply_counted read st count k).trans herr)⟩

theorem polls_ready (hk : k < policy.attempts.toNat)
    (h : ∀ j < k, Waits ready (read.reply st j)) {v : UInt64} (hv : read.reply st k = .ok v)
    (hready : ready v = true) : Polls policy read ready st (.ok (.ready v)) (k + 1) :=
  (endsAfter_ready hk h hv hready).polls fun count =>
    ⟨_, endsAfter_ready hk (waits_counted h count) ((reply_counted read st count k).trans hv)
      hready⟩

theorem polls_notReady (h : ∀ j < policy.attempts.toNat, Waits ready (read.reply st j)) :
    ∃ last, (policy.attempts.toNat = 0 → last = 0) ∧
      (∀ j, policy.attempts.toNat = j + 1 → read.reply st j = .ok last) ∧
      Polls policy read ready st (.ok (.notReady last policy.attempts))
        policy.attempts.toNat := by
  obtain ⟨last, hzero, hlast, hends⟩ := endsAfter_notReady h
  refine ⟨last, hzero, hlast, hends.polls fun count => ?_⟩
  obtain ⟨_, -, -, hcounted⟩ := endsAfter_notReady (waits_counted h count)
  exact ⟨_, hcounted⟩

end

namespace Engine

variable [Bus τ] {e : Engine} {name field : String}

theorem pollField_of_field? {f : Field} (h : e.store.field? name field = some f)
    (policy : PollPolicy) (ready : UInt64 → Bool) :
    (e.pollField name field policy ready : Access τ PollOutcome) =
      pollUntil policy (e.readField name field false) ready := by
  obtain ⟨r, hr, hf⟩ := Option.bind_eq_some_iff.1 h
  rw [pollField, requireField_of_get? hr hf, ofExcept_ok_bind]

theorem pollField_undefined (h : e.store.get? name = none) (policy : PollPolicy)
    (ready : UInt64 → Bool) :
    (e.pollField name field policy ready : Access τ PollOutcome) =
      throw (.undefinedRegister name) := by
  rw [pollField, requireField_of_unnamed h, ofExcept_error_bind]

theorem pollField_undefinedField {r : Register} (hr : e.store.get? name = some r)
    (hf : r.field? field = none) (policy : PollPolicy) (ready : UInt64 → Bool) :
    (e.pollField name field policy ready : Access τ PollOutcome) =
      throw (.undefinedField name field) := by
  rw [pollField, requireField_of_undefined hr hf, ofExcept_error_bind]

end Engine

/-- A poll of `n` attempts ends by the first of `n` calls that fails or gives an accepted value:
with that error, or with that value. If there is none it gives up with the last value. It has then
made this call and those before it, or all `n`, and none besides. A field is polled by reading it,
and where it or its register is not defined the poll is that error and asks nothing of any
platform. -/
theorem pollUntil_exact [Bus τ] (policy : PollPolicy) (read : Access σ UInt64)
    (ready : UInt64 → Bool) (st : Session σ) :
    let n := policy.attempts.toNat
    let polls := Polls policy read ready st
    (∀ k < n, (∀ j < k, Waits ready (read.reply st j)) →
      (∀ err, read.reply st k = .error err → polls (.error err) (k + 1)) ∧
      ∀ v, read.reply st k = .ok v → ready v = true → polls (.ok (.ready v)) (k + 1)) ∧
    ((∀ j < n, Waits ready (read.reply st j)) → ∃ last,
      (n = 0 → last = 0) ∧ (∀ j, n = j + 1 → read.reply st j = .ok last) ∧
      polls (.ok (.notReady last policy.attempts)) n) ∧
    ∀ (e : Engine) (name field : String),
      let poll : Access τ PollOutcome := e.pollField name field policy ready
      (e.store.get? name = none → poll = throw (.undefinedRegister name)) ∧
      (∀ r, e.store.get? name = some r → r.field? field = none →
        poll = throw (.undefinedField name field)) ∧
      ∀ f, e.store.field? name field = some f →
        poll = pollUntil policy (e.readField name field false) ready := by
  intro n polls
  refine ⟨fun k hk hwaits => ⟨fun _ herr => ?_, fun _ hv hready => ?_⟩, polls_notReady,
    fun e name field => ⟨fun h => ?_, fun r hr hf => ?_, fun f h => ?_⟩⟩
  · exact polls_error hk hwaits herr
  · exact polls_ready hk hwaits hv hready
  · exact Engine.pollField_undefined h policy ready
  · exact Engine.pollField_undefinedField hr hf policy ready
  · exact Engine.pollField_of_field? h policy ready

theorem pollUntil_exact_counting :
    let read : Access UInt64 UInt64 := Access.step fun s => (s, s + 1)
    let st : Session UInt64 := ⟨7, #[]⟩
    Polls ⟨5, 1⟩ read (· = 9) st (.ok (.ready 9)) 3 ∧
    Polls ⟨5, 1⟩ read (fun _ => false) st (.ok (.notReady 11 5)) 5 ∧
    Polls ⟨0, 1⟩ read (fun _ => true) st (.ok (.notReady 0 0)) 0 := by
  intro read st
  have hreply : ∀ j, j < 5 → read.reply st j = .ok (7 + UInt64.ofNat j) := by decide
  refine ⟨?_, ?_, ?_⟩
  · refine ((pollUntil_exact (τ := Simulator) ⟨5, 1⟩ read (· = 9) st).1 2 (by decide) ?_).2 9
      (hreply 2 (by decide)) (by decide)
    intro j hj
    exact ⟨_, hreply j (by omega), by decide +revert⟩
  · obtain ⟨last, -, hlast, hpolls⟩ :=
      (pollUntil_exact (τ := Simulator) ⟨5, 1⟩ read (fun _ => false) st).2.1 fun j hj =>
        ⟨_, hreply j hj, rfl⟩
    obtain rfl : 11 = last := Except.ok.inj ((hreply 4 (by decide)).symm.trans (hlast 4 rfl))
    exact hpolls
  · obtain ⟨last, hlast, -, hpolls⟩ :=
      (pollUntil_exact (τ := Simulator) ⟨0, 1⟩ read (fun _ => true) st).2.1 nofun
    obtain rfl : last = 0 := hlast rfl
    exact hpolls

end Lockdown

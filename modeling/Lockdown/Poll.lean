import Lockdown.Access
import Lockdown.Json.Decode
import Lockdown.Text.Radix
/-!
Reading again until a value is as wanted. The number of reads is bounded beforehand, and a read
that fails ends the poll.
-/
namespace Lockdown

open Text

structure PollPolicy where
  attempts : UInt32
  /-- Milliseconds from one attempt to the next. A platform held as a value does not change
  meanwhile, so nothing here waits. -/
  interval : UInt64
  deriving DecidableEq, Repr

def PollPolicy.standard : PollPolicy := ⟨200, 10⟩

def PollPolicy.ofJson? (j : Json) : Option PollPolicy := do
  let fs ← Json.fields? ["attempts", "interval"] j
  some ⟨← fs.orElse? "attempts" standard.attempts Json.uint32?,
    ← fs.orElse? "interval" standard.interval Json.uint64?⟩

inductive PollOutcome where
  | ready (value : UInt64)
  /-- The last value read, zero if there was no attempt. -/
  | notReady (last : UInt64) (attempts : UInt32)
  deriving DecidableEq, Repr

section

variable {m : Type → Type} [Monad m] [MonadJournal m]

/-- `remaining` more attempts out of `attempts`, the last of which gave `last`. -/
def pollFrom (attempts : UInt32) (read : m UInt64) (ready : UInt64 → Bool) :
    Nat → UInt64 → m PollOutcome
  | 0, last => do
    Journal.debug .poll s!"Poll gave up after {attempts} attempt(s), last value 0x{hex last.toNat}"
    return .notReady last attempts
  | remaining + 1, _ => do
    let value ← read
    if ready value then
      Journal.debug .poll
        s!"Poll satisfied after {attempts.toNat - remaining} attempt(s): 0x{hex value.toNat}"
      return .ready value
    else pollFrom attempts read ready remaining value

def pollUntil (policy : PollPolicy) (read : m UInt64) (ready : UInt64 → Bool) : m PollOutcome :=
  pollFrom policy.attempts read ready policy.attempts.toNat 0

end

end Lockdown

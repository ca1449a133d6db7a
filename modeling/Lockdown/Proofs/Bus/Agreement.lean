import Lockdown.Bus.Config
import Lockdown.Proofs.Bus.Span

/-! Two platforms side by side. What is built on single transactions is the same program on each, so
it agrees on the two where its transactions do. -/
namespace Lockdown

variable {σ τ α β : Type} {R : σ → τ → Prop}

/-- Begun on related platforms, the two end with the same result and on related platforms. What
they log may differ. -/
def Access.Agree (R : σ → τ → Prop) (x : Access σ α) (y : Access τ α) : Prop :=
  ∀ (st : Session σ) (st' : Session τ), R st.platform st'.platform →
    (x.outcome st).1 = (y.outcome st').1 ∧ R (x.outcome st).2.platform (y.outcome st').2.platform

namespace Access.Agree

theorem pure (a : α) : Agree R (Pure.pure a) (Pure.pure a) := fun _ _ h => ⟨rfl, h⟩

theorem throw (e : AccessError) :
    Agree R (throw e : Access σ α) (throw e : Access τ α) := fun _ _ h => ⟨rfl, h⟩

theorem append (line line' : LogLine) :
    Agree R (MonadJournal.append line) (MonadJournal.append line') := fun _ _ h => ⟨rfl, h⟩

theorem bind {x : Access σ α} {y : Access τ α} {f : α → Access σ β} {g : α → Access τ β}
    (hx : Agree R x y) (hf : ∀ a, Agree R (f a) (g a)) : Agree R (x >>= f) (y >>= g) := by
  intro st st' h
  obtain ⟨hresult, hplatform⟩ := hx st st' h
  rw [outcome_bind, outcome_bind]
  cases hleft : x.outcome st with
  | mk r left =>
    cases hright : y.outcome st' with
    | mk r' right =>
      rw [hleft, hright] at hresult hplatform
      obtain rfl : r = r' := hresult
      cases r with
      | error e => exact ⟨rfl, hplatform⟩
      | ok a => exact hf a left right hplatform

theorem ofExcept {r : Except AccessError α} {f : α → Access σ β} {g : α → Access τ β}
    (hf : ∀ a, r = .ok a → Agree R (f a) (g a)) :
    Agree R (Access.ofExcept r >>= f) (Access.ofExcept r >>= g) := by
  cases r with
  | error e => exact fun _ _ h => ⟨rfl, h⟩
  | ok a => exact hf a rfl

theorem mapM {f : α → Access σ β} {g : α → Access τ β} {items : List α}
    (h : ∀ a ∈ items, Agree R (f a) (g a)) : Agree R (items.mapM f) (items.mapM g) := by
  induction items with
  | nil => exact pure []
  | cons a rest ih =>
    obtain ⟨ha, hrest⟩ := List.forall_mem_cons.1 h
    rw [List.mapM_cons, List.mapM_cons]
    exact ha.bind fun _ => (ih hrest).bind fun _ => pure _

theorem forM {f : α → Access σ PUnit} {g : α → Access τ PUnit} {items : List α}
    (h : ∀ a ∈ items, Agree R (f a) (g a)) : Agree R (items.forM f) (items.forM g) := by
  induction items with
  | nil => exact pure ()
  | cons a rest ih =>
    obtain ⟨ha, hrest⟩ := List.forall_mem_cons.1 h
    exact ha.bind fun _ => ih hrest

end Access.Agree

open Access

namespace Bus

theorem agree_warnIfOutOfRange (R : σ → τ → Prop) (l : PciLocation) :
    Agree R (ExceptT.lift (warnIfOutOfRange l)) (ExceptT.lift (warnIfOutOfRange l)) := by
  intro st st' h
  unfold warnIfOutOfRange
  split <;> exact ⟨rfl, h⟩

theorem agree_checkSpan (R : σ → τ → Prop) (address : UInt64) (length : Nat) :
    Agree R (checkSpan address length) (checkSpan address length) := by
  rw [checkSpan_eq, checkSpan_eq]
  split
  · exact .pure ()
  · exact .throw _

variable [Bus σ] [Bus τ] {l : PciLocation} {address : UInt64} {length : Nat}

theorem agree_readPci (hread : Agree R (pciReadDword l) (pciReadDword l)) (size : UInt32) :
    Agree R (readPci l size) (readPci l size) := by
  refine (agree_warnIfOutOfRange R l).bind fun _ => ?_
  exact hread.bind fun _ => (Agree.append _ _).bind fun _ => .pure _

theorem agree_writePci (hread : Agree R (pciReadDword l) (pciReadDword l))
    (hwrite : ∀ value, Agree R (pciWriteDword l value) (pciWriteDword l value))
    {value value' size : UInt32}
    (hvalue : ∀ old, merge old l.offset size value = merge old l.offset size value') :
    Agree R (writePci l value size) (writePci l value' size) := by
  refine (agree_warnIfOutOfRange R l).bind fun _ => ?_
  refine hread.bind fun old => ?_
  rw [hvalue]
  exact (hwrite _).bind fun _ => (Agree.append _ _).bind fun _ => .pure _

def ReadsAgree (R : σ → τ → Prop) (address : UInt64) (length : Nat) : Prop :=
  ∀ offset w, offset + w.bytes ≤ length →
    Agree R (memRead (address + UInt64.ofNat offset) w) (memRead (address + UInt64.ofNat offset) w)

def WritesAgree (R : σ → τ → Prop) (address : UInt64) (length : Nat) : Prop :=
  ∀ offset w value, offset + w.bytes ≤ length →
    Agree R (memWrite (address + UInt64.ofNat offset) w value)
      (memWrite (address + UInt64.ofNat offset) w value)

theorem agree_readPhysical (h : ReadsAgree R address length) :
    Agree R (readPhysical address length) (readPhysical address length) := by
  rw [readPhysical_eq, readPhysical_eq]
  refine (agree_checkSpan R address length).bind fun _ => ?_
  refine Agree.bind (Agree.mapM fun c hc => ?_) fun _ => .pure _
  exact (h c.offset c.width (chunk_inside hc)).bind fun _ => .pure _

theorem agree_writePhysical {data : List UInt8} (h : WritesAgree R address data.length) :
    Agree R (writePhysical address data) (writePhysical address data) := by
  rw [writePhysical_eq, writePhysical_eq]
  refine (agree_checkSpan R address data.length).bind fun _ => ?_
  exact Agree.forM fun c hc => h c.offset c.width _ (chunk_inside hc)

theorem bytes_of_mmioWidth {size : UInt64} {w : AccessWidth} (h : mmioWidth size = .ok w) :
    w.bytes = size.toNat := by
  have hbytes : ∀ n, AccessWidth.ofBytes n = .ok w → w.bytes = n := by
    intro n hn
    unfold AccessWidth.ofBytes at hn
    split at hn <;> cases hn <;> rfl
  unfold mmioWidth at h
  split at h
  · cases h
    exact hbytes _ ‹_›
  · cases h

theorem agree_readMmio {size : UInt64} (h : ReadsAgree R address size.toNat) :
    Agree R (readMmio address size) (readMmio address size) := by
  refine Agree.ofExcept fun w hw => ?_
  rw [← bytes_of_mmioWidth hw] at h
  exact (agree_readPhysical h).bind fun _ => (Agree.append _ _).bind fun _ => .pure _

theorem agree_writeMmio {size value value' : UInt64} (h : WritesAgree R address size.toNat)
    (hvalue : ∀ w, mmioWidth size = .ok w → value &&& w.mask = value' &&& w.mask) :
    Agree R (writeMmio address size value) (writeMmio address size value') := by
  refine Agree.ofExcept fun w hw => ?_
  rw [← hvalue w hw]
  rw [← bytes_of_mmioWidth hw, ← length_bytesLE w.bytes (value &&& w.mask)] at h
  exact (Agree.append _ _).bind fun _ => agree_writePhysical h

end Bus

inductive BusRequest where
  | readPci (l : PciLocation) (size : UInt32)
  | writePci (l : PciLocation) (value size : UInt32)
  | readPhysical (address : UInt64) (length : Nat)
  | writePhysical (address : UInt64) (data : List UInt8)
  | readMmio (address size : UInt64)
  | writeMmio (address size value : UInt64)
  deriving DecidableEq, Repr

inductive BusReply where
  | done
  | dword (value : UInt32)
  | qword (value : UInt64)
  | bytes (data : List UInt8)
  deriving DecidableEq, Repr

namespace BusRequest

def perform [Bus σ] : BusRequest → Access σ BusReply
  | readPci l size => return .dword (← Bus.readPci l size)
  | writePci l value size => return .dword (← Bus.writePci l value size)
  | readPhysical address length => return .bytes (← Bus.readPhysical address length)
  | writePhysical address data => do
    Bus.writePhysical address data
    return .done
  | readMmio address size => return .qword (← Bus.readMmio address size)
  | writeMmio address size value => do
    Bus.writeMmio address size value
    return .done

def performEach [Bus σ] (requests : List BusRequest) :
    Act σ (List (Except AccessError BusReply)) :=
  requests.mapM fun r => r.perform.attempt

theorem agree_performEach [Bus σ] [Bus τ] {requests : List BusRequest}
    (h : ∀ r ∈ requests, Agree R r.perform r.perform) (st : Session σ) (st' : Session τ)
    (hplatforms : R st.platform st'.platform) :
    ((performEach requests).run st).1 = ((performEach requests).run st').1 ∧
      R ((performEach requests).run st).2.platform ((performEach requests).run st').2.platform := by
  unfold performEach
  induction requests generalizing st st' with
  | nil => exact ⟨rfl, hplatforms⟩
  | cons r rest ih =>
    obtain ⟨hr, hrest⟩ := List.forall_mem_cons.1 h
    obtain ⟨hresult, hafter⟩ := hr st st' hplatforms
    obtain ⟨hresults, hend⟩ := ih hrest _ _ hafter
    rw [List.mapM_cons, List.mapM_cons]
    simp only [Act.run_bind, run_attempt, hresult, hresults]
    exact ⟨rfl, hend⟩

end BusRequest

end Lockdown

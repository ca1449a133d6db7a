import Lockdown.Proofs.Bus.Writing

/-! The reserved bits of the configuration latch over any number of accesses. Each cycle carries
them over, but an offset goes into the latch with its two low bits, whose places are reserved. So
a bit set there by one access is taken for a reserved one by all that follow. -/
namespace Lockdown

variable {σ α β : Type}

inductive ConfigAccess where
  | read (l : PciLocation) (size : UInt32)
  | write (l : PciLocation) (value size : UInt32)
  deriving DecidableEq, Repr

namespace ConfigAccess

def place : ConfigAccess → PciLocation
  | read l _ => l
  | write l _ _ => l

def perform [Bus σ] : ConfigAccess → Access σ UInt32
  | read l size => Bus.readPci l size
  | write l value size => Bus.writePci l value size

def performAll [Bus σ] (accesses : List ConfigAccess) : Access σ (List UInt32) :=
  accesses.mapM perform

end ConfigAccess

/-- Begun with `p` in the latch, the access ends with a result and leaves `q` there. -/
def Access.Latches (p : UInt32) (x : Access Simulator α) (q : UInt32) : Prop :=
  ∀ st : Session Simulator, st.platform.latch = p →
    (∃ a, (x.outcome st).1 = .ok a) ∧ (x.outcome st).2.platform.latch = q

namespace Access.Latches

variable {p q r : UInt32} {x : Access Simulator α} {f : α → Access Simulator β}

theorem pure (p : UInt32) (a : α) : Latches p (Pure.pure a) p := fun _ hp => ⟨⟨a, rfl⟩, hp⟩

theorem append (p : UInt32) (line : LogLine) : Latches p (MonadJournal.append line) p :=
  fun _ hp => ⟨⟨(), rfl⟩, hp⟩

theorem bind (hx : Latches p x q) (hf : ∀ a, Latches q (f a) r) : Latches p (x >>= f) r := by
  intro st hp
  obtain ⟨⟨a, ha⟩, hq⟩ := hx st hp
  rw [outcome_bind]
  cases hout : x.outcome st with
  | mk result st' =>
    rw [hout] at ha hq
    obtain rfl : result = .ok a := ha
    exact hf a st' hq

end Access.Latches

open Access ConfigAddress

theorem Simulator.latch_select (s : Simulator) (l : PciLocation) :
    (s.select l).latch = (forCycle s.latch l).encode := by
  have hmask : AccessWidth.dword.mask.toUInt32 = -1 := by decide
  change (forCycle (s.latch &&& AccessWidth.dword.mask.toUInt32) l).encode = _
  rw [hmask, UInt32.and_neg_one]

namespace Bus

theorem latches_warnIfOutOfRange (p : UInt32) (l : PciLocation) :
    Latches p (ExceptT.lift (warnIfOutOfRange l)) p := by
  intro st hp
  refine ⟨⟨(), rfl⟩, ?_⟩
  change ((warnIfOutOfRange l).run st).2.platform.latch = p
  unfold warnIfOutOfRange
  split <;> exact hp

theorem latches_pciReadDword (p : UInt32) (l : PciLocation) :
    Latches p (pciReadDword l) (forCycle p l).encode := by
  rintro st rfl
  exact ⟨⟨_, rfl⟩, st.platform.latch_select l⟩

theorem latches_pciWriteDword (p : UInt32) (l : PciLocation) (value : UInt32) :
    Latches p (pciWriteDword l value) (forCycle p l).encode := by
  rintro st rfl
  refine ⟨⟨(), rfl⟩, ?_⟩
  change ((st.platform.select l).portOut _ _ _).latch = _
  rw [Simulator.portOut_dataPort (Simulator.selected?_select _ l)]
  exact st.platform.latch_select l

theorem latches_readPci (p : UInt32) (l : PciLocation) (size : UInt32) :
    Latches p (readPci l size) (forCycle p l).encode := by
  unfold readPci
  refine (latches_warnIfOutOfRange p l).bind fun _ => ?_
  refine (latches_pciReadDword p l).bind fun _ => ?_
  exact (Latches.append _ _).bind fun _ => .pure _ _

theorem latches_writePci (p : UInt32) (l : PciLocation) (value size : UInt32) :
    Latches p (writePci l value size) (forCycle (forCycle p l).encode l).encode := by
  unfold writePci
  refine (latches_warnIfOutOfRange p l).bind fun _ => ?_
  refine (latches_pciReadDword p l).bind fun old => ?_
  refine (latches_pciWriteDword _ l _).bind fun _ => ?_
  exact (Latches.append _ _).bind fun _ => .pure _ _

end Bus

namespace ConfigAccess

def stray (a : ConfigAccess) : UInt32 := a.place.offset &&& 3

theorem reserved_perform (a : ConfigAccess) (p : UInt32) :
    ∃ q, Latches p a.perform q ∧ q &&& reservedMask = (p &&& reservedMask) ||| a.stray := by
  cases a with
  | read l size => exact ⟨_, Bus.latches_readPci p l size, reserved_forCycle p l⟩
  | write l value size =>
    refine ⟨_, Bus.latches_writePci p l value size, ?_⟩
    rw [reserved_forCycle, reserved_forCycle, UInt32.or_assoc, UInt32.or_self]
    rfl

theorem reserved_performAll (accesses : List ConfigAccess) (p : UInt32) :
    ∃ q, Latches p (performAll accesses) q ∧
      q &&& reservedMask = (accesses.map stray).foldl (· ||| ·) (p &&& reservedMask) := by
  induction accesses generalizing p with
  | nil => exact ⟨p, .pure p [], rfl⟩
  | cons a rest ih =>
    obtain ⟨q, hq, hkept⟩ := reserved_perform a p
    obtain ⟨r, hr, hrest⟩ := ih q
    refine ⟨r, ?_, ?_⟩
    · unfold performAll
      rw [List.mapM_cons]
      exact hq.bind fun _ => hr.bind fun _ => .pure _ _
    · rw [hrest, hkept]
      rfl

end ConfigAccess

theorem foldl_or_absorbs (ys : List UInt32) (x : UInt32) :
    ys.foldl (· ||| ·) x ||| x = ys.foldl (· ||| ·) x := by
  induction ys generalizing x with
  | nil => exact UInt32.or_self
  | cons y ys ih =>
    have hstep := ih (x ||| y)
    have hxy : (x ||| y) ||| x = x ||| y := by
      rw [UInt32.or_comm, ← UInt32.or_assoc, UInt32.or_self]
    rw [List.foldl_cons, ← hstep, UInt32.or_assoc, hxy]

theorem foldl_or_eq_iff (ys : List UInt32) (x : UInt32) :
    ys.foldl (· ||| ·) x = x ↔ ∀ y ∈ ys, x ||| y = x := by
  induction ys with
  | nil => simp
  | cons y ys ih =>
    rw [List.foldl_cons, List.forall_mem_cons]
    constructor
    · intro h
      have habsorb := foldl_or_absorbs ys (x ||| y)
      rw [h, ← UInt32.or_assoc, UInt32.or_self] at habsorb
      rw [habsorb] at h
      exact ⟨habsorb, ih.1 h⟩
    · rintro ⟨hy, hys⟩
      rw [hy]
      exact ih.2 hys

namespace ConfigAccess

/-- The reserved bits of the latch after any accesses are those before, with the low bits of every
offset. They are what they were just when these bits were all set before. -/
theorem reserved_exact (accesses : List ConfigAccess) (st : Session Simulator) :
    let before := st.platform.latch
    let after := ((performAll accesses).outcome st).2.platform.latch
    (∃ values, ((performAll accesses).outcome st).1 = .ok values) ∧
    after &&& reservedMask =
      (accesses.map stray).foldl (· ||| ·) (before &&& reservedMask) ∧
    (after &&& reservedMask = before &&& reservedMask ↔
      ∀ a ∈ accesses, (before &&& reservedMask) ||| (a.place.offset &&& 3) =
        before &&& reservedMask) ∧
    ∀ previous l, (forCycle previous l).encode &&& reservedMask = previous &&& reservedMask ↔
      (previous &&& reservedMask) ||| (l.offset &&& 3) = previous &&& reservedMask := by
  intro before after
  obtain ⟨q, hlatches, hreserved⟩ := reserved_performAll accesses before
  obtain ⟨hvalues, hafter⟩ := hlatches st rfl
  have hexact : after &&& reservedMask =
      (accesses.map stray).foldl (· ||| ·) (before &&& reservedMask) := by
    rw [← hreserved, ← hafter]
  refine ⟨hvalues, hexact, ?_, ?_⟩
  · rw [hexact, foldl_or_eq_iff, List.forall_mem_map]
    rfl
  · intro previous l
    rw [reserved_forCycle]

/-- A byte read at offset 1 sets a reserved bit of a latch that was clear. -/
theorem reserved_lost :
    (Simulator.ofThreads 1).latch &&& reservedMask = 0 ∧
    ((performAll [read ⟨0, 0, 0, 1⟩ 1]).outcome ⟨Simulator.ofThreads 1, #[]⟩).2.platform.latch &&&
      reservedMask = 1 := by
  refine ⟨by decide, ?_⟩
  obtain ⟨q, hlatches, hreserved⟩ := reserved_performAll [read ⟨0, 0, 0, 1⟩ 1] 0
  rw [(hlatches ⟨Simulator.ofThreads 1, #[]⟩ rfl).2, hreserved]
  decide

end ConfigAccess

end Lockdown

import Lockdown.Bus.Config
import Lockdown.Bus.Port
import Lockdown.Bus.Thread
import Lockdown.Engine.Denotation
import Lockdown.Proofs.Bus.Span
import Lockdown.Proofs.Dword
import Lockdown.Proofs.Inspection
import Lockdown.Proofs.Latch

/-! What single reads of a simulated platform yield. -/
namespace Lockdown

open Access

variable {s : Simulator}

theorem Simulator.selected?_select (s : Simulator) (l : PciLocation) :
    (s.select l).selected? = some l.dword :=
  ConfigAddress.selected?_forCycle _ l

theorem Simulator.portValue_select (s : Simulator) (l : PciLocation) :
    (s.select l).portValue ConfigAddress.dataPort .dword = s.dwordAt l := by
  have hwindow : (s.select l).windowDword = s.dwordAt l := by
    rw [windowDword, selected?_select]
    rfl
  have hlatch : isLatch ConfigAddress.dataPort .dword = false := by decide
  have hdata : isWindow ConfigAddress.dataPort = true := by decide
  have hshift : windowShift ConfigAddress.dataPort = 0 := by decide
  have hmask : AccessWidth.dword.mask.toUInt32 = -1 := by decide
  simp only [portValue, hlatch, hdata, hwindow, hshift, hmask, Bool.false_eq_true, ↓reduceIte,
    UInt32.shiftRight_zero, UInt32.and_neg_one]

namespace Bus

theorem yields_pciReadDword (s : Simulator) (l : PciLocation) :
    Yields s (pciReadDword l) (.ok (s.dwordAt l)) := by
  refine Inspects.step ?_
  rintro t ⟨latch, log, rfl⟩
  refine ⟨?_, (Simulator.Undisturbed.select _ l).trans (Simulator.Undisturbed.portIn _ _ _)⟩
  exact congrArg Except.ok (Simulator.portValue_select _ l)

theorem yields_warnIfOutOfRange (s : Simulator) (l : PciLocation) :
    Yields s (ExceptT.lift (warnIfOutOfRange l)) (.ok ()) := by
  refine Inspects.lift ?_
  intro st hs
  unfold warnIfOutOfRange
  split <;> exact ⟨rfl, .refl _⟩

theorem yields_readPci (s : Simulator) (l : PciLocation) (size : UInt32) :
    Yields s (readPci l size) (.ok (narrow (s.dwordAt l) l.offset size)) := by
  unfold readPci
  refine (yields_warnIfOutOfRange s l).andThen ?_
  refine (yields_pciReadDword s l).andThen ?_
  exact (Yields.append _).andThen (Yields.pure _)

theorem yields_memRead (s : Simulator) (address : UInt64) (width : AccessWidth) :
    Yields s (memRead address width) (.ok (s.peek address width)) := by
  refine Inspects.step ?_
  rintro t ⟨latch, log, rfl⟩
  exact ⟨rfl, .record _ _ _ _⟩

theorem yields_checkSpan (s : Simulator) (address : UInt64) (length : Nat) :
    Yields s (checkSpan address length)
      (if inAddressSpace address length then .ok ()
        else .error (.addressOverflow address length)) := by
  rw [checkSpan_eq]
  cases hin : inAddressSpace address length with
  | true => exact Yields.pure ()
  | false => exact Yields.throw _

theorem mmioWidth_bytes (w : AccessWidth) : mmioWidth (UInt64.ofNat w.bytes) = .ok w := by
  cases w <;> rfl

theorem length_bytesAt (s : Simulator) (address : UInt64) (n : Nat) :
    (s.bytesAt address n).length = n := by
  simp [Simulator.bytesAt]

theorem bytesAt_add (s : Simulator) (address : UInt64) (m n : Nat) :
    s.bytesAt address (m + n) = s.bytesAt address m ++ s.bytesAt (address + UInt64.ofNat m) n := by
  simp [Simulator.bytesAt, List.range_add, UInt64.ofNat_add, UInt64.add_assoc]

theorem bytesLE_peek (s : Simulator) (address : UInt64) (w : AccessWidth) :
    bytesLE w.bytes (s.peek address w) = s.bytesAt address w.bytes := by
  have hle : (s.bytesAt address w.bytes).length ≤ 8 := by
    rw [length_bytesAt]
    exact w.bytes_le_eight
  have hbytes := bytesLE_ofBytesLE hle
  rwa [length_bytesAt] at hbytes

theorem yields_readChunks (s : Simulator) (address : UInt64) {start stop : Nat}
    {chunks : List Chunk} (h : Tiles start chunks stop) : ∃ parts,
      Yields s (chunks.mapM fun c => do
        let value ← memRead (address + UInt64.ofNat c.offset) c.width
        return bytesLE c.width.bytes value) (.ok parts) ∧
      parts.flatten = s.bytesAt (address + UInt64.ofNat start) (stop - start) := by
  induction h with
  | nil start => exact ⟨[], Yields.pure [], by simp [Simulator.bytesAt]⟩
  | @cons start stop w rest others ih =>
    obtain ⟨parts, hrest, hparts⟩ := ih
    have hlength : stop - start = w.bytes + (stop - (start + w.bytes)) := by
      have := others.le
      omega
    refine ⟨s.bytesAt (address + UInt64.ofNat start) w.bytes :: parts, ?_, ?_⟩
    · rw [List.mapM_cons]
      simp only [bind_assoc, pure_bind, ← bytesLE_peek]
      exact (yields_memRead s _ w).andThen (hrest.andThen (Yields.pure _))
    · rw [List.flatten_cons, hparts, hlength, bytesAt_add, UInt64.ofNat_add, UInt64.add_assoc]

theorem yields_readPhysical (s : Simulator) (address : UInt64) (length : Nat) :
    Yields s (readPhysical address length)
      (if inAddressSpace address length then .ok (s.bytesAt address length)
        else .error (.addressOverflow address length)) := by
  have hspan := yields_checkSpan s address length
  rw [readPhysical_eq]
  cases hin : inAddressSpace address length with
  | false =>
    rw [hin] at hspan
    exact hspan.stop
  | true =>
    rw [hin] at hspan
    obtain ⟨parts, hread, hparts⟩ := yields_readChunks s address (tiles_chunkPlan length)
    have hall : parts.flatten = s.bytesAt address length := by
      rw [hparts]
      exact congrArg (s.bytesAt · length) (UInt64.add_zero address)
    rw [if_pos rfl, ← hall]
    exact hspan.andThen (hread.andThen (Yields.pure _))

theorem peek_and_mask (s : Simulator) (address : UInt64) (w : AccessWidth) :
    s.peek address w &&& w.mask = s.peek address w := by
  rw [← ofBytesLE_bytesLE, bytesLE_peek, Simulator.peek]

theorem readMmio_eq (σ : Type) [Bus σ] (address : UInt64) (w : AccessWidth) :
    ∃ line : UInt64 → LogLine,
      (readMmio address (UInt64.ofNat w.bytes) : Access σ UInt64) = do
        checkSpan address w.bytes
        let value ← memRead address w
        MonadJournal.append (line value)
        return value &&& w.mask := by
  constructor
  unfold readMmio
  rw [mmioWidth_bytes, ofExcept_ok_bind, readPhysical_eq, chunkPlan_bytes]
  simp only [List.mapM_cons, List.mapM_nil, bind_assoc, pure_bind, List.flatten_cons,
    List.flatten_nil, List.append_nil, unpack_bytesLE]
  rw [show address + UInt64.ofNat 0 = address from UInt64.add_zero address]
  rfl

theorem yields_readMmio (s : Simulator) (address : UInt64) (w : AccessWidth) :
    Yields s (readMmio address (UInt64.ofNat w.bytes)) (s.memoryAt address w) := by
  obtain ⟨line, hread⟩ := readMmio_eq Simulator address w
  have hspan := yields_checkSpan s address w.bytes
  rw [hread]
  unfold Simulator.memoryAt
  cases hin : inAddressSpace address w.bytes with
  | false =>
    rw [hin] at hspan
    exact hspan.stop
  | true =>
    rw [hin] at hspan
    rw [if_pos rfl, ← peek_and_mask s address w]
    refine hspan.andThen ?_
    exact (yields_memRead s address w).andThen ((Yields.append _).andThen (Yields.pure _))

section

variable {σ τ : Type} [Bus σ] [Bus τ]

theorem enabledFrom?_congr {a : σ} {b : τ}
    (h : ∀ thread, threadEnabled a thread = threadEnabled b thread) (thread : UInt32) (n : Nat) :
    enabledFrom? a thread n = enabledFrom? b thread n := by
  induction n generalizing thread with
  | zero => rfl
  | succ n ih => rw [enabledFrom?, enabledFrom?, h, ih]

theorem servingThread_congr {a : σ} {b : τ}
    (h : ∀ thread, threadEnabled a thread = threadEnabled b thread)
    (hcount : threadCount a = threadCount b) (requested : UInt32) :
    servingThread a requested = servingThread b requested := by
  rw [servingThread, servingThread, firstEnabled?, firstEnabled?, h, hcount, enabledFrom?_congr h]

def substitution (s : σ) (requested : UInt32) : Array LogLine :=
  if threadEnabled s requested then #[]
  else match firstEnabled? s with
    | some thread =>
      #[⟨.warn, .backend, s!"Selected thread [{requested}] was disabled, using [{thread}]"⟩]
    | none => #[⟨.warn, .backend,
      s!"Selected thread [{requested}] was disabled and no enabled threads found, using [0]"⟩]

theorem run_selectThread_eq (requested : UInt32) (st : Session σ) :
    (selectThread requested).run st = (servingThread st.platform requested,
      { st with journal := st.journal ++ substitution st.platform requested }) := by
  have hobserve : (Act.observe id : Act σ σ).run st = (st.platform, st) := rfl
  unfold selectThread substitution
  rw [Act.run_bind, hobserve]
  dsimp only
  cases threadEnabled st.platform requested with
  | true => rfl
  | false => cases firstEnabled? st.platform <;> rfl

theorem run_selectThread (requested : UInt32) (st : Session σ) :
    ((selectThread requested).run st).1 = servingThread st.platform requested ∧
      ((selectThread requested).run st).2.platform = st.platform := by
  rw [run_selectThread_eq]
  exact ⟨rfl, rfl⟩

end

theorem threadEnabled_of_undisturbed {t : Simulator} (h : s.Undisturbed t) (thread : UInt32) :
    threadEnabled t thread = threadEnabled s thread := by
  obtain ⟨latch, log, rfl⟩ := h
  rfl

theorem threads_of_undisturbed {t : Simulator} (h : s.Undisturbed t) : threads t = threads s := by
  obtain ⟨latch, log, rfl⟩ := h
  rfl

theorem servingThread_of_undisturbed {t : Simulator} (h : s.Undisturbed t) (requested : UInt32) :
    servingThread t requested = servingThread s requested := by
  have hcount : threadCount t = threadCount s := by
    obtain ⟨latch, log, rfl⟩ := h
    rfl
  exact servingThread_congr (threadEnabled_of_undisturbed h) hcount requested

theorem yields_selectThread (s : Simulator) (requested : UInt32) :
    Yields s (ExceptT.lift (selectThread requested)) (.ok (servingThread s requested)) := by
  refine Inspects.lift ?_
  intro st hs
  obtain ⟨hthread, hplatform⟩ := run_selectThread requested st
  rw [hthread, hplatform]
  exact ⟨congrArg Except.ok (servingThread_of_undisturbed hs requested), .refl _⟩

theorem yields_readMsr (s : Simulator) (thread address : UInt32) :
    let value := s.msr (servingThread s thread) address
    Yields s (readMsr thread address) (.ok (value.toUInt32, (value >>> 32).toUInt32)) := by
  have hread : Yields s (msrRead (servingThread s thread) address)
      (.ok (s.msr (servingThread s thread) address)) := by
    refine Inspects.query ?_
    rintro t ⟨latch, log, rfl⟩
    rfl
  unfold readMsr
  refine (yields_selectThread s thread).andThen (hread.andThen ?_)
  exact (Yields.append _).andThen (Yields.pure _)

theorem portWidth_bytes {w : AccessWidth} (hw : w ≠ .qword) :
    portWidth (UInt32.ofNat w.bytes) = .ok w := by
  cases w with
  | qword => exact absurd rfl hw
  | _ => rfl

theorem portWidth_eight :
    portWidth (UInt32.ofNat AccessWidth.qword.bytes) = .error (.invalidSize .port 8) := rfl

/-- At the ports of the config mechanism the value depends on the latch. -/
theorem inspects_readPort {port : UInt16} {w : AccessWidth} (hw : w ≠ .qword)
    {post : Except AccessError UInt32 → Prop}
    (h : ∀ t, s.Undisturbed t → post (.ok (t.portValue port w))) :
    Inspects s (readPort port (UInt32.ofNat w.bytes)) post := by
  have hread : Inspects s (portRead port w) post :=
    Inspects.step fun t ht => ⟨h t ht, .portIn t port w⟩
  unfold readPort
  rw [portWidth_bytes hw]
  exact (Yields.ofExcept (.ok w)).andThen (hread.logged _)

theorem yields_readPort_eight (s : Simulator) (port : UInt16) :
    Yields s (readPort port (UInt32.ofNat AccessWidth.qword.bytes))
      (.error (.invalidSize .port 8)) := by
  unfold readPort
  rw [portWidth_eight]
  exact (Yields.ofExcept _).stop

end Bus

end Lockdown

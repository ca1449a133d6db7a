import Lockdown.Proofs.Engine.Reading

/-! Reads write no memory. That memory is the same after a read does not tell whether it was written
with what it held, and on hardware the difference counts; the transaction log tells. -/
namespace Lockdown

open Access

variable {α β : Type}

def Simulator.memoryWrites (s : Simulator) : List Transaction :=
  s.transactions.toList.filter (·.kind = .memWrite)

theorem Simulator.memoryWrites_record {kind : TransactionKind} (h : kind ≠ .memWrite)
    (s : Simulator) (address : UInt64) (width : AccessWidth) :
    (s.record kind address width).memoryWrites = s.memoryWrites := by
  simp [memoryWrites, record, h]

theorem Simulator.memoryWrites_select (s : Simulator) (l : PciLocation) :
    (s.select l).memoryWrites = s.memoryWrites := by
  have hread := s.memoryWrites_record (nofun : TransactionKind.portRead ≠ .memWrite)
    ConfigAddress.port.toUInt64 .dword
  rw [← hread]
  exact memoryWrites_record (nofun : TransactionKind.portWrite ≠ .memWrite) _ _ _

/-- However it ends, no write to memory is entered in the log. -/
def Access.Spares (x : Access Simulator α) : Prop :=
  ∀ st : Session Simulator, (x.outcome st).2.platform.memoryWrites = st.platform.memoryWrites

namespace Access.Spares

variable {x : Access Simulator α} {f : α → Access Simulator β}

theorem pure (a : α) : Spares (Pure.pure a) := fun _ => rfl

theorem throw (err : AccessError) : Spares (throw err : Access Simulator α) := fun _ => rfl

theorem ofExcept (r : Except AccessError α) : Spares (Access.ofExcept r) := by
  intro st
  rw [outcome_ofExcept]

theorem append (line : LogLine) : Spares (MonadJournal.append line) := fun _ => rfl

theorem lift {act : Act Simulator α}
    (h : ∀ st : Session Simulator, (act.run st).2.platform = st.platform) :
    Spares (ExceptT.lift act) := fun st => congrArg Simulator.memoryWrites (h st)

theorem step {g : Simulator → α × Simulator} (h : ∀ s, (g s).2.memoryWrites = s.memoryWrites) :
    Spares (Access.step g) := fun st => h st.platform

theorem query {kind : TransactionKind} (hkind : kind ≠ .memWrite) {address : UInt64}
    {width : AccessWidth} {g : Simulator → α} : Spares (Simulator.query kind address width g) :=
  step fun s => s.memoryWrites_record hkind address width

theorem memoryWrites_bind (hx : Spares x) (st : Session Simulator)
    (hf : ∀ a, (x.outcome st).1 = .ok a → Spares (f a)) :
    ((x >>= f).outcome st).2.platform.memoryWrites = st.platform.memoryWrites := by
  have hfirst := hx st
  rw [outcome_bind]
  cases hout : x.outcome st with
  | mk r st' =>
    rw [hout] at hfirst hf
    cases r with
    | error err => exact hfirst
    | ok a => exact (hf a rfl st').trans hfirst

theorem bind (hx : Spares x) (hf : ∀ a, Spares (f a)) : Spares (x >>= f) := fun st =>
  hx.memoryWrites_bind st fun a _ => hf a

end Access.Spares

namespace Bus

theorem spares_readPci (l : PciLocation) (size : UInt32) : Spares (readPci l size) := by
  have hwarn : Spares (ExceptT.lift (warnIfOutOfRange l)) := by
    refine Spares.lift fun st => ?_
    unfold warnIfOutOfRange
    split <;> rfl
  have hread : Spares (pciReadDword l) := Spares.step fun s =>
    ((s.select l).memoryWrites_record (nofun : TransactionKind.portRead ≠ .memWrite) _ _).trans
      (s.memoryWrites_select l)
  unfold readPci
  exact hwarn.bind fun _ => hread.bind fun _ => (Spares.append _).bind fun _ => .pure _

theorem spares_readMmio (address : UInt64) (w : AccessWidth) :
    Spares (readMmio address (UInt64.ofNat w.bytes)) := by
  obtain ⟨line, hread⟩ := readMmio_eq Simulator address w
  have hspan : Spares (checkSpan address w.bytes) := by
    rw [checkSpan_eq]
    split
    · exact Spares.pure ()
    · exact Spares.throw _
  have hmemory : Spares (memRead address w) :=
    Spares.step fun s =>
      s.memoryWrites_record (nofun : TransactionKind.memRead ≠ .memWrite) address w
  rw [hread]
  exact hspan.bind fun _ => hmemory.bind fun _ => (Spares.append _).bind fun _ => .pure _

theorem spares_readMsr (thread address : UInt32) : Spares (readMsr thread address) := by
  have hselect : Spares (ExceptT.lift (selectThread thread)) :=
    Spares.lift fun st => (run_selectThread thread st).2
  have hread : ∀ u, Spares (msrRead u address) := fun _ =>
    Spares.query (nofun : TransactionKind.msrRead ≠ .memWrite)
  unfold readMsr
  exact hselect.bind fun u => (hread u).bind fun _ => (Spares.append _).bind fun _ => .pure _

theorem spares_readPort (port : UInt16) (size : UInt32) : Spares (readPort port size) := by
  have hread : ∀ w, Spares (portRead port w) := fun w => Spares.step fun s =>
    s.memoryWrites_record (nofun : TransactionKind.portRead ≠ .memWrite) port.toUInt64 w
  unfold readPort
  exact (Spares.ofExcept _).bind fun w =>
    (hread w).bind fun _ => (Spares.append _).bind fun _ => .pure _

end Bus

namespace Engine

variable {e : Engine}

theorem spares_readConfig (l : PciLocation) (width : AccessWidth) :
    Spares (readConfig l width) := by
  have hsingle : ∀ size, Spares (do return (← Bus.readPci l size).toUInt64) := fun size =>
    (Bus.spares_readPci l size).bind fun _ => .pure _
  cases width with
  | qword =>
    refine (Bus.spares_readPci l 4).bind fun _ => ?_
    exact (Bus.spares_readPci l.next 4).bind fun _ => .pure _
  | _ => exact hsingle _

theorem spares_baseValue (base : BaseAddress)
    {fetch : ∀ d ∈ base.dependencies, Access Simulator UInt64}
    (h : ∀ d hd, Spares (fetch d hd)) : Spares (e.baseValue base fetch) := by
  obtain ⟨register, field, upper⟩ := base
  have hhigh : ∀ low : UInt64, ∀ u hu, Spares
      (do return joinAddress (← fetch u hu).toUInt32 low.toUInt32) := fun _ u hu =>
    (h u hu).bind fun _ => .pure _
  unfold baseValue
  refine (h register _).bind fun raw => ?_
  cases field with
  | none =>
    cases upper with
    | none => exact Spares.pure raw
    | some upper => exact hhigh raw upper _
  | some field =>
    refine (Spares.ofExcept _).bind fun low => ?_
    cases upper with
    | none => exact Spares.pure low
    | some upper => exact hhigh low upper _

theorem spares_readPlace (thread : UInt32) (width : AccessWidth) (l : Location)
    {fetch : ∀ d ∈ l.baseDependencies, Access Simulator UInt64}
    (h : ∀ d hd, Spares (fetch d hd)) : Spares (e.readPlace thread width l fetch) := by
  cases l with
  | pci l => exact spares_readConfig l width
  | mmio base offset =>
    exact (spares_baseValue base h).bind fun b => Bus.spares_readMmio (b + offset) width
  | memory address => exact Bus.spares_readMmio address width
  | msr address => exact (Bus.spares_readMsr thread address).bind fun _ => .pure _
  | port p => exact (Bus.spares_readPort p _).bind fun _ => .pure _
  | csr address => exact (Bus.spares_readPci (csrLocation address) 4).bind fun _ => .pure _

theorem spares_readOn (e : Engine) (thread : UInt32) (name : String) :
    Spares (e.readOn thread name) := by
  -- Along the bases of the store, each of which is read on the way.
  induction name using e.store.wellFounded_dependsOn.induction generalizing thread with
  | _ name ih =>
    rw [readOn_eq]
    cases hr : e.store.get? name with
    | none => exact Spares.throw _
    | some r =>
      have hplace : Spares (e.readPlace thread r.width r.location fun d _ => e.readOn e.thread d) :=
        spares_readPlace thread r.width r.location fun d hd => ih d ⟨r, hr, hd⟩ e.thread
      exact hplace.bind fun _ => (Spares.append _).bind fun _ => .pure _

theorem spares_readField (e : Engine) (name field : String) (inPlace : Bool) :
    Spares (e.readField name field inPlace) :=
  (Spares.ofExcept _).bind fun _ =>
    (spares_readOn e e.thread name).bind fun _ => .ofExcept _

end Engine

end Lockdown

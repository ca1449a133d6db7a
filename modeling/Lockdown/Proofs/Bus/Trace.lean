import Lockdown.Proofs.Bus.Substitution
import Lockdown.Proofs.Bus.Window

/-! The cycles that an access takes a platform through. A cycle is one transaction, or in config
space three: the latch is read and programmed, then its dword goes through the window. An access
that ends well is known by its cycles. One after another they give the platform that it leaves, and
their transactions are what it adds to the log. -/
namespace Lockdown

open Access

inductive BusCycle where
  | configRead (l : PciLocation)
  | configWrite (l : PciLocation) (value : UInt32)
  | memRead (address : UInt64) (width : AccessWidth)
  | memWrite (address : UInt64) (width : AccessWidth) (value : UInt64)
  | portRead (port : UInt16) (width : AccessWidth)
  | portWrite (port : UInt16) (width : AccessWidth) (value : UInt32)
  | msrRead (address : UInt32)
  | msrWrite (thread address : UInt32) (value : UInt64)
  deriving DecidableEq, Repr

namespace BusCycle

def perform : BusCycle → Simulator → Simulator
  | configRead l, s => ((s.select l).portIn ConfigAddress.dataPort .dword).2
  | configWrite l value, s => (s.select l).portOut ConfigAddress.dataPort .dword value
  | memRead address width, s => (s.memIn address width).2
  | memWrite address width value, s => s.memOut address width value
  | portRead port width, s => (s.portIn port width).2
  | portWrite port width value, s => s.portOut port width value
  | msrRead address, s => s.record .msrRead address.toUInt64 .qword
  | msrWrite thread address value, s =>
    (s.record .msrWrite address.toUInt64 .qword).setMsr thread address value

def performAll (cycles : List BusCycle) (s : Simulator) : Simulator :=
  cycles.foldl (fun s c => c.perform s) s

def transactions : BusCycle → List Transaction
  | configRead _ =>
    [⟨.portRead, 0xCF8, .dword⟩, ⟨.portWrite, 0xCF8, .dword⟩, ⟨.portRead, 0xCFC, .dword⟩]
  | configWrite _ _ =>
    [⟨.portRead, 0xCF8, .dword⟩, ⟨.portWrite, 0xCF8, .dword⟩, ⟨.portWrite, 0xCFC, .dword⟩]
  | memRead address width => [⟨.memRead, address, width⟩]
  | memWrite address width _ => [⟨.memWrite, address, width⟩]
  | portRead port width => [⟨.portRead, port.toUInt64, width⟩]
  | portWrite port width _ => [⟨.portWrite, port.toUInt64, width⟩]
  | msrRead address => [⟨.msrRead, address.toUInt64, .qword⟩]
  | msrWrite _ address _ => [⟨.msrWrite, address.toUInt64, .qword⟩]

theorem performAll_append (front back : List BusCycle) (s : Simulator) :
    performAll (front ++ back) s = performAll back (performAll front s) :=
  List.foldl_append

theorem transactions_portOut (s : Simulator) (port : UInt16) (w : AccessWidth) (value : UInt32) :
    (s.portOut port w value).transactions =
      s.transactions.push ⟨.portWrite, port.toUInt64, w⟩ := by
  simp only [Simulator.portOut, Simulator.setPort]
  split
  · rfl
  · split
    · split <;> rfl
    · rfl

theorem transactions_memOut (s : Simulator) (address : UInt64) (w : AccessWidth) (value : UInt64) :
    (s.memOut address w value).transactions = s.transactions.push ⟨.memWrite, address, w⟩ := by
  have hacks : ∀ (acks : List UInt64) (t : Simulator),
      (acks.foldl (Simulator.acknowledge value) t).transactions = t.transactions := by
    intro acks
    induction acks with
    | nil => exact fun _ => rfl
    | cons ack rest ih => exact fun t => ih (t.acknowledge value ack)
  exact hacks _ _

theorem transactions_perform (c : BusCycle) (s : Simulator) :
    (c.perform s).transactions = s.transactions ++ c.transactions.toArray := by
  have hselect : ∀ l, (s.select l).transactions =
      (s.transactions.push ⟨.portRead, 0xCF8, .dword⟩).push ⟨.portWrite, 0xCF8, .dword⟩ :=
    fun l => transactions_portOut _ _ _ _
  cases c with
  | configRead l =>
    change (s.select l).transactions.push _ = _
    rw [hselect]
    rfl
  | configWrite l value =>
    refine (transactions_portOut _ _ _ _).trans ?_
    rw [hselect]
    rfl
  | memWrite address width value => exact transactions_memOut s address width value
  | portWrite port width value => exact transactions_portOut s port width value
  | _ => rfl

theorem transactions_performAll (cycles : List BusCycle) (s : Simulator) :
    (performAll cycles s).transactions =
      s.transactions ++ (cycles.flatMap transactions).toArray := by
  induction cycles generalizing s with
  | nil => exact (Array.append_empty).symm
  | cons c rest ih =>
    refine (ih (c.perform s)).trans ?_
    rw [transactions_perform, List.flatMap_cons]
    simp

end BusCycle

open BusCycle

namespace Access

variable {α β : Type} {st : Session Simulator}

/-- If it ends well, the access has taken the platform through these cycles. -/
def Takes (st : Session Simulator) (x : Access Simulator α) (cycles : List BusCycle) : Prop :=
  Ends st x fun _ st' => st'.platform = performAll cycles st.platform

namespace Takes

variable {x : Access Simulator α} {f : α → Access Simulator β} {cycles : List BusCycle}

theorem pure (a : α) : Takes st (Pure.pure a) [] := fun _ _ => rfl

theorem throw (err : AccessError) : Takes st (throw err : Access Simulator α) [] := fun _ _ => rfl

theorem ofExcept (r : Except AccessError α) : Takes st (Access.ofExcept r) [] := by
  cases r with
  | ok a => exact pure a
  | error err => exact throw err

theorem append (line : LogLine) : Takes st (MonadJournal.append line) [] := fun _ _ => rfl

theorem bind {later : List BusCycle} (hx : Takes st x cycles)
    (hf : ∀ a st', x.outcome st = (.ok a, st') →
      st'.platform = performAll cycles st.platform → Takes st' (f a) later) :
    Takes st (x >>= f) (cycles ++ later) := by
  have hboth : Ends st x fun a st' =>
      x.outcome st = (.ok a, st') ∧ st'.platform = performAll cycles st.platform :=
    fun a ha => ⟨Ends.exact st x a ha, hx a ha⟩
  refine Ends.bind hboth fun a st' ⟨hout, hst⟩ b hb => ?_
  rw [performAll_append, ← hst]
  exact hf a st' hout hst b hb

theorem andThen (hx : Takes st x cycles) (hf : ∀ a st', Takes st' (f a) []) :
    Takes st (x >>= f) cycles :=
  Ends.bind hx fun a st' hst b hb => (hf a st' b hb).trans hst

theorem after (hx : Takes st x []) (hf : ∀ a st', st'.platform = st.platform →
    Takes st' (f a) cycles) : Takes st (x >>= f) cycles := by
  refine Ends.bind hx fun a st' hst b hb => ?_
  rw [← show st'.platform = st.platform from hst]
  exact hf a st' hst b hb

end Takes

end Access

namespace Bus

theorem takes_readPci (st : Session Simulator) (l : PciLocation) (size : UInt32) :
    Takes st (readPci l size) [.configRead l] := by
  intro _ _
  unfold readPci warnIfOutOfRange
  split <;> rfl

theorem takes_writePci (st : Session Simulator) (l : PciLocation) (value size : UInt32) :
    Takes st (writePci l value size) [.configRead l,
      .configWrite l (merge (st.platform.dwordAt l) l.offset size value)] := by
  intro _ _
  rw [← Simulator.portValue_select]
  unfold writePci warnIfOutOfRange
  split <;> rfl

theorem takes_writePci_whole (st : Session Simulator) (l : PciLocation) (value : UInt32) :
    Takes st (writePci l value 4) [.configRead l, .configWrite l value] := by
  have hwrite := takes_writePci st l value 4
  rwa [merge_of_whole (by decide) (by decide)] at hwrite

theorem takes_checkSpan (st : Session Simulator) (address : UInt64) (length : Nat) :
    Takes st (checkSpan address length) [] := by
  rw [checkSpan_eq]
  split
  · exact .pure ()
  · exact .throw _

theorem takes_readMmio (st : Session Simulator) (address : UInt64) (w : AccessWidth) :
    Takes st (readMmio address (UInt64.ofNat w.bytes)) [.memRead address w] := by
  obtain ⟨line, hread⟩ := readMmio_eq Simulator address w
  rw [hread]
  exact (takes_checkSpan st address w.bytes).after fun _ _ _ _ _ => rfl

theorem takes_writeMmio (st : Session Simulator) (address : UInt64) (w : AccessWidth)
    (value : UInt64) : Takes st (writeMmio address (UInt64.ofNat w.bytes) value)
      [.memWrite address w (value &&& w.mask)] := by
  obtain ⟨line, hwrite⟩ := writeMmio_eq Simulator address w value
  rw [hwrite]
  refine (Takes.append line).after fun _ _ _ => ?_
  exact (takes_checkSpan _ address w.bytes).after fun _ _ _ _ _ => rfl

theorem takes_readPort (st : Session Simulator) (port : UInt16) (w : AccessWidth) :
    Takes st (readPort port (UInt32.ofNat w.bytes)) [.portRead port w] := by
  unfold readPort
  cases w with
  | qword => exact fun _ h => nomatch h
  | _ => exact fun _ _ => rfl

theorem takes_writePort (st : Session Simulator) (port : UInt16) (w : AccessWidth)
    (value : UInt32) : Takes st (writePort port value (UInt32.ofNat w.bytes))
      [.portWrite port w (value &&& w.mask.toUInt32)] := by
  unfold writePort
  cases w with
  | qword => exact fun _ h => nomatch h
  | _ => exact fun _ _ => rfl

theorem takes_readMsr (st : Session Simulator) (requested address : UInt32) :
    Takes st (readMsr requested address) [.msrRead address] := by
  intro _ _
  rw [outcome_readMsr]
  rfl

theorem takes_writeMsr (st : Session Simulator) (requested address eax edx : UInt32) :
    Takes st (writeMsr requested address eax edx)
      [.msrWrite (servingThread st.platform requested) address (joinAddress edx eax)] := by
  intro _ _
  rw [outcome_writeMsr]
  rfl

end Bus

end Lockdown

import Lockdown.Proofs.Bus.Agreement
import Lockdown.Proofs.Engine.Reading

/-! The engine on two platforms side by side. All that it does is single transactions, so where
these agree it ends alike on the two, along every chain of bases. What stands in the journal plays
no part in it, nor does the part of a value that a register has no room for. -/
namespace Lockdown

open Access

variable {σ τ α β : Type} {R : σ → τ → Prop}

namespace Access.Agree

theorem step {f : σ → α × σ} {g : τ → α × τ}
    (h : ∀ s t, R s t → (f s).1 = (g t).1 ∧ R (f s).2 (g t).2) :
    Agree R (Access.step f) (Access.step g) := by
  intro st st' hplatforms
  obtain ⟨hvalue, hafter⟩ := h _ _ hplatforms
  exact ⟨congrArg Except.ok hvalue, hafter⟩

theorem appended {f : Unit → Access σ α} {y : Access τ α} (line : LogLine)
    (hf : Agree R (f ()) y) : Agree R (MonadJournal.append line >>= f) y :=
  fun st st' hplatforms => hf { st with journal := st.journal.push line } st' hplatforms

theorem logged {x : Access σ α} {y : Access τ α} (hx : Agree R x y) (line : α → LogLine) :
    Agree R (do let a ← x; MonadJournal.append (line a); return a) y := by
  intro st st' hplatforms
  obtain ⟨hresult, hafter⟩ := hx st st' hplatforms
  rw [outcome_bind]
  cases hout : x.outcome st with
  | mk r after =>
    rw [hout] at hresult hafter
    cases r <;> exact ⟨hresult, hafter⟩

end Access.Agree

/-- The transactions that registers are reached by agree, and related platforms have the same
threads. -/
structure Bus.Alike [Bus σ] [Bus τ] (R : σ → τ → Prop) : Prop where
  pciRead : ∀ l, Agree R (pciReadDword l) (pciReadDword l)
  pciWrite : ∀ l value, Agree R (pciWriteDword l value) (pciWriteDword l value)
  memRead : ∀ address w, Agree R (memRead address w) (memRead address w)
  memWrite : ∀ address w value, Agree R (memWrite address w value) (memWrite address w value)
  portRead : ∀ port w, Agree R (portRead port w) (portRead port w)
  portWrite : ∀ port w value, Agree R (portWrite port w value) (portWrite port w value)
  msrRead : ∀ thread address, Agree R (msrRead thread address) (msrRead thread address)
  msrWrite : ∀ thread address value,
    Agree R (msrWrite thread address value) (msrWrite thread address value)
  threadCount : ∀ s t, R s t → Bus.threadCount s = Bus.threadCount t
  threadEnabled : ∀ s t, R s t → ∀ thread, Bus.threadEnabled s thread = Bus.threadEnabled t thread

namespace Bus

theorem alike_self : Alike (@Eq Simulator) where
  pciRead _ := .step fun _ _ h => ⟨by rw [h], by rw [h]⟩
  pciWrite _ _ := .step fun _ _ h => ⟨rfl, by rw [h]⟩
  memRead _ _ := .step fun _ _ h => ⟨by rw [h], by rw [h]⟩
  memWrite _ _ _ := .step fun _ _ h => ⟨rfl, by rw [h]⟩
  portRead _ _ := .step fun _ _ h => ⟨by rw [h], by rw [h]⟩
  portWrite _ _ _ := .step fun _ _ h => ⟨rfl, by rw [h]⟩
  msrRead _ _ := .step fun _ _ h => ⟨by rw [h], by rw [h]⟩
  msrWrite _ _ _ := .step fun _ _ h => ⟨rfl, by rw [h]⟩
  threadCount _ _ h := congrArg threadCount h
  threadEnabled _ _ h thread := congrArg (threadEnabled · thread) h

variable [Bus σ] [Bus τ]

theorem Alike.reads (h : Alike R) (address : UInt64) (length : Nat) :
    ReadsAgree R address length := fun _ w _ => h.memRead _ w

theorem Alike.writes (h : Alike R) (address : UInt64) (length : Nat) :
    WritesAgree R address length := fun _ w value _ => h.memWrite _ w value

theorem agree_selectThread (h : Alike R) (requested : UInt32) :
    Agree R (ExceptT.lift (selectThread requested)) (ExceptT.lift (selectThread requested)) := by
  intro st st' hplatforms
  obtain ⟨hleft, hkept⟩ := run_selectThread requested st
  obtain ⟨hright, hkept'⟩ := run_selectThread requested st'
  have hserves : servingThread st.platform requested = servingThread st'.platform requested :=
    servingThread_congr (h.threadEnabled _ _ hplatforms) (h.threadCount _ _ hplatforms) requested
  refine ⟨congrArg Except.ok (hleft.trans (hserves.trans hright.symm)), ?_⟩
  change R ((selectThread requested).run st).2.platform
    ((selectThread requested).run st').2.platform
  rw [hkept, hkept']
  exact hplatforms

theorem agree_readMsr (h : Alike R) (requested address : UInt32) :
    Agree R (readMsr requested address) (readMsr requested address) := by
  refine (agree_selectThread h requested).bind fun thread => ?_
  exact (h.msrRead thread address).bind fun _ => (Agree.append _ _).bind fun _ => .pure _

theorem agree_writeMsr (h : Alike R) (requested address eax edx : UInt32) :
    Agree R (writeMsr requested address eax edx) (writeMsr requested address eax edx) := by
  refine (agree_selectThread h requested).bind fun thread => ?_
  exact (Agree.append _ _).bind fun _ => h.msrWrite thread address (joinAddress edx eax)

theorem agree_readPort (h : Alike R) (port : UInt16) (size : UInt32) :
    Agree R (readPort port size) (readPort port size) := by
  refine Agree.ofExcept fun w _ => ?_
  exact (h.portRead port w).bind fun _ => (Agree.append _ _).bind fun _ => .pure _

theorem agree_writePort (h : Alike R) (port : UInt16) {value value' size : UInt32}
    (hvalue : ∀ w, portWidth size = .ok w →
      value &&& w.mask.toUInt32 = value' &&& w.mask.toUInt32) :
    Agree R (writePort port value size) (writePort port value' size) := by
  refine Agree.ofExcept fun w hw => ?_
  rw [← hvalue w hw]
  exact (Agree.append _ _).bind fun _ => h.portWrite port w _

end Bus

namespace Engine

open Bus (Alike)

variable {e : Engine}

theorem agree_baseValue {base : BaseAddress}
    {fetch : ∀ d ∈ base.dependencies, Access σ UInt64}
    {fetch' : ∀ d ∈ base.dependencies, Access τ UInt64}
    (h : ∀ d hd, Agree R (fetch d hd) (fetch' d hd)) :
    Agree R (e.baseValue base fetch) (e.baseValue base fetch') := by
  obtain ⟨register, field, upper⟩ := base
  have hhigh : ∀ low : UInt64, ∀ u hu, Agree R
      (do return joinAddress (← fetch u hu).toUInt32 low.toUInt32)
      (do return joinAddress (← fetch' u hu).toUInt32 low.toUInt32) := fun _ u hu =>
    (h u hu).bind fun _ => .pure _
  refine (h register _).bind fun raw => ?_
  cases field with
  | none =>
    cases upper with
    | none => exact .pure raw
    | some upper => exact hhigh raw upper _
  | some field =>
    refine Agree.ofExcept fun low _ => ?_
    cases upper with
    | none => exact .pure low
    | some upper => exact hhigh low upper _

variable [Bus σ] [Bus τ]

theorem agree_readConfig (h : Alike R) (l : PciLocation) (width : AccessWidth) :
    Agree R (readConfig l width) (readConfig l width) := by
  have hread : ∀ l size, Agree R (Bus.readPci l size) (Bus.readPci l size) := fun l size =>
    Bus.agree_readPci (h.pciRead l) size
  cases width with
  | qword => exact (hread l 4).bind fun _ => (hread l.next 4).bind fun _ => .pure _
  | _ => exact (hread l _).bind fun _ => .pure _

theorem agree_readPlace (h : Alike R) (thread : UInt32) (width : AccessWidth) (l : Location)
    {fetch : ∀ d ∈ l.baseDependencies, Access σ UInt64}
    {fetch' : ∀ d ∈ l.baseDependencies, Access τ UInt64}
    (hfetch : ∀ d hd, Agree R (fetch d hd) (fetch' d hd)) :
    Agree R (e.readPlace thread width l fetch) (e.readPlace thread width l fetch') := by
  have hmemory : ∀ address, Agree R (readMemory address width) (readMemory address width) :=
    fun address => Bus.agree_readMmio (h.reads address _)
  cases l with
  | pci l => exact agree_readConfig h l width
  | mmio base offset => exact (agree_baseValue hfetch).bind fun b => hmemory (b + offset)
  | memory address => exact hmemory address
  | msr address => exact (Bus.agree_readMsr h thread address).bind fun _ => .pure _
  | port p => exact (Bus.agree_readPort h p _).bind fun _ => .pure _
  | csr address => exact (Bus.agree_readPci (h.pciRead _) 4).bind fun _ => .pure _

theorem agree_readOn (h : Alike R) (thread : UInt32) (name : String) :
    Agree R (e.readOn thread name : Access σ UInt64) (e.readOn thread name : Access τ UInt64) := by
  -- Along the bases of the store, each link of which is a read that agrees.
  induction name using e.store.wellFounded_dependsOn.induction generalizing thread with
  | _ name ih =>
    rw [readOn_eq, readOn_eq]
    cases hr : e.store.get? name with
    | none => exact .throw _
    | some r =>
      refine (agree_readPlace h thread r.width r.location fun d hd => ?_).bind fun _ => ?_
      · exact ih d ⟨r, hr, hd⟩ e.thread
      · exact (Agree.append _ _).bind fun _ => .pure _

theorem agree_resolveBase (h : Alike R) (base : BaseAddress) :
    Agree R (e.resolveBase base : Access σ UInt64) (e.resolveBase base : Access τ UInt64) :=
  agree_baseValue fun d _ => agree_readOn h e.thread d

end Engine

end Lockdown

import Lockdown.Proofs.Engine.History
import Lockdown.Proofs.Engine.Writing

/-! Writes that fail. All that a write has to find out it finds out by looking, and once it begins
to change the platform nothing can end it, so an error means that nothing was changed. Where the
definitions alone decide, the platform is not even asked. -/
namespace Lockdown

open Access

variable {σ α β : Type}

namespace Access

theorem Succeeds.forM {f : α → Access σ PUnit} {items : List α} (h : ∀ a ∈ items, Succeeds (f a)) :
    Succeeds (items.forM f) := by
  induction items with
  | nil => exact .pure ()
  | cons a rest ih =>
    obtain ⟨ha, hrest⟩ := List.forall_mem_cons.1 h
    exact ha.bind fun _ => ih hrest

/-- An error leaves all but the latch and the transaction log as it was. -/
def FailsUndisturbed (x : Access Simulator α) : Prop :=
  ∀ st err, (x.outcome st).1 = .error err → st.platform.Undisturbed (x.outcome st).2.platform

namespace FailsUndisturbed

variable {x : Access Simulator α} {f : α → Access Simulator β}

theorem of_succeeds (hx : Succeeds x) : FailsUndisturbed x := by
  intro st err herr
  obtain ⟨a, ha⟩ := hx st
  rw [ha] at herr
  cases herr

/-- What was only looked at before is undisturbed when the rest begins. -/
theorem after (hx : Looks x) (hf : ∀ a, FailsUndisturbed (f a)) : FailsUndisturbed (x >>= f) := by
  intro st err herr
  have hlooked := hx st
  rw [outcome_bind] at herr ⊢
  cases hout : x.outcome st with
  | mk r st' =>
    rw [hout] at herr hlooked
    cases r with
    | ok a => exact hlooked.trans (hf a st' err herr)
    | error e => exact hlooked

theorem followed (hx : FailsUndisturbed x) (hf : ∀ a, Succeeds (f a)) :
    FailsUndisturbed (x >>= f) := by
  intro st err herr
  have hfirst := hx st
  rw [outcome_bind] at herr ⊢
  cases hout : x.outcome st with
  | mk r st' =>
    rw [hout] at herr hfirst
    cases r with
    | ok a =>
      obtain ⟨b, hb⟩ := hf a st'
      rw [hb] at herr
      cases herr
    | error e => exact hfirst e rfl

end FailsUndisturbed

end Access

namespace Bus

theorem failsUndisturbed_writePhysical (address : UInt64) (data : List UInt8) :
    FailsUndisturbed (writePhysical address data) := by
  have hspan : Looks (checkSpan address data.length) :=
    .of_inspects fun s => yields_checkSpan s address data.length
  rw [writePhysical_eq]
  exact .after hspan fun _ => .of_succeeds (Succeeds.forM fun _ _ => .step _)

theorem failsUndisturbed_writeMmio (address size value : UInt64) :
    FailsUndisturbed (writeMmio address size value) := by
  refine .after (.ofExcept _) fun w => ?_
  exact .after (.append _) fun _ => failsUndisturbed_writePhysical address _

theorem failsUndisturbed_writePort (port : UInt16) (value size : UInt32) :
    FailsUndisturbed (writePort port value size) := by
  refine .after (.ofExcept _) fun w => ?_
  exact .after (.append _) fun _ => .of_succeeds (.step _)

theorem refuses_readPort_eight [Bus σ] (port : UInt16) :
    Refuses (readPort port (UInt32.ofNat AccessWidth.qword.bytes) : Access σ UInt32)
      (.invalidSize .port 8) := by
  unfold readPort
  rw [portWidth_eight]
  exact .throw _

theorem refuses_writePort_eight [Bus σ] (port : UInt16) (value : UInt32) :
    Refuses (writePort port value (UInt32.ofNat AccessWidth.qword.bytes) : Access σ Unit)
      (.invalidSize .port 8) := by
  unfold writePort
  rw [portWidth_eight]
  exact .throw _

end Bus

def Register.isEightBytePort (r : Register) : Prop :=
  (∃ p, r.location = .port p) ∧ r.width = .qword

namespace Engine

variable {e : Engine} {name field : String} {r : Register} {f : Field}

theorem require_of_undefined (h : e.store.get? name = none) :
    e.store.require name = .error (.undefinedRegister name) := by
  simp only [Store.require, h]

theorem requireField_of_undefined (hr : e.store.get? name = some r) (hf : r.field? field = none) :
    e.store.requireField name field = .error (.undefinedField name field) := by
  simp only [Store.requireField, require_of_get? hr, hf, bind, Except.bind]

theorem requireField_of_unnamed (h : e.store.get? name = none) :
    e.store.requireField name field = .error (.undefinedRegister name) := by
  simp only [Store.requireField, require_of_undefined h, bind, Except.bind]

theorem failsUndisturbed_write (hbases : Resolvable e.store.get?) (hr : e.store.get? name = some r)
    (value : UInt64) : FailsUndisturbed (e.write name value) := by
  obtain ⟨name', location, width, desc, fields⟩ := r
  unfold write
  rw [require_of_get? hr, ofExcept_ok_bind]
  refine .after (.append _) fun _ => ?_
  cases location with
  | pci l =>
    exact .of_succeeds (Succeeds.bind (succeeds_writeConfig l width value) fun _ => .pure _)
  | mmio base offset =>
    have hbase : Looks (e.resolveBase base) := .of_inspects fun s => inspects_base hbases s hr rfl
    refine .after hbase fun b => ?_
    exact (Bus.failsUndisturbed_writeMmio _ _ _).followed fun _ => .pure _
  | memory address => exact (Bus.failsUndisturbed_writeMmio _ _ _).followed fun _ => .pure _
  | msr address =>
    exact .of_succeeds (Succeeds.bind (succeeds_writeMsr e.thread address _ _) fun _ => .pure _)
  | port p => exact (Bus.failsUndisturbed_writePort _ _ _).followed fun _ => .pure _
  | csr address => exact .of_succeeds (Succeeds.bind (succeeds_writePci _ _ _) fun _ => .pure _)

theorem failsUndisturbed_writeField (hbases : Resolvable e.store.get?)
    (hr : e.store.get? name = some r) (field : String) (new : UInt64) :
    FailsUndisturbed (e.writeField name field new) := by
  refine .after (.ofExcept _) fun _ => ?_
  refine .after (looks_readOn hbases e.thread name) fun _ => ?_
  exact .after (.ofExcept _) fun _ => failsUndisturbed_write hbases hr _

theorem failsOnly_writeField (hbases : Resolvable e.store.get?) (s : Simulator)
    (hr : e.store.get? name = some r) (hf : r.field? field = some f) (new : UInt64) :
    FailsOnly s (e.writeField name field new) (Refused e s name) := by
  unfold writeField
  rw [requireField_of_get? hr hf, ofExcept_ok_bind]
  refine FailsOnly.bind (inspects_readOn hbases s hr e.thread) ?_ ?_
  · intro v _
    rw [setField_of_get? hr hf, ofExcept_ok_bind]
    exact failsOnly_write hbases s hr _
  · intro err herr
    exact errorIn_error.1 herr

variable [Bus σ]

theorem refuses_write_undefined (h : e.store.get? name = none) (value : UInt64) :
    Refuses (e.write name value : Access σ (Option UInt64)) (.undefinedRegister name) := by
  unfold write
  rw [require_of_undefined h, ofExcept_error_bind]
  exact .throw _

theorem refuses_writeField_undefined (h : e.store.get? name = none) (field : String)
    (new : UInt64) :
    Refuses (e.writeField name field new : Access σ (Option UInt64)) (.undefinedRegister name) := by
  unfold writeField
  rw [requireField_of_unnamed h, ofExcept_error_bind]
  exact .throw _

theorem refuses_writeField_undefinedField (hr : e.store.get? name = some r)
    (hf : r.field? field = none) (new : UInt64) :
    Refuses (e.writeField name field new : Access σ (Option UInt64))
      (.undefinedField name field) := by
  unfold writeField
  rw [requireField_of_undefined hr hf, ofExcept_error_bind]
  exact .throw _

theorem refuses_write_eightBytePort (hr : e.store.get? name = some r) (h : r.isEightBytePort)
    (value : UInt64) :
    Refuses (e.write name value : Access σ (Option UInt64)) (.invalidSize .port 8) := by
  obtain ⟨name', location, width, desc, fields⟩ := r
  obtain ⟨⟨p, rfl⟩, rfl⟩ := h
  unfold write
  rw [require_of_get? hr, ofExcept_ok_bind]
  refine .append_bind _ ?_
  exact (Bus.refuses_writePort_eight p _).stop _

theorem refuses_read_eightBytePort (hr : e.store.get? name = some r) (h : r.isEightBytePort) :
    Refuses (e.read name : Access σ UInt64) (.invalidSize .port 8) := by
  obtain ⟨name', location, width, desc, fields⟩ := r
  obtain ⟨⟨p, rfl⟩, rfl⟩ := h
  rw [read, readOn_eq, hr]
  exact ((Bus.refuses_readPort_eight p).stop _).stop _

theorem refuses_writeField_eightBytePort (hr : e.store.get? name = some r)
    (h : r.isEightBytePort) (hf : r.field? field = some f) (new : UInt64) :
    Refuses (e.writeField name field new : Access σ (Option UInt64)) (.invalidSize .port 8) := by
  unfold writeField
  rw [requireField_of_get? hr hf, ofExcept_ok_bind]
  exact (refuses_read_eightBytePort hr h).stop _

end Engine

inductive RegisterWrite where
  | whole (name : String) (value : UInt64)
  | part (name field : String) (value : UInt64)
  deriving DecidableEq, Repr

namespace RegisterWrite

def perform [Bus σ] (e : Engine) : RegisterWrite → Access σ (Option UInt64)
  | whole name value => e.write name value
  | part name field value => e.writeField name field value

def name : RegisterWrite → String
  | whole name .. => name
  | part name .. => name

/-- What the definitions alone decide: something named is not defined, or the register named is too
wide for a port. -/
inductive Objection (s : Store) (c : RegisterWrite) : AccessError → Prop
  | undefinedRegister (name : String) : Objection s c (.undefinedRegister name)
  | undefinedField (name field : String) : Objection s c (.undefinedField name field)
  | eightBytePort {r : Register} (defined : s.get? c.name = some r) (port : r.isEightBytePort)
      (access : SizedAccess) (size : UInt64) : Objection s c (.invalidSize access size)

variable {e : Engine}

theorem refuses_or_fails (hbases : Resolvable e.store.get?) (c : RegisterWrite) :
    (∃ err, Refuses (c.perform e : Access Simulator (Option UInt64)) err) ∨
      (∀ r, e.store.get? c.name = some r → ¬ r.isEightBytePort) ∧
        FailsUndisturbed (c.perform e) ∧
        ∀ s, FailsOnly s (c.perform e) (Engine.Refused e s c.name) := by
  cases hr : e.store.get? c.name with
  | none =>
    left
    cases c with
    | whole name value => exact ⟨_, Engine.refuses_write_undefined hr value⟩
    | part name field value => exact ⟨_, Engine.refuses_writeField_undefined hr field value⟩
  | some r =>
    have hone : ∀ q, some r = some q → ¬ r.isEightBytePort → ¬ q.isEightBytePort := by
      rintro _ ⟨⟩ h
      exact h
    by_cases hport : r.isEightBytePort
    · left
      cases c with
      | whole name value => exact ⟨_, Engine.refuses_write_eightBytePort hr hport value⟩
      | part name field value =>
        cases hf : r.field? field with
        | none => exact ⟨_, Engine.refuses_writeField_undefinedField hr hf value⟩
        | some f => exact ⟨_, Engine.refuses_writeField_eightBytePort hr hport hf value⟩
    · cases c with
      | whole name value =>
        right
        exact ⟨fun q hq => hone q hq hport, Engine.failsUndisturbed_write hbases hr value,
          fun s => Engine.failsOnly_write hbases s hr value⟩
      | part name field value =>
        cases hf : r.field? field with
        | none => exact .inl ⟨_, Engine.refuses_writeField_undefinedField hr hf value⟩
        | some f =>
          right
          exact ⟨fun q hq => hone q hq hport,
            Engine.failsUndisturbed_writeField hbases hr field value,
            fun s => Engine.failsOnly_writeField hbases s hr hf value⟩

/-- A call that ends by an error has changed nothing but the latch and the transaction log, and not
these either where the definitions alone decide. -/
theorem error_exact {chipset : String} {layers : List (List Register)}
    (h : Store.build chipset layers = .ok e.store) (c : RegisterWrite) (st : Session Simulator)
    {err : AccessError} (herr : ((c.perform e).outcome st).1 = .error err) :
    let after := ((c.perform e).outcome st).2.platform
    st.platform.Undisturbed after ∧ (Objection e.store c err → after = st.platform) := by
  intro after
  have hbases := Store.resolvable_of_build h
  rcases refuses_or_fails hbases c with ⟨_, hrefuses⟩ | ⟨hport, hclean, hfails⟩
  · have hsame : after = st.platform := (hrefuses st).2
    rw [hsame]
    exact ⟨.refl _, fun _ => rfl⟩
  · refine ⟨hclean st err herr, fun hobjection => ?_⟩
    have hrefused := hfails st.platform st (.refl _) err herr
    -- None of the errors found on the way is one that the definitions decide.
    cases hobjection with
    | undefinedRegister n => cases hrefused
    | undefinedField n field => cases hrefused
    | eightBytePort defined port => exact absurd port (hport _ defined)

def farRegisters : List Register := [
  .pci "BAR" 0 2 0 0x10 .qword "" [],
  .mmio "BLOCK" ⟨"BAR", none, none⟩ 0 .dword "" [("LOW", ⟨0, 8, ""⟩)],
  .port "WIDE" 0xB4 .qword ""]

theorem error_exact_far : ∃ s, Store.build "far" [farRegisters] = .ok s ∧
    let e : Engine := ⟨s, 0⟩
    let st : Session Simulator := ⟨Simulator.ofThreads 1, #[]⟩
    let block := ((part "BLOCK" "LOW" 1).perform e).outcome st
    let wide := ((whole "WIDE" 1).perform e).outcome st
    block.1 = .error (.addressOverflow 0xFFFFFFFFFFFFFFFF 4) ∧
      st.platform.Undisturbed block.2.platform ∧
      wide.1 = .error (.invalidSize .port 8) ∧ wide.2.platform = st.platform := by
  have hbuild : (Store.build "far" [farRegisters]).isOk = true := by decide +kernel
  obtain ⟨s, hs⟩ := exists_eq_ok_of_isOk hbuild
  have hget := Store.get?_of_build hs
  have hports : s.AvoidsConfigPorts "BLOCK" :=
    Store.avoidsConfigPorts_of_build hs (by decide) "BLOCK"
  have hvalue : (⟨s, 0⟩ : Engine).value (Simulator.ofThreads 1) "BLOCK" =
      .error (.addressOverflow 0xFFFFFFFFFFFFFFFF 4) := by
    rw [Engine.value_mmio (hget "BLOCK") rfl, Engine.baseOn, Engine.value_pci (hget "BAR") rfl]
    rfl
  have hblock : Yields (Simulator.ofThreads 1)
      ((part "BLOCK" "LOW" 1).perform (⟨s, 0⟩ : Engine))
      (.error (.addressOverflow 0xFFFFFFFFFFFFFFFF 4)) := by
    have hread := Engine.yields_read (e := ⟨s, 0⟩) (Simulator.ofThreads 1) hports
    rw [hvalue] at hread
    rw [perform, Engine.writeField, Engine.requireField_of_get? (hget "BLOCK") rfl,
      ofExcept_ok_bind]
    exact hread.stop
  refine ⟨s, hs, ?_⟩
  intro e st block wide
  have hfirst : block.1 = _ := (hblock st (.refl _)).1
  have hsecond : wide.1 = .error (.invalidSize .port 8) :=
    (Engine.refuses_write_eightBytePort (hget "WIDE") ⟨⟨_, rfl⟩, rfl⟩ 1 st).1
  refine ⟨hfirst, (error_exact hs _ st hfirst).1, hsecond, ?_⟩
  exact (error_exact hs _ st hsecond).2 (.eightBytePort (hget "WIDE") ⟨⟨_, rfl⟩, rfl⟩ _ _)

end RegisterWrite

end Lockdown

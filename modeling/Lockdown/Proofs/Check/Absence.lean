import Lockdown.Proofs.Check.Verdicts
import Lockdown.Proofs.Engine.ConfigField

/-! What the lock checks make of hardware that is not there. They are supported wherever their
register is defined, and an absent function answers every read with ones. So a lock bit that lies
inside its register is found set, and the check passes on nothing at all. A register in a memory
block is looked up in memory where the ones of its base point. -/
namespace Lockdown

open Access

namespace Simulator

def Absent (s : Simulator) (l : PciLocation) : Prop :=
  ∀ offset, s.dwordAt { l with offset } = 0xFFFFFFFF

def floatingAt (l : PciLocation) (width : AccessWidth) : UInt64 := (ofThreads 0).configAt l width

variable {s : Simulator} {l : PciLocation} {width : AccessWidth}

theorem configAt_of_absent (h : s.Absent l) (width : AccessWidth) :
    s.configAt l width = floatingAt l width := by
  have hlow : s.dwordAt l = (ofThreads 0).dwordAt l := h l.offset
  have hhigh : s.dwordAt l.next = (ofThreads 0).dwordAt l.next := h l.next.offset
  simp only [floatingAt, configAt, hlow, hhigh]

theorem testBit_floatingAt {i : Nat} (h : (configBit? l width i).isSome) :
    (floatingAt l width).toNat.testBit i = true := by
  obtain ⟨⟨k, j⟩, hbit⟩ := Option.isSome_iff_exists.1 h
  obtain ⟨-, hj, -⟩ := configBit?_eq_some.1 hbit
  have hones : (0xFFFFFFFF : UInt32).toNat.testBit j = decide (j < 32) :=
    Nat.testBit_two_pow_sub_one 32 j
  rw [floatingAt, testBit_configAt hbit]
  exact hones.trans (decide_eq_true hj)

end Simulator

open Simulator (floatingAt)

/-- Zero for what the register does not define. -/
def Register.fieldOf (r : Register) (v : UInt64) (field : String) : UInt64 :=
  ((r.field? field).map (·.extract v)).getD 0

theorem Register.fieldOf_of_field? {r : Register} {field : String} {f : Field}
    (h : r.field? field = some f) (v : UInt64) : r.fieldOf v field = f.extract v := by
  simp only [fieldOf, h, Option.map_some, Option.getD_some]

namespace Check

variable {s : Simulator} {e : Engine} {r : Register} {v : UInt64}

structure LockTest where
  check : Check Simulator
  register : String
  fields : List String
  /-- The register's base is asked for before the register is read. -/
  based : Bool
  passes : (String → UInt64) → Bool

def lockTests : List LockTest := [
  ⟨resetLock, "ETR3", ["CF9LOCK"], false, fun field => field "CF9LOCK" ≠ 0⟩,
  ⟨firmwareProtection, "BC", ["BIOSWE", "BLE", "SMM_BWP"], false,
    fun field => field "BLE" = 1 ∧ field "SMM_BWP" = 1⟩,
  ⟨flashLock, "HSFS", ["FLOCKDN"], true, fun field => field "FLOCKDN" = 1⟩,
  ⟨interruptLock, "GEN_PMCON_1", ["SMI_LOCK"], false, fun field => field "SMI_LOCK" = 1⟩]

variable {t : LockTest}

theorem eq_of_mem_lockTests (ht : t ∈ lockTests) :
    t = lockTests[0] ∨ t = lockTests[1] ∨ t = lockTests[2] ∨ t = lockTests[3] := by
  simpa [lockTests] using ht

theorem supported_lockTest (ht : t ∈ lockTests) :
    t.check.supported = defined t.register t.fields := by
  rcases eq_of_mem_lockTests ht with rfl | rfl | rfl | rfl <;> rfl

theorem field?_of_hasFields {name : String} {fields : List String}
    (h : e.store.hasFields name fields = true) (hr : e.store.get? name = some r) :
    ∀ field ∈ fields, ∃ f, r.field? field = some f := by
  intro field hfield
  have hall := List.all_eq_true.1 (Bool.and_eq_true_iff.1 h).2 field hfield
  rw [Store.hasField, Store.field?, hr] at hall
  exact Option.isSome_iff_exists.1 hall

theorem yields_lockTest (ht : t ∈ lockTests) (hr : e.store.get? t.register = some r)
    (hf : ∀ field ∈ t.fields, ∃ f, r.field? field = some f)
    (hbase : t.based → ∃ b, Yields s (e.baseAddress t.register) (.ok b))
    (hread : Yields s (e.read t.register) (.ok v)) :
    Yields s (t.check.run e) (.ok (lockVerdict (t.passes (r.fieldOf v)))) := by
  rcases eq_of_mem_lockTests ht with rfl | rfl | rfl | rfl
  · obtain ⟨f, hf⟩ := hf "CF9LOCK" (.head _)
    have hrun := yields_resetLock_extract hr hf hread
    rw [← Register.fieldOf_of_field? hf] at hrun
    exact hrun
  · obtain ⟨writable, hwritable⟩ := hf "BIOSWE" (.head _)
    obtain ⟨locked, hlocked⟩ := hf "BLE" (.tail _ (.head _))
    obtain ⟨protected_, hprotected⟩ := hf "SMM_BWP" (.tail _ (.tail _ (.head _)))
    have hrun := yields_firmwareProtection_extract hr hwritable hlocked hprotected hread
    rw [← Register.fieldOf_of_field? hlocked, ← Register.fieldOf_of_field? hprotected] at hrun
    exact hrun
  · obtain ⟨f, hf⟩ := hf "FLOCKDN" (.head _)
    obtain ⟨b, hb⟩ := hbase rfl
    have hrun := yields_flashLock_extract hr hf hb hread
    rw [← Register.fieldOf_of_field? hf] at hrun
    exact hrun
  · obtain ⟨f, hf⟩ := hf "SMI_LOCK" (.head _)
    have hrun := yields_interruptLock_extract hr hf hread
    rw [← Register.fieldOf_of_field? hf] at hrun
    exact hrun

theorem yields_lockTest_baseless {err : AccessError} (ht : t ∈ lockTests) (hbased : t.based)
    (hbase : Yields s (e.baseAddress t.register) (.error err)) :
    Yields s (t.check.run e) (.error err) := by
  rcases eq_of_mem_lockTests ht with rfl | rfl | rfl | rfl
  · cases hbased
  · cases hbased
  · exact hbase.stop
  · cases hbased

theorem yields_lockTest_unread {err : AccessError} (ht : t ∈ lockTests)
    (hbase : t.based → ∃ b, Yields s (e.baseAddress t.register) (.ok b))
    (hread : Yields s (e.read t.register) (.error err)) :
    Yields s (t.check.run e) (.error err) := by
  rcases eq_of_mem_lockTests ht with rfl | rfl | rfl | rfl
  · exact hread.stop.stop
  · exact hread.stop.stop
  · obtain ⟨b, hb⟩ := hbase rfl
    exact hb.andThen ((Yields.append _).andThen hread.stop.stop)
  · exact hread.stop.stop

/-- One bit each, and set. -/
theorem passes_of_ones (ht : t ∈ lockTests) {field : String → UInt64}
    (h : ∀ name ∈ t.fields, field name = 1) : t.passes field = true := by
  rcases eq_of_mem_lockTests ht with rfl | rfl | rfl | rfl <;> simp_all [lockTests]

theorem fieldOf_floatingAt {l : PciLocation} {width : AccessWidth} {field : String} {f : Field}
    (hf : r.field? field = some f) (hsize : f.size = 1)
    (hshown : (configBit? l width f.bit.toNat).isSome) :
    r.fieldOf (floatingAt l width) field = 1 := by
  rw [Register.fieldOf_of_field? hf, Field.extract_of_size_one hsize,
    Simulator.testBit_floatingAt hshown, if_pos rfl]

open Scan

variable {st : Session Simulator}

/-- The verdict on a register that is looked up in memory, where `base` points as far as the
absent function `l` has a part in it. -/
def verdictPast (e : Engine) (s : Simulator) (t : LockTest) (r : Register) (base : BaseAddress)
    (offset : UInt64) (l : PciLocation) (width : AccessWidth) : Except AccessError Verdict := do
  let b ← e.baseOn base fun d _ =>
    if d = base.register then .ok (floatingAt l width) else e.value s d
  let v ← s.memoryAt (b + offset) r.width
  return lockVerdict (t.passes (r.fieldOf v))

theorem runCheck_absent (ht : t ∈ lockTests) (hr : e.store.get? t.register = some r)
    (hdefined : e.store.hasFields t.register t.fields = true) {l : PciLocation}
    {width : AccessWidth} (hplace : r.configPlace? = some (l, width))
    (habsent : st.platform.Absent l) :
    ((runCheck e t.check).run st).1 = reportOf t.check
      (if t.based then .error (.noBaseAddress t.register)
        else .ok (lockVerdict (t.passes (r.fieldOf (floatingAt l width))))) := by
  refine runCheck_of_yields st (supported_lockTest ht) hdefined ?_
  split
  · rename_i hbased
    exact yields_lockTest_baseless ht hbased (Engine.yields_baseAddress_config hr hplace _)
  · rename_i hbased
    have hread := Engine.yields_read st.platform (Engine.avoidsConfigPorts_config hr hplace)
    rw [Engine.value_config hr hplace, Simulator.configAt_of_absent habsent] at hread
    exact yields_lockTest ht hr (field?_of_hasFields hdefined hr) (fun h => absurd h hbased) hread

theorem runCheck_absent_base (ht : t ∈ lockTests) (hr : e.store.get? t.register = some r)
    (hdefined : e.store.hasFields t.register t.fields = true) {base : BaseAddress}
    {offset : UInt64} {q : Register} {l : PciLocation} {width : AccessWidth}
    (hl : r.location = .mmio base offset) (hq : e.store.get? base.register = some q)
    (hplace : q.configPlace? = some (l, width)) (habsent : st.platform.Absent l)
    (hupper : ∀ u ∈ base.upper, e.store.AvoidsConfigPorts u) :
    ((runCheck e t.check).run st).1 =
      reportOf t.check (verdictPast e st.platform t r base offset l width) := by
  have hports : ∀ d ∈ base.dependencies, e.store.AvoidsConfigPorts d := by
    intro d hd
    rcases List.mem_cons.1 hd with rfl | hd
    · exact Engine.avoidsConfigPorts_config hq hplace
    · exact hupper d (Option.mem_toList.1 hd)
  have hvalues : (fun (d : String) (_ : d ∈ base.dependencies) => e.value st.platform d) =
      fun d _ => if d = base.register then .ok (floatingAt l width) else e.value st.platform d := by
    funext d _
    split
    · rename_i hd
      rw [hd, Engine.value_config hq hplace, Simulator.configAt_of_absent habsent]
    · rfl
  have hbase := Engine.yields_baseAddress_mmio hr hl hports st.platform
  have hread := Engine.yields_read st.platform (Engine.avoidsConfigPorts_mmio hr hl hports)
  rw [Engine.value_mmio hr hl] at hread
  rw [hvalues] at hbase hread
  refine runCheck_of_yields st (supported_lockTest ht) hdefined ?_
  unfold verdictPast
  -- An error ends the check at the first step that meets it, and each step meets the same one.
  cases hb : e.baseOn base fun d _ =>
      if d = base.register then .ok (floatingAt l width) else e.value st.platform d with
  | error err =>
    rw [hb] at hbase hread
    by_cases hbased : t.based
    · exact yields_lockTest_baseless ht hbased hbase
    · exact yields_lockTest_unread ht (fun h => absurd h hbased) hread
  | ok b =>
    rw [hb] at hbase hread
    change Yields _ (e.read t.register) (st.platform.memoryAt (b + offset) r.width) at hread
    change Yields _ _ (st.platform.memoryAt (b + offset) r.width >>= _)
    cases hv : st.platform.memoryAt (b + offset) r.width with
    | error err =>
      rw [hv] at hread
      exact yields_lockTest_unread ht (fun _ => ⟨b, hbase⟩) hread
    | ok v =>
      rw [hv] at hread
      exact yields_lockTest ht hr (field?_of_hasFields hdefined hr) (fun _ => ⟨b, hbase⟩) hread

/-- What is reported of a lock whose function is absent. Nobody asks whether the function is there:
the lock is judged by the ones that the read shows, and one that is a bit of its register passes.
A check that shows the base of its register fails where there is none. A register in a memory block
whose base is absent is judged by what memory holds where the ones point. -/
theorem absent_exact (e : Engine) (st : Session Simulator) (t : LockTest) (ht : t ∈ lockTests) :
    (e.store.hasFields t.register t.fields = false → Finds e t.check st .notApplicable) ∧
    ∀ r, e.store.get? t.register = some r → e.store.hasFields t.register t.fields = true →
      (∀ l width, r.configPlace? = some (l, width) → st.platform.Absent l →
        ((runCheck e t.check).run st).1 = reportOf t.check
          (if t.based then .error (.noBaseAddress t.register)
            else .ok (lockVerdict (t.passes (r.fieldOf (floatingAt l width))))) ∧
        (t.based = false →
          (∀ field ∈ t.fields, ∃ f, r.field? field = some f ∧ f.size = 1 ∧
            (configBit? l width f.bit.toNat).isSome) →
          Finds e t.check st .passed)) ∧
      ∀ base offset q l width, r.location = .mmio base offset →
        e.store.get? base.register = some q → q.configPlace? = some (l, width) →
        st.platform.Absent l → (∀ u ∈ base.upper, e.store.AvoidsConfigPorts u) →
        ((runCheck e t.check).run st).1 =
          reportOf t.check (verdictPast e st.platform t r base offset l width) := by
  refine ⟨finds_notApplicable st (supported_lockTest ht), fun r hr hdefined => ⟨?_, ?_⟩⟩
  · intro l width hplace habsent
    have hreport := runCheck_absent ht hr hdefined hplace habsent
    refine ⟨hreport, fun hbased hbits => ?_⟩
    have hones : ∀ field ∈ t.fields, r.fieldOf (floatingAt l width) field = 1 := by
      intro field hfield
      obtain ⟨f, hf, hsize, hshown⟩ := hbits field hfield
      exact fieldOf_floatingAt hf hsize hshown
    rw [hbased, passes_of_ones ht hones] at hreport
    exact hreport
  · intro base offset q l width hl hq hplace habsent hupper
    exact runCheck_absent_base ht hr hdefined hl hq hplace habsent hupper

/-- Nothing is populated, and yet the reset lock is found set. -/
theorem absent_exact_unpopulated : ∃ s, Chipset.coffeeLake.store [] = .ok s ∧
    Finds ⟨s, 0⟩ resetLock ⟨Simulator.ofThreads 1, #[]⟩ .passed := by
  obtain ⟨s, hs⟩ := Chipset.exists_store (c := Chipset.coffeeLake) (by simp [Chipset.all])
  have hr := Chipset.get?_of_store hs "ETR3"
  obtain ⟨-, hexact⟩ := absent_exact ⟨s, 0⟩ ⟨Simulator.ofThreads 1, #[]⟩ _ (.head _)
  obtain ⟨hconfig, -⟩ := hexact _ hr (hasFields_of_get? (e := ⟨s, 0⟩) hr rfl)
  refine ⟨s, hs, (hconfig ⟨0, 31, 2, 0xAC⟩ .dword rfl fun _ => rfl).2 rfl ?_⟩
  intro field hfield
  obtain rfl := List.mem_singleton.1 hfield
  exact ⟨_, rfl, rfl, rfl⟩

theorem coffeeLake_absent {s : Store} (hs : Chipset.coffeeLake.store [] = .ok s) (thread : UInt32)
    (st : Session Simulator) :
    (st.platform.Absent ⟨0, 31, 2, 0⟩ →
      Finds ⟨s, thread⟩ resetLock st .passed ∧ Finds ⟨s, thread⟩ interruptLock st .passed) ∧
    (st.platform.Absent ⟨0, 31, 5, 0⟩ →
      Finds ⟨s, thread⟩ firmwareProtection st .passed ∧
      Finds ⟨s, thread⟩ flashLock st
        (lockVerdict ((st.platform.peek 0xFFFFF004 .dword).toNat.testBit 15))) := by
  obtain ⟨hreset, hfirmware, hinterrupt, hflash⟩ := coffeeLake_verdicts hs thread st
  constructor
  · intro h
    have hetr3 : st.platform.config ⟨0, 31, 2, 0xAC⟩ = 0xFFFFFFFF := h 0xAC
    have hpmcon : st.platform.config ⟨0, 31, 2, 0xA0⟩ = 0xFFFFFFFF := h 0xA0
    rw [hetr3] at hreset
    rw [hpmcon] at hinterrupt
    exact ⟨hreset, hinterrupt⟩
  · intro h
    have hbc : st.platform.config ⟨0, 31, 5, 0xDC⟩ = 0xFFFFFFFF := h 0xDC
    have hspibar : st.platform.config ⟨0, 31, 5, 0x10⟩ = 0xFFFFFFFF := h 0x10
    rw [hbc] at hfirmware
    rw [hspibar] at hflash
    exact ⟨hfirmware, hflash⟩

def coffeeLakePlaces : List (String × Location) := [
  ("ETR3", .pci ⟨0, 31, 2, 0xAC⟩), ("GEN_PMCON_1", .pci ⟨0, 31, 2, 0xA0⟩),
  ("BC", .pci ⟨0, 31, 5, 0xDC⟩), ("SPIBAR", .pci ⟨0, 31, 5, 0x10⟩),
  ("HSFS", .mmio ⟨"SPIBAR", some "BA", none⟩ 0x04)]

/-- On a platform with nothing on it all four locks are found set. -/
theorem absent_passes : ∃ s, Chipset.coffeeLake.store [] = .ok s ∧
    (∀ p ∈ coffeeLakePlaces, (s.get? p.1).map (·.location) = some p.2) ∧
    (Simulator.ofThreads 1).Absent ⟨0, 31, 2, 0⟩ ∧ (Simulator.ofThreads 1).Absent ⟨0, 31, 5, 0⟩ ∧
    ∀ c ∈ [resetLock, firmwareProtection, flashLock, interruptLock],
      Finds ⟨s, 0⟩ c ⟨Simulator.ofThreads 1, #[]⟩ .passed := by
  obtain ⟨s, hs⟩ := Chipset.exists_store (c := Chipset.coffeeLake) (by simp [Chipset.all])
  have hbridge : (Simulator.ofThreads 1).Absent ⟨0, 31, 2, 0⟩ := fun _ => rfl
  have hflash : (Simulator.ofThreads 1).Absent ⟨0, 31, 5, 0⟩ := fun _ => rfl
  obtain ⟨hfirst, hsecond⟩ := coffeeLake_absent hs 0 ⟨Simulator.ofThreads 1, #[]⟩
  have hmemory : ((Simulator.ofThreads 1).peek 0xFFFFF004 .dword).toNat.testBit 15 = true := by
    decide
  obtain ⟨hreset, hinterrupt⟩ := hfirst hbridge
  obtain ⟨hfirmware, hstatus⟩ := hsecond hflash
  rw [hmemory] at hstatus
  have hplaces : ∀ p ∈ coffeeLakePlaces, (s.get? p.1).map (·.location) = some p.2 := by
    rw [show s.get? = _ from funext (Chipset.get?_of_store hs)]
    decide +kernel
  refine ⟨s, hs, hplaces, hbridge, hflash, ?_⟩
  simp only [List.forall_mem_cons]
  exact ⟨hreset, hfirmware, hstatus, hinterrupt, by simp⟩

end Check

end Lockdown

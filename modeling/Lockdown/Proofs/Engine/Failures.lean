import Lockdown.Proofs.Bus.Writing
import Lockdown.Proofs.Engine.Reading

/-! What an access to a register can fail by. The checks of the builder leave nothing undefined
behind: bases and their fields exist along every chain, and the chain ends. What remains is a
width that no port has, and bytes past the top of the address space. -/
namespace Lockdown

open Access

namespace Engine

variable {s : Simulator} {e : Engine} {name d : String} {r : Register}

def LiesAt (e : Engine) (s : Simulator) (r : Register) (address : UInt64) : Prop :=
  r.location = .memory address ∨
    ∃ base offset b, r.location = .mmio base offset ∧ address = b + offset ∧
      ∃ st : Session Simulator, s.Undisturbed st.platform ∧
        ((e.resolveBase base).outcome st).1 = .ok b

/-- The register itself or one that locates it is to blame. -/
inductive Refused (e : Engine) (s : Simulator) (name : String) : AccessError → Prop
  | eightBytePort {d : String} {r : Register} {p : UInt16} (based : BasedOn e.store.get? name d)
      (defined : e.store.get? d = some r) (port : r.location = .port p)
      (eight : r.width = .qword) : Refused e s name (.invalidSize .port 8)
  | pastTop {d : String} {r : Register} {address : UInt64} (based : BasedOn e.store.get? name d)
      (defined : e.store.get? d = some r) (lies : e.LiesAt s r address)
      (last : 2 ^ 64 - 1 < address.toNat + r.width.bytes - 1) :
      Refused e s name (.addressOverflow address r.width.bytes)

theorem Refused.of_dependency {err : AccessError} (hd : DependsOn e.store.get? name d)
    (h : Refused e s d err) : Refused e s name err := by
  cases h with
  | eightBytePort based defined port eight =>
    exact .eightBytePort (.head hd based) defined port eight
  | pastTop based defined lies last => exact .pastTop (.head hd based) defined lies last

theorem last_of_not_inAddressSpace {address : UInt64} {width : AccessWidth}
    (h : inAddressSpace address width.bytes = false) :
    2 ^ 64 - 1 < address.toNat + width.bytes - 1 := by
  have hpos := width.bytes_pos
  simp only [inAddressSpace, UInt64.size, decide_eq_false_iff_not] at h
  omega

theorem memoryAt_eq_error {address : UInt64} {width : AccessWidth} {err : AccessError}
    (h : s.memoryAt address width = .error err) :
    err = .addressOverflow address width.bytes ∧
      2 ^ 64 - 1 < address.toNat + width.bytes - 1 := by
  unfold Simulator.memoryAt at h
  cases hin : inAddressSpace address width.bytes with
  | true =>
    rw [hin] at h
    cases h
  | false =>
    rw [hin] at h
    cases h
    exact ⟨rfl, last_of_not_inAddressSpace hin⟩

theorem inspects_readPort (s : Simulator) (port : UInt16) (width : AccessWidth) :
    Inspects s (do return (← Bus.readPort port (UInt32.ofNat width.bytes)).toUInt64)
      (ErrorIn fun err => err = .invalidSize .port 8 ∧ width = .qword) := by
  by_cases hw : width = .qword
  · subst hw
    exact (Bus.yields_readPort_eight s port).stop.errorIn (by simp)
  · have hread : Inspects s (Bus.readPort port (UInt32.ofNat width.bytes))
        (ErrorIn fun _ => False) :=
      Bus.inspects_readPort hw (by simp)
    refine Inspects.bind hread ?_ ?_
    · intro value _
      exact Inspects.pure (errorIn_ok _ _)
    · intro err he
      exact (errorIn_error.1 he).elim

theorem inspects_baseValue {refused : AccessError → Prop} {base : BaseAddress}
    (hbase : Grounded e.store.get? base) {fetch : ∀ d ∈ base.dependencies, Access Simulator UInt64}
    (h : ∀ d hd, Inspects s (fetch d hd) (ErrorIn refused)) :
    Inspects s (e.baseValue base fetch) (ErrorIn refused) := by
  obtain ⟨register, field, upper⟩ := base
  obtain ⟨⟨b, hb, hfield⟩, -⟩ := hbase
  have herr : ∀ err, ErrorIn refused (.error err : Except AccessError UInt64) →
      ErrorIn refused (.error err : Except AccessError UInt64) := fun _ he => he
  have hhigh : ∀ low : UInt64, ∀ u hu, Inspects s
      (do return joinAddress (← fetch u hu).toUInt32 low.toUInt32) (ErrorIn refused) :=
    fun _ u hu => Inspects.bind (h u hu) (fun _ _ => Inspects.pure (errorIn_ok _ _)) herr
  unfold baseValue
  refine Inspects.bind (h register _) ?_ herr
  rintro raw -
  cases field with
  | none =>
    cases upper with
    | none => exact Inspects.pure (errorIn_ok _ _)
    | some upper => exact hhigh raw upper _
  | some field =>
    obtain ⟨f, hf⟩ := hfield field rfl
    have hget := getField_of_get? hb hf raw true
    simp only [hget]
    refine (Yields.ofExcept (.ok _)).andThen ?_
    cases upper with
    | none => exact Inspects.pure (errorIn_ok _ _)
    | some upper => exact hhigh _ upper _

theorem inspects_readPlace (hr : e.store.get? name = some r) (thread : UInt32)
    (hresolve : ∀ base offset, r.location = .mmio base offset →
      Inspects s (e.resolveBase base) (ErrorIn (Refused e s name))) :
    Inspects s (e.readPlace thread r.width r.location fun d _ => e.readOn e.thread d)
      (ErrorIn (Refused e s name)) := by
  obtain ⟨name', location, width, desc, fields⟩ := r
  have hmemory : ∀ address, e.LiesAt s ⟨name', location, width, desc, fields⟩ address →
      Inspects s (readMemory address width) (ErrorIn (Refused e s name)) := by
    intro address hlies
    refine (yields_readMemory s address width).errorIn ?_
    intro err herr
    obtain ⟨rfl, hlast⟩ := memoryAt_eq_error herr
    exact .pastTop .refl hr hlies hlast
  cases location with
  | pci l => exact (yields_readConfig s l width).errorIn (errorIn_ok _ _)
  | mmio base offset =>
    refine Inspects.bind (hresolve base offset rfl).traced ?_ ?_
    · rintro b ⟨-, st, hs, hb⟩
      exact hmemory (b + offset) (.inr ⟨base, offset, b, rfl, rfl, st, hs, hb⟩)
    · rintro err ⟨herr, -⟩
      exact herr
  | memory address => exact hmemory address (.inl rfl)
  | msr address =>
    have hread := Bus.yields_readMsr s thread address
    exact Yields.errorIn (hread.andThen (Yields.pure _)) (errorIn_ok _ _)
  | port p =>
    refine (inspects_readPort s p width).mono ?_
    rintro result hresult err herr
    obtain ⟨rfl, hw⟩ := hresult err herr
    exact .eightBytePort .refl hr rfl hw
  | csr address =>
    have hread := Bus.yields_readPci s (csrLocation address) 4
    exact Yields.errorIn (hread.andThen (Yields.pure _)) (errorIn_ok _ _)

theorem inspects_resolveBase {base : BaseAddress} {offset : UInt64}
    (hbases : Resolvable e.store.get?) (hr : e.store.get? name = some r)
    (hlocation : r.location = .mmio base offset)
    (hread : ∀ d q, DependsOn e.store.get? name d → e.store.get? d = some q →
      Inspects s (e.read d) (ErrorIn (Refused e s d))) :
    Inspects s (e.resolveBase base) (ErrorIn (Refused e s name)) := by
  have hbase := hbases.grounded name r base offset hr hlocation
  refine inspects_baseValue hbase ?_
  intro d hd
  have hstep : DependsOn e.store.get? name d :=
    ⟨r, hr, by rw [Register.baseDependencies, hlocation]; exact hd⟩
  obtain ⟨q, hq⟩ := hbase.exists_dependency hd
  refine (hread d q hstep hq).mono ?_
  exact fun result hresult err herr => (hresult err herr).of_dependency hstep

theorem inspects_readOn (hbases : Resolvable e.store.get?) (s : Simulator)
    (hr : e.store.get? name = some r) (thread : UInt32) :
    Inspects s (e.readOn thread name) (ErrorIn (Refused e s name)) := by
  -- Along the bases of the store; soundness keeps every register on the way defined.
  induction name using e.store.wellFounded_dependsOn.induction generalizing thread r with
  | _ name ih =>
    have hplace : Inspects s
        (e.readPlace thread r.width r.location fun d _ => e.readOn e.thread d)
        (ErrorIn (Refused e s name)) :=
      inspects_readPlace hr thread fun base offset hlocation =>
        inspects_resolveBase hbases hr hlocation fun d q hd hq => ih d hd hq e.thread
    rw [readOn_eq, hr]
    exact hplace.logged _

theorem inspects_base {base : BaseAddress} {offset : UInt64} (hbases : Resolvable e.store.get?)
    (s : Simulator) (hr : e.store.get? name = some r) (hlocation : r.location = .mmio base offset) :
    Inspects s (e.resolveBase base) (ErrorIn (Refused e s name)) :=
  inspects_resolveBase hbases hr hlocation fun _ _ _ hq => inspects_readOn hbases s hq e.thread

theorem succeeds_writePci (l : PciLocation) (value size : UInt32) :
    Succeeds (Bus.writePci l value size : Access Simulator UInt32) := by
  refine Succeeds.bind (.lift _) fun _ => ?_
  refine Succeeds.bind (.step _) fun old => ?_
  refine Succeeds.bind (.step _) fun _ => ?_
  exact Succeeds.bind (.append _) fun _ => .pure _

theorem succeeds_writeConfig (l : PciLocation) (width : AccessWidth) (value : UInt64) :
    Succeeds (writeConfig l width value : Access Simulator UInt64) := by
  cases width with
  | qword =>
    refine Succeeds.bind (succeeds_writePci l _ _) fun low => ?_
    exact Succeeds.bind (succeeds_writePci l.next _ _) fun high => .pure _
  | _ => exact Succeeds.bind (succeeds_writePci l _ _) fun old => .pure _

theorem succeeds_writeMsr (thread address eax edx : UInt32) :
    Succeeds (Bus.writeMsr thread address eax edx : Access Simulator Unit) := by
  refine Succeeds.bind (.lift _) fun _ => ?_
  exact Succeeds.bind (.append _) fun _ => .step _

theorem failsOnly_writeMemory {refused : AccessError → Prop} (s : Simulator) (address : UInt64)
    (width : AccessWidth) (value : UInt64)
    (h : 2 ^ 64 - 1 < address.toNat + width.bytes - 1 →
      refused (.addressOverflow address width.bytes)) :
    FailsOnly s (writeMemory address width value) refused := by
  obtain ⟨line, hwrite⟩ := Bus.writeMmio_eq Simulator address width value
  have hspan := Bus.yields_checkSpan s address width.bytes
  rw [writeMemory, hwrite]
  refine FailsOnly.andThen (Yields.append line) ?_
  cases hin : inAddressSpace address width.bytes with
  | true =>
    rw [hin] at hspan
    exact FailsOnly.andThen hspan (.of_succeeds (.step _))
  | false =>
    rw [hin] at hspan
    exact .of_yields_error hspan.stop (h (last_of_not_inAddressSpace hin))

theorem failsOnly_writePort {refused : AccessError → Prop} (s : Simulator) (port : UInt16)
    (width : AccessWidth) (value : UInt32)
    (h : width = .qword → refused (.invalidSize .port 8)) :
    FailsOnly s (Bus.writePort port value (UInt32.ofNat width.bytes)) refused := by
  unfold Bus.writePort
  by_cases hw : width = .qword
  · subst hw
    rw [Bus.portWidth_eight]
    exact .of_yields_error (Yields.ofExcept _).stop (h rfl)
  · rw [Bus.portWidth_bytes hw]
    refine FailsOnly.andThen (Yields.ofExcept (.ok width)) ?_
    exact .of_succeeds (Succeeds.bind (.append _) fun _ => .step _)

theorem failsOnly_write (hbases : Resolvable e.store.get?) (s : Simulator)
    (hr : e.store.get? name = some r) (value : UInt64) :
    FailsOnly s (e.write name value) (Refused e s name) := by
  have hmemory : ∀ address, e.LiesAt s r address →
      FailsOnly s (writeMemory address r.width value) (Refused e s name) := fun address hlies =>
    failsOnly_writeMemory s address r.width value (.pastTop .refl hr hlies)
  obtain ⟨name', location, width, desc, fields⟩ := r
  unfold write
  rw [require_of_get? hr]
  refine FailsOnly.andThen (Yields.ofExcept (.ok _)) ?_
  refine FailsOnly.andThen (Yields.append _) ?_
  cases location with
  | pci l =>
    exact .of_succeeds (Succeeds.bind (succeeds_writeConfig l width value) fun _ => .pure _)
  | mmio base offset =>
    refine FailsOnly.bind (inspects_base hbases s hr rfl).traced ?_ ?_
    · rintro b ⟨-, st, hs, hb⟩
      have hlies : e.LiesAt s ⟨name', .mmio base offset, width, desc, fields⟩ (b + offset) :=
        .inr ⟨base, offset, b, rfl, rfl, st, hs, hb⟩
      exact (hmemory _ hlies).followed fun _ => .pure _
    · rintro err ⟨herr, -⟩
      exact errorIn_error.1 herr
  | memory address => exact (hmemory address (.inl rfl)).followed fun _ => .pure _
  | msr address =>
    exact .of_succeeds (Succeeds.bind (succeeds_writeMsr e.thread address _ _) fun _ => .pure _)
  | port p =>
    have hport : FailsOnly s (Bus.writePort p value.toUInt32 (UInt32.ofNat width.bytes))
        (Refused e s name) :=
      failsOnly_writePort s p width value.toUInt32 (.eightBytePort .refl hr rfl)
    exact hport.followed fun _ => .pure _
  | csr address => exact .of_succeeds (Succeeds.bind (succeeds_writePci _ _ _) fun _ => .pure _)

theorem failsOnly_baseAddress (hbases : Resolvable e.store.get?) (s : Simulator)
    (hr : e.store.get? name = some r) :
    FailsOnly s (e.baseAddress name) fun err => Refused e s name err ∨
      err = .noBaseAddress name ∧ ∀ base offset, r.location ≠ .mmio base offset := by
  obtain ⟨name', location, width, desc, fields⟩ := r
  unfold baseAddress
  rw [require_of_get? hr]
  refine FailsOnly.andThen (Yields.ofExcept (.ok _)) ?_
  cases location with
  | mmio base offset =>
    exact fun st hs err herr => .inl ((inspects_base hbases s hr rfl st hs).1 err herr)
  | _ => exact .throw (.inr ⟨rfl, by simp⟩)

/-- On an accepted store the walk along the bases ends, and no access to a defined register finds
anything undefined: it fails only by the width of a port or at the top of the address space. -/
theorem access_failures {chipset : String} {layers : List (List Register)}
    (h : Store.build chipset layers = .ok e.store) (hr : e.store.get? name = some r)
    (st : Session Simulator) :
    (WellFounded fun d n => DependsOn e.store.get? n d) ∧
    (∀ err, ((e.read name).outcome st).1 = .error err → Refused e st.platform name err) ∧
    (∀ value err, ((e.write name value).outcome st).1 = .error err →
      Refused e st.platform name err) ∧
    ∀ err, ((e.baseAddress name).outcome st).1 = .error err →
      Refused e st.platform name err ∨
        err = .noBaseAddress name ∧ ∀ base offset, r.location ≠ .mmio base offset := by
  have hbases := Store.resolvable_of_build h
  refine ⟨e.store.wellFounded_dependsOn, ?_, ?_, ?_⟩
  · exact (inspects_readOn hbases st.platform hr e.thread st (.refl _)).1
  · exact fun value => failsOnly_write hbases st.platform hr value st (.refl _)
  · exact failsOnly_baseAddress hbases st.platform hr st (.refl _)

theorem access_failures_at_top : ∃ (s : Store) (r : Register),
    Store.build "top" [[r]] = .ok s ∧ s.get? r.name = some r ∧
      (((⟨s, 0⟩ : Engine).read r.name).outcome ⟨Simulator.ofThreads 1, #[]⟩).1 =
        .error (.addressOverflow 0xFFFFFFFFFFFFFFFF 2) ∧
      Refused ⟨s, 0⟩ (.ofThreads 1) r.name (.addressOverflow 0xFFFFFFFFFFFFFFFF 2) := by
  let r : Register := ⟨"TOP", .memory 0xFFFFFFFFFFFFFFFF, .word, "", ∅⟩
  have hbuild : (Store.build "top" [[r]]).isOk = true := by decide +kernel
  obtain ⟨s, hs⟩ := exists_eq_ok_of_isOk hbuild
  have hr : s.get? "TOP" = some r := Store.get?_of_build hs "TOP"
  have hports : s.AvoidsConfigPorts "TOP" := Store.avoidsConfigPorts_of_build hs (by decide) "TOP"
  have hread : (((⟨s, 0⟩ : Engine).read "TOP").outcome ⟨Simulator.ofThreads 1, #[]⟩).1 =
      .error (.addressOverflow 0xFFFFFFFFFFFFFFFF 2) := by
    rw [(yields_read _ hports _ (.refl _)).1, value, valueOn_eq, hr]
    rfl
  exact ⟨s, r, hs, hr, hread, (access_failures (e := ⟨s, 0⟩) hs hr _).2.1 _ hread⟩

end Engine

end Lockdown

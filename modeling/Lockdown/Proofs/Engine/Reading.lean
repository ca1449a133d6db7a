import Lockdown.Engine.Denotation
import Lockdown.Proofs.Bus.Reading
import Lockdown.Proofs.Chipset

/-! Reading through the engine is the value of the register. A chain of bases is as deep as the
store has it, so what is read on the way is followed by induction on that order; each link only
looks, and leaves to the next what it found. -/
namespace Lockdown

open Access

/-- The config mechanism answers there, not the port itself. -/
def Register.onConfigPort (r : Register) : Bool :=
  match r.location with
  | .port p => (p = 0xCF8 && r.width = .dword) || (0xCFC ≤ p && p ≤ 0xCFF)
  | _ => false

theorem Register.onConfigPort_eq_false_iff {r : Register} {p : UInt16} (h : r.location = .port p) :
    r.onConfigPort = false ↔
      Simulator.isLatch p r.width = false ∧ Simulator.isWindow p = false := by
  have hdef : r.onConfigPort = (Simulator.isLatch p r.width || Simulator.isWindow p) := by
    rw [onConfigPort, h]
    rfl
  rw [hdef, Bool.or_eq_false_iff]

/-- Neither this register nor one that locates it is a port of the config mechanism. -/
def Store.AvoidsConfigPorts (s : Store) (name : String) : Prop :=
  ∀ d r, BasedOn s.get? name d → s.get? d = some r → r.onConfigPort = false

theorem Store.avoidsConfigPorts_of_build {chipset : String} {layers : List (List Register)}
    {s : Store} (h : build chipset layers = .ok s)
    (hports : ∀ layer ∈ layers, ∀ r ∈ layer, r.onConfigPort = false) (name : String) :
    s.AvoidsConfigPorts name := by
  intro d r _ hr
  rw [get?_of_build h] at hr
  obtain ⟨layer, hlayer, hr⟩ := mem_of_effective hr
  exact hports layer hlayer r hr

/-- Only a site's own definitions can name these ports. -/
theorem Chipset.avoidsConfigPorts {c : Chipset} {overlay : List Register} {s : Store}
    (hc : c ∈ all) (hs : c.store overlay = .ok s)
    (hoverlay : ∀ r ∈ overlay, r.onConfigPort = false) (name : String) :
    s.AvoidsConfigPorts name := by
  have hbuiltin : ∀ c ∈ all, ∀ layer ∈ [sharedRegisters, c.registers], ∀ r ∈ layer,
      r.onConfigPort = false := by decide
  refine Store.avoidsConfigPorts_of_build hs ?_ name
  intro layer hlayer r hr
  simp only [List.mem_cons, List.not_mem_nil, or_false] at hlayer
  rcases hlayer with rfl | rfl | rfl
  · exact hbuiltin c hc _ (by simp) r hr
  · exact hbuiltin c hc _ (by simp) r hr
  · exact hoverlay r hr

namespace Engine

variable {s : Simulator} {e : Engine} {name : String}

theorem yields_readConfig (s : Simulator) (l : PciLocation) (width : AccessWidth) :
    Yields s (readConfig l width) (.ok (s.configAt l width)) := by
  have hsingle : ∀ size, Yields s (do return (← Bus.readPci l size).toUInt64)
      (.ok (narrow (s.dwordAt l) l.offset size).toUInt64) := fun size =>
    (Bus.yields_readPci s l size).andThen (Yields.pure _)
  cases width with
  | qword =>
    refine (Bus.yields_readPci s l 4).andThen ?_
    exact (Bus.yields_readPci s l.next 4).andThen (Yields.pure _)
  | _ => exact hsingle _

theorem yields_readMemory (s : Simulator) (address : UInt64) (width : AccessWidth) :
    Yields s (readMemory address width) (s.memoryAt address width) :=
  Bus.yields_readMmio s address width

theorem yields_readPort (s : Simulator) (port : UInt16) (width : AccessWidth)
    (hlatch : Simulator.isLatch port width = false) (hwindow : Simulator.isWindow port = false) :
    Yields s (do return (← Bus.readPort port (UInt32.ofNat width.bytes)).toUInt64)
      (s.portsAt port width) := by
  by_cases hw : width = .qword
  · subst hw
    exact (Bus.yields_readPort_eight s port).stop
  · have hlen : (s.portBytes port width.bytes).length = width.bytes := by
      simp [Simulator.portBytes]
    have hvalue : s.portsAt port width = .ok (ofBytesLE (s.portBytes port width.bytes)) := by
      cases width with
      | qword => exact absurd rfl hw
      | _ => rfl
    have hread : Yields s (Bus.readPort port (UInt32.ofNat width.bytes))
        (.ok ((ofBytesLE (s.portBytes port width.bytes)).toUInt32 &&& width.mask.toUInt32)) := by
      refine Bus.inspects_readPort hw ?_
      rintro t ⟨latch, log, rfl⟩
      simp only [Simulator.portValue, hlatch, hwindow, Bool.false_eq_true, ↓reduceIte]
      rfl
    rw [hvalue, ← toUInt64_toUInt32_and_mask hlen hw]
    exact hread.andThen (Yields.pure _)

theorem yields_baseValue (base : BaseAddress)
    {fetch : ∀ d ∈ base.dependencies, Access Simulator UInt64}
    {value : ∀ d ∈ base.dependencies, Except AccessError UInt64}
    (h : ∀ d hd, Yields s (fetch d hd) (value d hd)) :
    Yields s (e.baseValue base fetch) (e.baseOn base value) := by
  obtain ⟨register, field, upper⟩ := base
  have hhigh : ∀ low : UInt64, ∀ u hu, Yields s
      (do return joinAddress (← fetch u hu).toUInt32 low.toUInt32)
      (do return joinAddress (← value u hu).toUInt32 low.toUInt32) := fun _ u hu =>
    (h u hu).bind fun _ _ => Yields.pure _
  unfold baseValue baseOn
  refine (h register _).bind ?_
  rintro raw -
  cases field with
  | none =>
    cases upper with
    | none => exact Yields.pure raw
    | some upper => exact hhigh raw upper _
  | some field =>
    refine (Yields.ofExcept _).bind ?_
    rintro low -
    cases upper with
    | none => exact Yields.pure low
    | some upper => exact hhigh low upper _

theorem yields_readPlace (thread : UInt32) (width : AccessWidth) (l : Location)
    {fetch : ∀ d ∈ l.baseDependencies, Access Simulator UInt64}
    {value : ∀ d ∈ l.baseDependencies, Except AccessError UInt64}
    (h : ∀ d hd, Yields s (fetch d hd) (value d hd))
    (hport : ∀ p, l = .port p →
      Simulator.isLatch p width = false ∧ Simulator.isWindow p = false) :
    Yields s (e.readPlace thread width l fetch) (e.placeOn s thread width l value) := by
  cases l with
  | pci l => exact yields_readConfig s l width
  | mmio base offset =>
    refine (yields_baseValue base h).bind ?_
    rintro address -
    exact yields_readMemory s (address + offset) width
  | memory address => exact yields_readMemory s address width
  | msr address =>
    refine (Bus.yields_readMsr s thread address).andThen ?_
    simp only [joinAddress_halves]
    exact Yields.pure _
  | port p => exact yields_readPort s p width (hport p rfl).1 (hport p rfl).2
  | csr address => exact (Bus.yields_readPci s (csrLocation address) 4).andThen (Yields.pure _)

theorem valueOn_eq (e : Engine) (s : Simulator) (thread : UInt32) (name : String) :
    e.valueOn s thread name = match e.store.get? name with
      | none => .error (.undefinedRegister name)
      | some r => e.placeOn s thread r.width r.location fun d _ => e.valueOn s e.thread d := by
  rw [valueOn]
  split <;> rename_i h <;> rw [h]

theorem value_pci {r : Register} {l : PciLocation} (h : e.store.get? name = some r)
    (hl : r.location = .pci l) (s : Simulator) :
    e.value s name = .ok (s.configAt l r.width) := by
  obtain ⟨name', location, width, desc, fields⟩ := r
  obtain rfl : location = .pci l := hl
  rw [value, valueOn_eq, h]
  rfl

theorem require_of_get? {r : Register} (h : e.store.get? name = some r) :
    e.store.require name = .ok r := by
  simp only [Store.require, h]

theorem requireField_of_get? {r : Register} {field : String} {f : Field}
    (hr : e.store.get? name = some r) (hf : r.field? field = some f) :
    e.store.requireField name field = .ok f := by
  simp only [Store.requireField, require_of_get? hr, hf, bind, Except.bind]

theorem getField_of_get? {r : Register} {field : String} {f : Field}
    (h : e.store.get? name = some r) (hf : r.field? field = some f) (v : UInt64) (inPlace : Bool) :
    e.store.getField name v field inPlace =
      .ok (if inPlace then f.extractInPlace v else f.extract v) := by
  simp only [Store.getField, requireField_of_get? h hf, bind, Except.bind, pure, Except.pure]

theorem baseOn_of_pci {q : Register} {b field : String} {l : PciLocation} {f : Field}
    (hb : e.store.get? b = some q) (hq : q.location = .pci l) (hf : q.field? field = some f)
    (s : Simulator) :
    (e.baseOn ⟨b, some field, none⟩ fun d _ => e.value s d) =
      .ok (f.extractInPlace (s.configAt l q.width)) := by
  simp only [baseOn, value_pci hb hq, getField_of_get? hb hf]
  rfl

theorem value_mmio {r : Register} {base : BaseAddress} {offset : UInt64}
    (hr : e.store.get? name = some r) (hl : r.location = .mmio base offset) (s : Simulator) :
    e.value s name = (do
      let b ← e.baseOn base fun d _ => e.value s d
      s.memoryAt (b + offset) r.width) := by
  obtain ⟨name', location, w, desc, fields⟩ := r
  obtain rfl : location = .mmio base offset := hl
  rw [value, valueOn_eq, hr]
  rfl

theorem value_mmio_of_pci {r q : Register} {b field : String} {offset : UInt64} {l : PciLocation}
    {f : Field} (h : e.store.get? name = some r)
    (hr : r.location = .mmio ⟨b, some field, none⟩ offset) (hb : e.store.get? b = some q)
    (hq : q.location = .pci l) (hf : q.field? field = some f) (s : Simulator) :
    e.value s name = s.memoryAt (f.extractInPlace (s.configAt l q.width) + offset) r.width := by
  rw [value_mmio h hr, baseOn_of_pci hb hq hf]
  rfl

theorem readOn_eq {σ : Type} [Bus σ] (e : Engine) (thread : UInt32) (name : String) :
    (e.readOn thread name : Access σ UInt64) = match e.store.get? name with
      | none => throw (.undefinedRegister name)
      | some r => do
        let value ← e.readPlace thread r.width r.location fun d _ => e.readOn e.thread d
        Journal.debug .engine s!"{describe r} = 0x{Text.hex value.toNat}"
        return value := by
  rw [readOn]
  split <;> rename_i h <;> rw [h]

theorem yields_readOn (s : Simulator) (thread : UInt32) (h : e.store.AvoidsConfigPorts name) :
    Yields s (e.readOn thread name) (e.valueOn s thread name) := by
  -- Along the bases of the store; what avoids the ports is handed down to each of them.
  induction name using e.store.wellFounded_dependsOn.induction generalizing thread with
  | _ name ih =>
    rw [readOn_eq, valueOn_eq]
    cases hr : e.store.get? name with
    | none => exact Yields.throw _
    | some r =>
      have hplace : Yields s
          (e.readPlace thread r.width r.location fun d _ => e.readOn e.thread d)
          (e.placeOn s thread r.width r.location fun d _ => e.valueOn s e.thread d) := by
        refine yields_readPlace thread r.width r.location ?_ ?_
        · intro d hd
          have hstep : DependsOn e.store.get? name d := ⟨r, hr, hd⟩
          exact ih d hstep e.thread fun d' q hd' => h d' q (.head hstep hd')
        · intro p hp
          exact (Register.onConfigPort_eq_false_iff hp).1 (h name r .refl hr)
      exact hplace.logged _

theorem yields_read (s : Simulator) (h : e.store.AvoidsConfigPorts name) :
    Yields s (e.read name) (e.value s name) :=
  yields_readOn s e.thread h

theorem yields_resolveBase {base : BaseAddress} (s : Simulator)
    (h : ∀ d ∈ base.dependencies, e.store.AvoidsConfigPorts d) :
    Yields s (e.resolveBase base) (e.baseOn base fun d _ => e.value s d) :=
  yields_baseValue base fun d hd => yields_read s (h d hd)

theorem avoidsConfigPorts_alone {r : Register} (hr : e.store.get? name = some r)
    (hbase : r.baseDependencies = []) (hport : r.onConfigPort = false) :
    e.store.AvoidsConfigPorts name := by
  intro d q hd hq
  rcases hd.cases_head with rfl | ⟨c, ⟨q', hq', hc⟩, -⟩
  · rw [hr] at hq
    cases hq
    exact hport
  · rw [hr] at hq'
    cases hq'
    rw [hbase] at hc
    cases hc

theorem yields_read_alone {r : Register} (hr : e.store.get? name = some r)
    (hbase : r.baseDependencies = []) (hport : r.onConfigPort = false) (s : Simulator) :
    Yields s (e.read name) (e.value s name) :=
  yields_read s (avoidsConfigPorts_alone hr hbase hport)

theorem yields_readField {r : Register} {field : String} {f : Field} {v : UInt64}
    (hr : e.store.get? name = some r) (hf : r.field? field = some f)
    (hread : Yields s (e.read name) (.ok v)) (inPlace : Bool) :
    Yields s (e.readField name field inPlace)
      (.ok (if inPlace then f.extractInPlace v else f.extract v)) := by
  unfold readField
  rw [requireField_of_get? hr hf]
  refine (Yields.ofExcept (.ok f)).andThen ?_
  refine hread.andThen ?_
  rw [getField_of_get? hr hf]
  exact Yields.ofExcept _

theorem yields_readAllThreads {r : Register} {address : UInt32} (hr : e.store.get? name = some r)
    (hl : r.location = .msr address) (s : Simulator) :
    Yields s (e.readAllThreads name)
      (.ok ((Bus.threads s).map fun thread => s.msrAt thread address r.width)) := by
  obtain ⟨name', location, width, desc, fields⟩ := r
  obtain rfl : location = .msr address := hl
  have hread : ∀ thread, Yields s (e.readOn thread name) (.ok (s.msrAt thread address width)) := by
    intro thread
    have hvalue := yields_readOn s thread (avoidsConfigPorts_alone hr rfl rfl)
    rw [valueOn_eq, hr] at hvalue
    exact hvalue
  unfold readAllThreads
  rw [require_of_get? hr]
  refine (Yields.ofExcept (.ok _)).andThen ?_
  refine (Yields.observe fun _ => Bus.threads_of_undisturbed).andThen ?_
  exact Yields.mapM fun thread _ => hread thread

theorem avoidsConfigPorts_mmio {r : Register} {base : BaseAddress} {offset : UInt64}
    (hr : e.store.get? name = some r) (hl : r.location = .mmio base offset)
    (h : ∀ d ∈ base.dependencies, e.store.AvoidsConfigPorts d) :
    e.store.AvoidsConfigPorts name := by
  intro d q hd hq
  rcases hd.cases_head with rfl | ⟨c, ⟨q', hq', hc⟩, hrest⟩
  · obtain rfl := Option.some.inj (hr.symm.trans hq)
    rw [Register.onConfigPort, hl]
  · obtain rfl := Option.some.inj (hr.symm.trans hq')
    rw [Register.baseDependencies, hl] at hc
    exact h c hc d q hrest hq

theorem yields_baseAddress_mmio {r : Register} {base : BaseAddress} {offset : UInt64}
    (hr : e.store.get? name = some r) (hl : r.location = .mmio base offset)
    (h : ∀ d ∈ base.dependencies, e.store.AvoidsConfigPorts d) (s : Simulator) :
    Yields s (e.baseAddress name) (e.baseOn base fun d _ => e.value s d) := by
  unfold baseAddress
  rw [require_of_get? hr]
  refine (Yields.ofExcept (.ok r)).andThen ?_
  rw [hl]
  exact yields_resolveBase s h

end Engine

end Lockdown

import Lockdown.Proofs.Bus.Trace
import Lockdown.Proofs.Engine.ReadBack
import Lockdown.Proofs.Engine.Refusal

/-! The cycles of registers. To reach a memory block the engine reads the registers that hold its
base, the lower one first, each of them anew and along the chain of its own bases; then follows the
access itself, which is one transaction, or in config space the cycles of its dwords. -/
namespace Lockdown

open Access BusCycle

def configDwords (l : PciLocation) : AccessWidth → List PciLocation
  | .qword => [l, l.next]
  | _ => [l]

def configStores (s : Simulator) (l : PciLocation) (width : AccessWidth) (value : UInt64) :
    List (PciLocation × UInt32) :=
  match width with
  | .qword => [(l, value.toUInt32), (l.next, (value >>> 32).toUInt32)]
  | _ => [(l, merge (s.dwordAt l) l.offset (UInt32.ofNat width.bytes) value.toUInt32)]

def storeCycles (stores : List (PciLocation × UInt32)) : List BusCycle :=
  stores.flatMap fun k => [.configRead k.1, .configWrite k.1 k.2]

namespace Engine

def resolved (e : Engine) (s : Simulator) (base : BaseAddress) : Except AccessError UInt64 :=
  ((e.resolveBase base).outcome ⟨s, #[]⟩).1

/-- The cycles of reading a base, where `fetch` gives those of a register it depends on. -/
def baseCycles (base : BaseAddress)
    (fetch : ∀ d ∈ base.dependencies, Simulator → List BusCycle) (s : Simulator) : List BusCycle :=
  let low := fetch base.register base.register_mem s
  match h : base.upper with
  | some upper => low ++ fetch upper (BaseAddress.upper_mem h) (performAll low s)
  | none => low

def blockCycle (e : Engine) (s : Simulator) (base : BaseAddress) (offset : UInt64)
    (access : UInt64 → BusCycle) : List BusCycle :=
  match e.resolved s base with
  | .ok b => [access (b + offset)]
  | .error _ => []

/-- The cycles of reading a place. An uncore register is one dword, whatever width it declares. -/
def placeCycles (e : Engine) (s : Simulator) (width : AccessWidth) :
    (l : Location) → (∀ d ∈ l.baseDependencies, Simulator → List BusCycle) → List BusCycle
  | .pci l, _ => (configDwords l width).map .configRead
  | .mmio base offset, fetch =>
    baseCycles base fetch s ++ e.blockCycle s base offset (.memRead · width)
  | .memory address, _ => [.memRead address width]
  | .msr address, _ => [.msrRead address]
  | .port p, _ => [.portRead p width]
  | .csr address, _ => [.configRead (csrLocation address)]

def readCycles (e : Engine) (name : String) (s : Simulator) : List BusCycle :=
  match _h : e.store.get? name with
  | none => []
  | some r => e.placeCycles s r.width r.location fun d _hd => e.readCycles d
termination_by e.store.depth name
decreasing_by exact e.store.depth_lt _h _hd

def writeCycles (e : Engine) (name : String) (value : UInt64) (s : Simulator) : List BusCycle :=
  match e.store.get? name with
  | none => []
  | some r => match r.location with
    | .pci l => storeCycles (configStores s l r.width value)
    | .mmio base offset => baseCycles base (fun d _ => e.readCycles d) s ++
      e.blockCycle s base offset (.memWrite · r.width (value &&& r.width.mask))
    | .memory address => [.memWrite address r.width (value &&& r.width.mask)]
    | .msr address => [.msrWrite (Bus.servingThread s e.thread) address value]
    | .port p => [.portWrite p r.width (value.toUInt32 &&& r.width.mask.toUInt32)]
    | .csr address => storeCycles [(csrLocation address, value.toUInt32)]

variable {α : Type} {e : Engine}

theorem readCycles_eq (e : Engine) (name : String) (s : Simulator) :
    e.readCycles name s = match e.store.get? name with
      | none => []
      | some r => e.placeCycles s r.width r.location fun d _ => e.readCycles d := by
  rw [readCycles]
  split <;> rename_i h <;> rw [h]

theorem takes_readConfig (st : Session Simulator) (l : PciLocation) (width : AccessWidth) :
    Takes st (readConfig l width) ((configDwords l width).map .configRead) := by
  cases width with
  | qword =>
    refine (Bus.takes_readPci st l 4).bind fun _ st' _ _ => ?_
    exact (Bus.takes_readPci st' l.next 4).andThen fun _ _ => .pure _
  | _ => exact (Bus.takes_readPci st l _).andThen fun _ _ => .pure _

theorem takes_writeConfig (st : Session Simulator) (l : PciLocation) (width : AccessWidth)
    (value : UInt64) : Takes st (writeConfig l width value)
      (storeCycles (configStores st.platform l width value)) := by
  cases width with
  | qword =>
    refine (Bus.takes_writePci_whole st l value.toUInt32).bind fun _ st' _ _ => ?_
    exact (Bus.takes_writePci_whole st' l.next _).andThen fun _ _ => .pure _
  | _ => exact (Bus.takes_writePci st l _ _).andThen fun _ _ => .pure _

theorem resolved_eq (st : Session Simulator) (base : BaseAddress) :
    e.resolved st.platform base = ((e.resolveBase base).outcome st).1 :=
  (agree_resolveBase Bus.alike_self base ⟨st.platform, #[]⟩ st rfl).1

theorem takes_baseValue {base : BaseAddress}
    {fetch : ∀ d ∈ base.dependencies, Access Simulator UInt64}
    {cycles : ∀ d ∈ base.dependencies, Simulator → List BusCycle}
    (h : ∀ d hd st, Takes st (fetch d hd) (cycles d hd st.platform)) (st : Session Simulator) :
    Takes st (e.baseValue base fetch) (baseCycles base cycles st.platform) := by
  obtain ⟨register, field, upper⟩ := base
  have hhigh : ∀ (low : UInt64) u hu (st : Session Simulator), Takes st
      (do return joinAddress (← fetch u hu).toUInt32 low.toUInt32) (cycles u hu st.platform) :=
    fun _ u hu st => (h u hu st).andThen fun _ _ => .pure _
  cases upper with
  | none =>
    refine (h register _ st).andThen fun raw st' => ?_
    cases field with
    | none => exact .pure raw
    | some field => exact (Takes.ofExcept _).andThen fun _ _ => .pure _
  | some upper =>
    refine (h register _ st).bind fun raw st' _ hst => ?_
    rw [← hst]
    cases field with
    | none => exact hhigh raw upper _ st'
    | some field =>
      refine (Takes.ofExcept _).after fun low st'' hkept => ?_
      rw [← hkept]
      exact hhigh low upper _ st''

theorem takes_block (base : BaseAddress) (offset : UInt64)
    {access : UInt64 → Access Simulator α} {cycle : UInt64 → BusCycle}
    (h : ∀ d ∈ base.dependencies, ∀ st, Takes st (e.read d) (e.readCycles d st.platform))
    (haccess : ∀ address st, Takes st (access address) [cycle address]) (st : Session Simulator) :
    Takes st (do access ((← e.resolveBase base) + offset))
      (baseCycles base (fun d _ => e.readCycles d) st.platform ++
        e.blockCycle st.platform base offset cycle) := by
  refine (takes_baseValue h st).bind fun b st' hout _ => ?_
  have hresolved : e.resolved st.platform base = .ok b :=
    (resolved_eq st base).trans (congrArg Prod.fst hout)
  rw [blockCycle, hresolved]
  exact haccess (b + offset) st'

theorem takes_readPlace (thread : UInt32) (width : AccessWidth) (l : Location)
    (h : ∀ d ∈ l.baseDependencies, ∀ st, Takes st (e.read d) (e.readCycles d st.platform))
    (st : Session Simulator) :
    Takes st (e.readPlace thread width l fun d _ => e.readOn e.thread d)
      (e.placeCycles st.platform width l fun d _ => e.readCycles d) := by
  cases l with
  | pci l => exact takes_readConfig st l width
  | mmio base offset =>
    exact takes_block base offset h (fun address st => Bus.takes_readMmio st address width) st
  | memory address => exact Bus.takes_readMmio st address width
  | msr address => exact (Bus.takes_readMsr st thread address).andThen fun _ _ => .pure _
  | port p => exact (Bus.takes_readPort st p width).andThen fun _ _ => .pure _
  | csr address => exact (Bus.takes_readPci st _ 4).andThen fun _ _ => .pure _

theorem takes_readOn (thread : UInt32) (name : String) (st : Session Simulator) :
    Takes st (e.readOn thread name) (e.readCycles name st.platform) := by
  -- Along the bases of the store, whose registers are read before the access itself.
  induction name using e.store.wellFounded_dependsOn.induction generalizing thread st with
  | _ name ih =>
    rw [readOn_eq, readCycles_eq]
    cases hr : e.store.get? name with
    | none => exact .throw _
    | some r =>
      refine (takes_readPlace thread r.width r.location (fun d hd st => ?_) st).andThen
        fun _ _ => (Takes.append _).andThen fun _ _ => .pure _
      exact ih d ⟨r, hr, hd⟩ e.thread st

theorem takes_write (name : String) (value : UInt64) (st : Session Simulator) :
    Takes st (e.write name value) (e.writeCycles name value st.platform) := by
  unfold write writeCycles
  cases hr : e.store.get? name with
  | none =>
    rw [require_of_undefined hr, ofExcept_error_bind]
    exact .throw _
  | some r =>
    rw [require_of_get? hr, ofExcept_ok_bind]
    refine (Takes.append _).after fun _ st' hst => ?_
    rw [← hst]
    obtain ⟨name', location, width, desc, fields⟩ := r
    cases location with
    | pci l => exact (takes_writeConfig st' l width value).andThen fun _ _ => .pure _
    | mmio base offset =>
      have hwrite : ∀ address st, Takes st
          (do writeMemory address width value; return (none : Option UInt64))
          [.memWrite address width (value &&& width.mask)] := fun address st =>
        (Bus.takes_writeMmio st address width value).andThen fun _ _ => .pure _
      exact takes_block base offset (fun d _ st => takes_readOn e.thread d st) hwrite st'
    | memory address =>
      exact (Bus.takes_writeMmio st' address width value).andThen fun _ _ => .pure _
    | msr address =>
      have hwrite :=
        Bus.takes_writeMsr st' e.thread address value.toUInt32 (value >>> 32).toUInt32
      rw [joinAddress_halves] at hwrite
      exact hwrite.andThen fun _ _ => .pure _
    | port p => exact (Bus.takes_writePort st' p width _).andThen fun _ _ => .pure _
    | csr address => exact (Bus.takes_writePci_whole st' _ _).andThen fun _ _ => .pure _

section

variable {name : String} {r : Register} {base : BaseAddress} {offset : UInt64}
  {st : Session Simulator}

theorem ends_resolved (base : BaseAddress) (access : UInt64 → Access Simulator α)
    (st : Session Simulator) :
    Ends st (e.resolveBase base >>= access) fun _ _ => ∃ b, e.resolved st.platform base = .ok b :=
  Ends.bind (Ends.exact st (e.resolveBase base)) fun b _ hout _ _ =>
    ⟨b, (resolved_eq st base).trans (congrArg Prod.fst hout)⟩

theorem ends_read_resolved (hr : e.store.get? name = some r) (hl : r.location = .mmio base offset) :
    Ends st (e.read name) fun _ _ => ∃ b, e.resolved st.platform base = .ok b := by
  obtain ⟨name', location, width, desc, fields⟩ := r
  obtain rfl : location = .mmio base offset := hl
  rw [read, readOn_eq, hr]
  exact Ends.bind (ends_resolved base _ st) fun _ _ h _ _ => h

theorem ends_write_resolved (hr : e.store.get? name = some r)
    (hl : r.location = .mmio base offset) (value : UInt64) :
    Ends st (e.write name value) fun _ _ => ∃ b, e.resolved st.platform base = .ok b := by
  obtain ⟨name', location, width, desc, fields⟩ := r
  obtain rfl : location = .mmio base offset := hl
  unfold write
  rw [require_of_get? hr, ofExcept_ok_bind]
  intro previous hout
  exact ends_resolved base _ { st with journal := st.journal.push _ } previous hout

theorem blockCycle_of_resolved {s : Simulator} {b : UInt64} (h : e.resolved s base = .ok b)
    (offset : UInt64) (access : UInt64 → BusCycle) :
    e.blockCycle s base offset access = [access (b + offset)] := by
  rw [blockCycle, h]

theorem readCycles_mmio (hr : e.store.get? name = some r) (hl : r.location = .mmio base offset)
    {s : Simulator} {b : UInt64} (h : e.resolved s base = .ok b) :
    e.readCycles name s =
      baseCycles base (fun d _ => e.readCycles d) s ++ [.memRead (b + offset) r.width] := by
  obtain ⟨name', location, width, desc, fields⟩ := r
  obtain rfl : location = .mmio base offset := hl
  rw [readCycles_eq, hr]
  exact congrArg (_ ++ ·) (blockCycle_of_resolved h offset _)

theorem writeCycles_mmio (hr : e.store.get? name = some r) (hl : r.location = .mmio base offset)
    {s : Simulator} {b : UInt64} (h : e.resolved s base = .ok b) (value : UInt64) :
    e.writeCycles name value s = baseCycles base (fun d _ => e.readCycles d) s ++
      [.memWrite (b + offset) r.width (value &&& r.width.mask)] := by
  obtain ⟨name', location, width, desc, fields⟩ := r
  obtain rfl : location = .mmio base offset := hl
  rw [writeCycles, hr]
  exact congrArg (_ ++ ·) (blockCycle_of_resolved h offset _)

end

/-- The cycles of an access to a register are all that it does to the platform, in this order, and
it adds their transactions to the log. A memory block is reached once, after its base was read and
at the address that the base names. -/
theorem transactions_exact (e : Engine) (name : String) (st : Session Simulator) :
    let s := st.platform
    let logged := fun cycles : List BusCycle =>
      s.transactions ++ (cycles.flatMap transactions).toArray
    let located := fun (cycles : List BusCycle) (cycle : Register → UInt64 → BusCycle) =>
      ∀ r base offset, e.store.get? name = some r → r.location = .mmio base offset →
        ∃ b, e.resolved s base = .ok b ∧
          cycles = baseCycles base (fun d _ => e.readCycles d) s ++ [cycle r (b + offset)]
    (∀ value st', (e.read name).outcome st = (.ok value, st') →
      let cycles := e.readCycles name s
      st'.platform = performAll cycles s ∧ st'.platform.transactions = logged cycles ∧
      located cycles fun r address => .memRead address r.width) ∧
    ∀ value previous st', (e.write name value).outcome st = (.ok previous, st') →
      let cycles := e.writeCycles name value s
      st'.platform = performAll cycles s ∧ st'.platform.transactions = logged cycles ∧
      located cycles fun r address => .memWrite address r.width (value &&& r.width.mask) := by
  intro s logged located
  refine ⟨fun value st' hout => ?_, fun value previous st' hout => ?_⟩
  · have hst := takes_readOn e.thread name st value (congrArg Prod.fst hout)
    rw [show (e.readOn e.thread name).outcome st = _ from hout] at hst
    refine ⟨hst, (congrArg Simulator.transactions hst).trans (transactions_performAll _ _),
      fun r base offset hr hl => ?_⟩
    obtain ⟨b, hb⟩ := ends_read_resolved hr hl value (congrArg Prod.fst hout)
    exact ⟨b, hb, readCycles_mmio hr hl hb⟩
  · have hst := takes_write name value st previous (congrArg Prod.fst hout)
    rw [hout] at hst
    refine ⟨hst, (congrArg Simulator.transactions hst).trans (transactions_performAll _ _),
      fun r base offset hr hl => ?_⟩
    obtain ⟨b, hb⟩ := ends_write_resolved hr hl value previous (congrArg Prod.fst hout)
    exact ⟨b, hb, writeCycles_mmio hr hl hb value⟩

def chainBase : BaseAddress := ⟨"LOW", none, some "HIGH"⟩

/-- A block whose base is held in config space and, for its upper half, in a block of its own, which
a port locates. -/
def chainRegisters : List Register :=
  [.pci "LOW" 0 2 0 0x10 .dword "" [], .port "INDEX" 0x500 .byte "",
    .mmio "HIGH" ⟨"INDEX", none, none⟩ 0x100 .dword "" [],
    .mmio "BLOCK" chainBase 4 .qword "" []]

def chainPlatform : Simulator :=
  (((Simulator.ofThreads 1).populate ⟨0, 2, 0, 0x10⟩ 0x1000).setPorts 0x500 [0x20]).load 0x120
    [1, 0, 0, 0]

section

variable {s : Store}

/-- The port has 0x20, at 0x120 the upper half is 1, and the lower half is 0x1000. -/
theorem chain_resolves (hs : Store.build "chain" [chainRegisters] = .ok s) :
    let e : Engine := ⟨s, 0⟩
    Yields chainPlatform (e.resolveBase ⟨"INDEX", none, none⟩) (.ok 0x20) ∧
      Yields chainPlatform (e.resolveBase chainBase) (.ok 0x100001000) := by
  intro e
  have hlow : e.value chainPlatform "LOW" = .ok 0x1000 :=
    (value_pci (Store.get?_of_build hs "LOW") rfl chainPlatform).trans (by decide)
  have hindex : e.value chainPlatform "INDEX" = .ok 0x20 :=
    (value_port (Store.get?_of_build hs "INDEX") rfl chainPlatform).trans (by decide)
  have hinner : (e.baseOn ⟨"INDEX", none, none⟩ fun d _ => e.value chainPlatform d) =
      .ok 0x20 := by
    rw [baseOn, hindex]
    rfl
  have hhigh : e.value chainPlatform "HIGH" = .ok 1 := by
    rw [value_mmio (Store.get?_of_build hs "HIGH") rfl, hinner]
    decide
  have houter : (e.baseOn chainBase fun d _ => e.value chainPlatform d) = .ok 0x100001000 := by
    rw [baseOn, chainBase, hlow]
    change (do return joinAddress (← e.value chainPlatform "HIGH").toUInt32 0x1000) = _
    rw [hhigh]
    rfl
  have hports := Store.avoidsConfigPorts_of_build hs (by decide)
  rw [← hinner, ← houter]
  exact ⟨yields_resolveBase chainPlatform fun d _ => hports d,
    yields_resolveBase chainPlatform fun d _ => hports d⟩

theorem baseCycles_chain (hs : Store.build "chain" [chainRegisters] = .ok s) :
    baseCycles chainBase (fun d _ => (⟨s, 0⟩ : Engine).readCycles d) chainPlatform =
      [.configRead ⟨0, 2, 0, 0x10⟩, .portRead 0x500 .byte, .memRead 0x120 .dword] := by
  have hlow : ∀ t, (⟨s, 0⟩ : Engine).readCycles "LOW" t = [.configRead ⟨0, 2, 0, 0x10⟩] := by
    intro t
    rw [readCycles_eq, Store.get?_of_build hs "LOW"]
    rfl
  have hindex : ∀ t, (⟨s, 0⟩ : Engine).readCycles "INDEX" t = [.portRead 0x500 .byte] := by
    intro t
    rw [readCycles_eq, Store.get?_of_build hs "INDEX"]
    rfl
  have hhigh : ∀ t, chainPlatform.Undisturbed t → (⟨s, 0⟩ : Engine).readCycles "HIGH" t =
      [.portRead 0x500 .byte, .memRead 0x120 .dword] := by
    intro t ht
    have hresolved := ((chain_resolves hs).1 ⟨t, #[]⟩ ht).1
    rw [readCycles_mmio (Store.get?_of_build hs "HIGH") rfl hresolved, baseCycles, hindex]
    rfl
  have hread := (Simulator.Undisturbed.select chainPlatform ⟨0, 2, 0, 0x10⟩).trans
    (.portIn _ ConfigAddress.dataPort .dword)
  rw [baseCycles, chainBase, hlow]
  exact congrArg (_ :: ·) (hhigh _ hread)

end

theorem transactions_exact_chain : ∃ s, Store.build "chain" [chainRegisters] = .ok s ∧
    let e : Engine := ⟨s, 0⟩
    let st : Session Simulator := ⟨chainPlatform, #[]⟩
    let led : Array Transaction :=
      #[⟨.portRead, 0xCF8, .dword⟩, ⟨.portWrite, 0xCF8, .dword⟩, ⟨.portRead, 0xCFC, .dword⟩,
        ⟨.portRead, 0x500, .byte⟩, ⟨.memRead, 0x120, .dword⟩]
    (∃ value st', (e.read "BLOCK").outcome st = (.ok value, st') ∧
      st'.platform.transactions = led.push ⟨.memRead, 0x100001004, .qword⟩) ∧
    ∃ previous st', (e.write "BLOCK" 7).outcome st = (.ok previous, st') ∧
      st'.platform.transactions = led.push ⟨.memWrite, 0x100001004, .qword⟩ := by
  have hbuild : (Store.build "chain" [chainRegisters]).isOk = true := by decide +kernel
  obtain ⟨s, hs⟩ := exists_eq_ok_of_isOk hbuild
  have hblock := Store.get?_of_build hs "BLOCK"
  obtain ⟨-, hbase⟩ := chain_resolves hs
  refine ⟨s, hs, ?_⟩
  intro e st led
  have hread : ((e.read "BLOCK").outcome st).1 = .ok 0xFFFFFFFFFFFFFFFF :=
    (yields_read_mmio hblock rfl hbase st (.refl _)).1.trans (by decide)
  have hwrite := (leads_write_mmio hblock rfl hbase (by decide) 7 st (.refl _)).1
  have hresolved := (hbase ⟨chainPlatform, #[]⟩ (.refl _)).1
  obtain ⟨hreads, hwrites⟩ := transactions_exact e "BLOCK" st
  refine ⟨⟨_, _, Prod.ext hread rfl, ?_⟩, _, _, Prod.ext hwrite rfl, ?_⟩
  · rw [(hreads _ _ (Prod.ext hread rfl)).2.1, readCycles_mmio hblock rfl hresolved,
      baseCycles_chain hs]
    rfl
  · rw [(hwrites 7 _ _ (Prod.ext hwrite rfl)).2.1, writeCycles_mmio hblock rfl hresolved,
      baseCycles_chain hs]
    rfl

end Engine

end Lockdown

import Lockdown.Bus.Basic
import Lockdown.Bytes
import Lockdown.Field
/-!
A platform held as one value. Memory, ports, config dwords, model-specific registers and
identification leaves are total maps, so that what nobody set reads as an unclaimed cycle does:
all ones on the buses, zero inside the processor. Every transaction is appended to a log.
-/
namespace Lockdown

inductive TransactionKind where
  | memRead
  | memWrite
  | portRead
  | portWrite
  | msrRead
  | msrWrite
  | crRead
  | crWrite
  | cpuid
  deriving DecidableEq, Repr

/-- `address` is an address, port, register number or leaf. -/
structure Transaction where
  kind : TransactionKind
  address : UInt64
  width : AccessWidth
  deriving DecidableEq, Repr

structure LogicalThread where
  enabled : Bool
  msrs : UInt32 → UInt64
  control : Vector UInt64 9

/-- A dword written at `request` masks its low half with its high half; the masked bits appear in
the low half of `ack`. -/
structure MaskedAck where
  request : UInt64
  ack : UInt64
  deriving DecidableEq, Repr

structure Simulator where
  threads : Array LogicalThread
  /-- By leaf and subleaf. -/
  cpuid : UInt32 → UInt32 → CpuidRegisters
  latch : UInt32
  /-- By dword; a location that is no dword's is never looked up. -/
  config : PciLocation → UInt32
  ports : UInt16 → UInt8
  memory : UInt64 → UInt8
  acks : List MaskedAck
  transactions : Array Transaction

/-- A byte map with `bytes` written from the point where `offset` is zero. -/
def overlay {ι : Type} (m : ι → UInt8) (offset : ι → Nat) (bytes : Array UInt8) : ι → UInt8 :=
  fun i => (bytes[offset i]?).getD (m i)

namespace LogicalThread

def idle : LogicalThread := ⟨true, fun _ => 0, Vector.replicate 9 0⟩

def setMsr (t : LogicalThread) (address : UInt32) (value : UInt64) : LogicalThread :=
  { t with msrs := fun a => if a = address then value else t.msrs a }

/-- Zero where there is no such register. -/
def cr (t : LogicalThread) (n : UInt32) : UInt64 := (t.control[n.toNat]?).getD 0

def setCr (t : LogicalThread) (n : UInt32) (value : UInt64) : LogicalThread :=
  { t with control := t.control.setIfInBounds n.toNat value }

end LogicalThread

namespace Simulator

def ofThreads (n : Nat) : Simulator where
  threads := Array.replicate n .idle
  cpuid := fun _ _ => ⟨0, 0, 0, 0⟩
  latch := 0
  config := fun _ => 0xFFFFFFFF
  ports := fun _ => 0xFF
  memory := fun _ => 0xFF
  acks := []
  transactions := #[]

def record (s : Simulator) (kind : TransactionKind) (address : UInt64) (width : AccessWidth) :
    Simulator :=
  { s with transactions := s.transactions.push ⟨kind, address, width⟩ }

def setDword (s : Simulator) (l : PciLocation) (value : UInt32) : Simulator :=
  { s with config := fun k => if k = l then value else s.config k }

/-- The function is taken as given and the offset rounded down to a dword. -/
def populate (s : Simulator) (l : PciLocation) (value : UInt32) : Simulator :=
  s.setDword { l with offset := l.offset &&& 0xFC } value

def selected? (s : Simulator) : Option PciLocation := (ConfigAddress.decode s.latch).selected?

/-- The dword behind the data window; all ones while the latch is disabled. -/
def windowDword (s : Simulator) : UInt32 :=
  match s.selected? with
  | some l => s.config l
  | none => 0xFFFFFFFF

def isWindow (port : UInt16) : Bool := 0xCFC ≤ port && port ≤ 0xCFF

def windowShift (port : UInt16) : UInt32 := (port - ConfigAddress.dataPort).toUInt32 * 8

def isLatch (port : UInt16) (width : AccessWidth) : Bool :=
  port = ConfigAddress.port && width = .dword

def portBytes (s : Simulator) (port : UInt16) (n : Nat) : List UInt8 :=
  (List.range n).map fun i => s.ports (port + UInt16.ofNat i)

def setPorts (s : Simulator) (port : UInt16) (bytes : List UInt8) : Simulator :=
  { s with ports := overlay s.ports (fun p => (p - port).toNat) bytes.toArray }

def portValue (s : Simulator) (port : UInt16) (width : AccessWidth) : UInt32 :=
  let value :=
    if isLatch port width then s.latch
    else if isWindow port then s.windowDword >>> windowShift port
    else (ofBytesLE (s.portBytes port width.bytes)).toUInt32
  value &&& width.mask.toUInt32

def portIn (s : Simulator) (port : UInt16) (width : AccessWidth) : UInt32 × Simulator :=
  (s.portValue port width, s.record .portRead port.toUInt64 width)

def setPort (s : Simulator) (port : UInt16) (width : AccessWidth) (value : UInt32) : Simulator :=
  if isLatch port width then { s with latch := value }
  else if isWindow port then
    match s.selected? with
    | some l =>
      let mask := width.mask.toUInt32 <<< windowShift port
      s.setDword l ((s.config l &&& ~~~mask) ||| ((value <<< windowShift port) &&& mask))
    | none => s
  else s.setPorts port (bytesLE width.bytes value.toUInt64)

def portOut (s : Simulator) (port : UInt16) (width : AccessWidth) (value : UInt32) : Simulator :=
  (s.record .portWrite port.toUInt64 width).setPort port width value

def select (s : Simulator) (l : PciLocation) : Simulator :=
  let (previous, s) := s.portIn ConfigAddress.port .dword
  s.portOut ConfigAddress.port .dword (ConfigAddress.forCycle previous l).encode

def bytesAt (s : Simulator) (address : UInt64) (n : Nat) : List UInt8 :=
  (List.range n).map fun i => s.memory (address + UInt64.ofNat i)

def load (s : Simulator) (address : UInt64) (bytes : List UInt8) : Simulator :=
  { s with memory := overlay s.memory (fun a => (a - address).toNat) bytes.toArray }

def peek (s : Simulator) (address : UInt64) (width : AccessWidth) : UInt64 :=
  ofBytesLE (s.bytesAt address width.bytes)

def poke (s : Simulator) (address : UInt64) (width : AccessWidth) (value : UInt64) : Simulator :=
  s.load address (bytesLE width.bytes value)

def acknowledge (value : UInt64) (s : Simulator) (ack : UInt64) : Simulator :=
  let mask := (value >>> 16) &&& 0xFFFF
  s.poke ack .dword ((s.peek ack .dword &&& ~~~mask) ||| (value &&& mask))

def triggered (s : Simulator) (address : UInt64) (width : AccessWidth) : List UInt64 :=
  if width = .dword then (s.acks.filter fun h => h.request = address).map (·.ack) else []

def memIn (s : Simulator) (address : UInt64) (width : AccessWidth) : UInt64 × Simulator :=
  (s.peek address width, s.record .memRead address width)

def memOut (s : Simulator) (address : UInt64) (width : AccessWidth) (value : UInt64) : Simulator :=
  (s.triggered address width).foldl (acknowledge value)
    ((s.record .memWrite address width).poke address width value)

def thread? (s : Simulator) (t : UInt32) : Option LogicalThread := s.threads[t.toNat]?

def modifyThread (s : Simulator) (t : UInt32) (f : LogicalThread → LogicalThread) : Simulator :=
  { s with threads := s.threads.modify t.toNat f }

def msr (s : Simulator) (t address : UInt32) : UInt64 :=
  match s.thread? t with
  | some thread => thread.msrs address
  | none => 0

def setMsr (s : Simulator) (t address : UInt32) (value : UInt64) : Simulator :=
  s.modifyThread t fun thread => thread.setMsr address value

def cr (s : Simulator) (t n : UInt32) : UInt64 :=
  match s.thread? t with
  | some thread => thread.cr n
  | none => 0

def setCr (s : Simulator) (t n : UInt32) (value : UInt64) : Simulator :=
  s.modifyThread t fun thread => thread.setCr n value

def setEnabled (s : Simulator) (t : UInt32) (enabled : Bool) : Simulator :=
  s.modifyThread t fun thread => { thread with enabled }

def setCpuid (s : Simulator) (leaf subleaf : UInt32) (r : CpuidRegisters) : Simulator :=
  { s with cpuid := fun l n => if l = leaf ∧ n = subleaf then r else s.cpuid l n }

def addAck (s : Simulator) (request ack : UInt64) : Simulator :=
  { s with acks := s.acks ++ [⟨request, ack⟩] }

def isEnabled (s : Simulator) (t : UInt32) : Bool :=
  match s.thread? t with
  | some thread => thread.enabled
  | none => false

/-- A transaction that looks at the platform without changing what it looks at. -/
def query {α : Type} (kind : TransactionKind) (address : UInt64) (width : AccessWidth)
    (f : Simulator → α) : Access Simulator α :=
  Access.step fun s => (f s, s.record kind address width)

def command (kind : TransactionKind) (address : UInt64) (width : AccessWidth)
    (f : Simulator → Simulator) : Access Simulator Unit :=
  Access.update fun s => f (s.record kind address width)

instance : Bus Simulator where
  name := "simulator"
  pciReadDword l := Access.step fun s => (s.select l).portIn ConfigAddress.dataPort .dword
  pciWriteDword l value :=
    Access.update fun s => (s.select l).portOut ConfigAddress.dataPort .dword value
  memRead address width := Access.step fun s => s.memIn address width
  memWrite address width value := Access.update fun s => s.memOut address width value
  portRead port width := Access.step fun s => s.portIn port width
  portWrite port width value := Access.update fun s => s.portOut port width value
  msrRead t address := query .msrRead address.toUInt64 .qword fun s => s.msr t address
  msrWrite t address value :=
    command .msrWrite address.toUInt64 .qword fun s => s.setMsr t address value
  crRead t n := query .crRead n.toUInt64 .qword fun s => s.cr t n
  crWrite t n value := command .crWrite n.toUInt64 .qword fun s => s.setCr t n value
  cpuidOn _ leaf subleaf := query .cpuid leaf.toUInt64 .dword fun s => s.cpuid leaf subleaf
  threadCount s := UInt32.ofNat s.threads.size
  threadEnabled s t := s.isEnabled t

end Simulator

end Lockdown

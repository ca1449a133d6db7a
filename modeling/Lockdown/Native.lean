import Lockdown.Bus.Basic
import Lockdown.Files.DeviceNode
import Lockdown.Native.CpuList
/-!
The platform behind device files below a root directory. Nodes are opened at first use and kept
open. A PCI function without a node floats: it reads as all ones and drops writes.
-/
namespace Lockdown

open Text

structure Native where
  root : String
  online : List UInt32
  possible : UInt32
  files : Filesystem
  msrNodes : List (UInt32 × DeviceNode)
  /-- By function, at offset zero. -/
  pciNodes : List (PciLocation × DeviceNode)
  memNode : Option DeviceNode
  portNode : Option DeviceNode
  /-- What the processor underneath answers to a leaf and subleaf. -/
  processor : UInt32 → UInt32 → CpuidRegisters

namespace Native

def cpuSetSize : UInt32 := 1024

def cpuList? (files : Filesystem) (root name : String) : Option (List UInt32) :=
  let path := joinPath (joinPath root "sys/devices/system/cpu") name
  (files.readText path).toOption.bind parseCpuList?

def countOf? (cpus : List UInt32) : Option UInt32 := cpus.max?.map (· + 1)

/-- Find out which processors there are. Without a list of those online only the first is. -/
def attach (files : Filesystem) (root : String) (processor : UInt32 → UInt32 → CpuidRegisters) :
    Session Native :=
  let found := cpuList? files root "online"
  let online := found.getD [0]
  let possible := ((cpuList? files root "possible").bind countOf?).getD ((countOf? online).getD 1)
  let warning : List LogLine := match found with
    | some _ => []
    | none => [⟨.warn, .native, "Failed to detect online CPUs, assuming CPU 0 only"⟩]
  let threads := s!"{online.length} of {possible} threads online"
  let summary : LogLine := ⟨.info, .native, s!"Native backend rooted at {root}: {threads}"⟩
  { platform :=
      { root, online, possible, files, msrNodes := [], pciNodes := [], memNode := none
        portNode := none, processor }
    journal := (warning ++ [summary]).toArray }

def onFiles {α : Type} (f : Filesystem → Except DeviceError α) : Access Native α := do
  let s ← Access.observe id
  Access.ofExcept ((f s.files).mapError .device)

def change (f : Filesystem → Except DeviceError Filesystem) : Access Native Unit := do
  let files ← onFiles f
  Access.update fun s => { s with files }

/-- The node that is already open, or else open it and keep it. -/
def keptNode (kept : Native → Option DeviceNode) (path : Native → String) (announce : Bool)
    (keep : DeviceNode → Native → Native) : Access Native DeviceNode := do
  let s ← Access.observe id
  match kept s with
  | some node => return node
  | none =>
    let node ← onFiles fun files => files.openNode (path s)
    if announce then Journal.debug .native s!"Opened {node.path}"
    Access.update (keep node)
    return node

def msrNode (t : UInt32) : Access Native DeviceNode :=
  keptNode (fun s => s.msrNodes.lookup t) (fun s => msrPath s.root t) true
    fun node s => { s with msrNodes := (t, node) :: s.msrNodes }

/-- `none` when there is no such function. -/
def pciNode? (l : PciLocation) : Access Native (Option DeviceNode) := do
  let key := { l.dword with offset := 0 }
  let opened := keptNode (fun s => s.pciNodes.lookup key) (fun s => pciPath s.root l) true
    fun node s => { s with pciNodes := (key, node) :: s.pciNodes }
  tryCatch (some <$> opened) fun
    | .device (.openFailed _ .notFound) => return none
    | e => throw e

def mem : Access Native DeviceNode :=
  keptNode (·.memNode) (fun s => memPath s.root) false
    fun node s => { s with memNode := some node }

def port : Access Native DeviceNode :=
  keptNode (·.portNode) (fun s => portPath s.root) false
    fun node s => { s with portNode := some node }

def nodeOffset (l : PciLocation) : UInt64 := (l.offset &&& 0xFC).toUInt64

def readConfig (l : PciLocation) : Access Native UInt32 := do
  match ← pciNode? l with
  | some node => return (← onFiles fun fs => fs.readUInt node (nodeOffset l) .dword).toUInt32
  | none => return 0xFFFFFFFF

def writeConfig (l : PciLocation) (value : UInt32) : Access Native Unit := do
  match ← pciNode? l with
  | some node => change fun fs => fs.writeUInt node (nodeOffset l) .dword value.toUInt64
  | none =>
    Journal.warn .native (s!"PCI write to absent device {hexPadded 2 l.bus.toNat}:" ++
      s!"{hexPadded 2 l.device.toNat}.{hex l.function.toNat} dropped")

def readNode (node : Access Native DeviceNode) (offset : UInt64) (width : AccessWidth) :
    Access Native UInt64 := do
  let n ← node
  onFiles fun fs => fs.readUInt n offset width

def writeNode (node : Access Native DeviceNode) (offset : UInt64) (width : AccessWidth)
    (value : UInt64) : Access Native Unit := do
  let n ← node
  change fun fs => fs.writeUInt n offset width value

def noControlRegisters {α : Type} : Access Native α :=
  throw (.unsupported "control register access")

def cpuidOn (t leaf subleaf : UInt32) : Access Native CpuidRegisters := do
  if cpuSetSize ≤ t then throw (.invalidCpu t)
  Access.observe fun s => s.processor leaf subleaf

def acpiTable (signature : String) : Act Native (Option (List UInt8)) := do
  let s ← Act.observe id
  let path := joinPath (joinPath s.root "sys/firmware/acpi/tables") signature
  match s.files.readBytes path with
  | .ok table => return some table
  | .error e =>
    Journal.error .native s!"Failed to read ACPI table {path}: {e.message}"
    return none

instance : Bus Native where
  name := "native"
  pciReadDword := readConfig
  pciWriteDword := writeConfig
  memRead address width := readNode mem address width
  memWrite address width value := writeNode mem address width value
  portRead p width := return (← readNode port p.toUInt64 width).toUInt32
  portWrite p width value := writeNode port p.toUInt64 width value.toUInt64
  msrRead t address := readNode (msrNode t) address.toUInt64 .qword
  msrWrite t address value := writeNode (msrNode t) address.toUInt64 .qword value
  crRead _ _ := noControlRegisters
  crWrite _ _ _ := noControlRegisters
  cpuidOn := cpuidOn
  threadCount s := s.possible
  threadEnabled s t := s.online.contains t
  efiSupported s := s.files.isDirectory (joinPath s.root "sys/firmware/efi")
  acpiTable := acpiTable

end Native

end Lockdown

import Lockdown.Access
import Lockdown.Files.DeviceNode
import Lockdown.Poll
import Lockdown.Register.Json
import Lockdown.Settings.SocketAddress
/-! What a scan is told to do, and the files that say so. -/
namespace Lockdown

inductive BackendKind where
  | native
  | simulator
  deriving DecidableEq, Repr

structure Settings where
  backend : BackendKind
  /-- A chipset to take without looking. -/
  chipset : Option String
  /-- Checks to run; none means all. -/
  modules : List String
  thread : UInt32
  poll : PollPolicy
  /-- Where the counters are wanted; the library only keeps the address. -/
  listen : Option SocketAddress
  /-- Directory above the device files. -/
  root : String
  /-- File with a site's own registers. -/
  definitions : Option String
  deriving DecidableEq, Repr

namespace BackendKind

def ofName? (name : String) : Option BackendKind :=
  if name = "native" then some native else if name = "sim" then some simulator else none

def ofJson? : Json → Option BackendKind
  | .string s => s.bind ofName?
  | .object [(name, .null)] => name.bind ofName?
  | _ => none

end BackendKind

namespace Settings

def rootVariable : String := "LOCKPROBE_ROOT"

def namedRoot? (value : Option String) : Option String := value.filter (!·.isEmpty)

def standard (root : Option String) : Settings where
  backend := .native
  chipset := none
  modules := []
  thread := 0
  poll := .standard
  listen := none
  root := (namedRoot? root).getD "/"
  definitions := none

def keys : List String :=
  ["backend", "chipset", "modules", "thread", "poll", "listen", "root", "definitions"]

/-- Absent keys keep what `base` has; there are no others. -/
def ofJson? (base : Settings) (j : Json) : Option Settings := do
  let fs ← Json.exactFields? keys j
  some {
    backend := ← fs.orElse? "backend" base.backend BackendKind.ofJson?
    chipset := ← fs.orElse? "chipset" base.chipset (Json.nullable? Json.string?)
    modules := ← fs.orElse? "modules" base.modules (Json.list? Json.string?)
    thread := ← fs.orElse? "thread" base.thread Json.uint32?
    poll := ← fs.orElse? "poll" base.poll PollPolicy.ofJson?
    listen := ← fs.orElse? "listen" base.listen
      (Json.nullable? fun j => j.string?.bind SocketAddress.parse?)
    root := ← fs.orElse? "root" base.root Json.string?
    definitions := ← fs.orElse? "definitions" base.definitions (Json.nullable? Json.string?) }

variable {σ : Type}

def announceRoot (root : Option String) : Access σ Unit :=
  match namedRoot? root with
  | some r => Journal.info .settings s!"Using device root {r} from {rootVariable}"
  | none => pure ()

def byDefault (root : Option String) : Access σ Settings := do
  announceRoot root
  return standard root

/-- Defaults are made up, and the root announced, before the first item of an array and after the
last member of an object. -/
def decode (root : Option String) (text : String) : Access σ (Option Settings) := do
  let s := Json.skipBlank text.toList
  let isArray := s.head? = some '['
  if isArray then announceRoot root
  match Json.readFirst? s with
  | none => return none
  | some (j, rest) =>
    match ofJson? (standard root) j with
    | none => return none
    | some settings =>
      if !isArray then announceRoot root
      return if (Json.skipBlank rest).isEmpty then some settings else none

def readDocument (document : Document) (files : Filesystem) (path : String) : Access σ String :=
  Access.ofExcept ((files.readText path).mapError (.unreadableDocument document path))

def load (files : Filesystem) (root : Option String) (path : String) : Access σ Settings := do
  match ← decode root (← readDocument .settings files path) with
  | none => throw (.malformedDocument .settings path)
  | some settings =>
    Journal.info .settings s!"Loaded configuration from {path}"
    return settings

def loadDefinitions (s : Settings) (files : Filesystem) : Access σ (List Register) := do
  match s.definitions with
  | none => return []
  | some path =>
    match Register.readList? (← readDocument .definitions files path) with
    | none => throw (.malformedDocument .definitions path)
    | some registers =>
      Journal.info .settings s!"Loaded {registers.length} register definitions from {path}"
      return registers

def msrDevice (s : Settings) : String := msrPath s.root s.thread

end Settings

end Lockdown

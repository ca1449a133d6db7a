import Lockdown.Settings
import Lockdown.Text.Unsigned
/-!
The words of a command line. An option stands once, except that checks may be named many times;
its value is the next word or follows an equals sign.
-/
namespace Lockdown.CommandLine

open Text

structure Options where
  config : Option String
  backend : Option BackendKind
  chipset : Option String
  modules : List String
  thread : Option UInt32
  pollAttempts : Option UInt32
  pollInterval : Option UInt64
  listen : Option SocketAddress
  definitions : Option String
  listRegisters : Bool
  verbose : Bool
  deriving DecidableEq, Repr

def Options.blank : Options where
  config := none
  backend := none
  chipset := none
  modules := []
  thread := none
  pollAttempts := none
  pollInterval := none
  listen := none
  definitions := none
  listRegisters := false
  verbose := false

inductive UsageError where
  | unexpected (word : String)
  | repeated (option : String)
  | missingValue (option : String)
  | invalidValue (option value : String)
  deriving DecidableEq, Repr

def UsageError.message : UsageError → String
  | unexpected word => s!"unexpected argument '{word}' found"
  | repeated option => s!"the argument '{option}' cannot be used multiple times"
  | missingValue option => s!"a value is required for '{option}' but none was supplied"
  | invalidValue option value => s!"invalid value '{value}' for '{option}'"

inductive Request where
  | scan (options : Options)
  | help
  deriving DecidableEq, Repr

/-- A sign is allowed; a minus sign leaves only zero. -/
def word32? (s : String) : Option UInt32 :=
  match s.toList with
  | '-' :: ds => (digits? ds).bind fun n => if n = 0 then some 0 else none
  | cs => (unsignedBelow? UInt32.size cs).map UInt32.ofNat

def word64? (s : String) : Option UInt64 := (unsignedBelow? UInt64.size s.toList).map UInt64.ofNat

def path? (s : String) : Option String := if s.isEmpty then none else some s

structure ValueOption where
  word : String
  meaning : String
  /-- Was it given, so that it must not come again? -/
  given : Options → Bool
  set? : String → Options → Option Options

def valueOptions : List ValueOption := [
  ⟨"--config", "JSON config file; command line options override its values", (·.config.isSome),
    fun v o => (path? v).map ({ o with config := some · })⟩,
  ⟨"--backend", "Hardware access backend [default: native]", (·.backend.isSome),
    fun v o => (BackendKind.ofName? v).map ({ o with backend := some · })⟩,
  ⟨"--chipset", "Force a chipset code (e.g. cfl, avn) instead of detecting it", (·.chipset.isSome),
    fun v o => some { o with chipset := some v }⟩,
  ⟨"--module", "Module to run (can be specified multiple times, defaults to all)", fun _ => false,
    fun v o => some { o with modules := o.modules ++ [v] }⟩,
  ⟨"--thread", "Logical thread used for MSR registers [default: 0]", (·.thread.isSome),
    fun v o => (word32? v).map ({ o with thread := some · })⟩,
  ⟨"--poll-attempts", "Attempts before a hardware handshake is reported as not ready",
    (·.pollAttempts.isSome), fun v o => (word32? v).map ({ o with pollAttempts := some · })⟩,
  ⟨"--poll-interval-ms", "Sleep between handshake attempts in milliseconds",
    (·.pollInterval.isSome), fun v o => (word64? v).map ({ o with pollInterval := some · })⟩,
  ⟨"--listen", "Serve scan results on /metrics at this address after the scan", (·.listen.isSome),
    fun v o => (SocketAddress.parse? v).map ({ o with listen := some · })⟩,
  ⟨"--definitions", "JSON array of register definitions layered over the chipset's",
    (·.definitions.isSome), fun v o => (path? v).map ({ o with definitions := some · })⟩]

structure Flag where
  word : String
  /-- One letter after one dash. -/
  letter : Option Char
  meaning : String
  given : Options → Bool
  set : Options → Options

def flags : List Flag := [
  ⟨"--list-registers", none, "Print every register defined for the chipset and exit",
    (·.listRegisters), fun o => { o with listRegisters := true }⟩,
  ⟨"--verbose", some 'v', "Enable verbose logging (shows every register read/write)",
    (·.verbose), fun o => { o with verbose := true }⟩]

def helpLine (word meaning : String) : String := s!"  {leftIn 20 word} {meaning}"

def help : List String :=
  ["Platform lockdown checks for Intel chipsets", "", "Usage: lockprobe [OPTIONS]", "",
    "Options:"] ++
    (valueOptions.map fun o => helpLine o.word o.meaning) ++
    (flags.map fun f => helpLine f.word f.meaning) ++ [helpLine "--help" "Print help"]

def Flag.apply (f : Flag) (o : Options) : Except UsageError Options :=
  if f.given o then .error (.repeated f.word) else .ok (f.set o)

def ValueOption.apply (v : ValueOption) (value : String) (o : Options) :
    Except UsageError Options :=
  if v.given o then .error (.repeated v.word)
  else match v.set? value o with
    | some o => .ok o
    | none => .error (.invalidValue v.word value)

/-- A word that could be a value: it begins with no dash, or is one. -/
def isPlain (word : String) : Bool := !word.startsWith "-" || word = "-"

def splitWord (word : String) : String × Option String :=
  match word.toList.span (· ≠ '=') with
  | (name, _ :: value) => (String.ofList name, some (String.ofList value))
  | (name, []) => (String.ofList name, none)

/-- Letters after one dash; `none` when help is asked for. -/
def letters (word : String) : List Char → Options → Except UsageError (Option Options)
  | [], o => .ok (some o)
  | c :: cs, o =>
    if c = 'h' then .ok none
    else match flags.find? (·.letter = some c) with
      | some f => do letters word cs (← f.apply o)
      | none => .error (.unexpected word)

/-- Go through the words; the first wrong one ends it, and so does asking for help. -/
def readWords (o : Options) : List String → Except UsageError Request
  | [] => .ok (.scan o)
  | word :: rest =>
    if word = "--" then
      match rest with
      | [] => .ok (.scan o)
      | extra :: _ => .error (.unexpected extra)
    else if word.startsWith "--" then
      let (name, value) := splitWord word
      match valueOptions.find? (·.word = name), value with
      | some v, some value =>
        match v.apply value o with
        | .ok o => readWords o rest
        | .error e => .error e
      | some v, none =>
        match rest with
        | [] => .error (.missingValue name)
        | value :: rest =>
          if isPlain value then
            match v.apply value o with
            | .ok o => readWords o rest
            | .error e => .error e
          else .error (.missingValue name)
      | none, some _ => .error (.unexpected word)
      | none, none =>
        if word = "--help" then .ok .help
        else match flags.find? (·.word = word) with
          | some f =>
            match f.apply o with
            | .ok o => readWords o rest
            | .error e => .error e
          | none => .error (.unexpected word)
    else if isPlain word then .error (.unexpected word)
    else match letters word (word.toList.drop 1) o with
      | .ok (some o) => readWords o rest
      | .ok none => .ok .help
      | .error e => .error e

def read (words : List String) : Except UsageError Request := readWords .blank words

def Options.over (o : Options) (base : Settings) : Settings :=
  { base with
    backend := o.backend.getD base.backend
    chipset := o.chipset <|> base.chipset
    modules := if o.modules.isEmpty then base.modules else o.modules
    thread := o.thread.getD base.thread
    poll := ⟨o.pollAttempts.getD base.poll.attempts, o.pollInterval.getD base.poll.interval⟩
    listen := o.listen <|> base.listen
    definitions := o.definitions <|> base.definitions }

end Lockdown.CommandLine

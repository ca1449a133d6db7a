import Lockdown.CommandLine
import Lockdown.CommandLine.Inputs
/-! The program: copy the files that a run may look into, run, write back, print. -/
namespace Lockdown.Main

open CommandLine

def logVariable : String := "LOCKPROBE_LOG"

def copyFile (files : Filesystem) (path : String) : IO Filesystem := do
  try return files.addFile path (.ofArray (← IO.FS.readBinFile path).data)
  catch _ => return files

def copyFiles (files : Filesystem) (paths : List String) : IO Filesystem :=
  paths.foldlM copyFile files

def quietly {α : Type} (x : Access Unit α) : Option α := (x.run ⟨(), #[]⟩).1.toOption

/-- Copies of the files that a run may look into, and the paths of those it may change. -/
def snapshot (root : Option String) (o : Options) : IO (Filesystem × List String) := do
  let files ← copyFiles .empty o.config.toList
  let env : Environment := ⟨root, none, files, fun _ _ => default⟩
  match quietly (o.settings env) with
  | none => return (files, [])
  | some settings =>
    let files ← copyFiles files (settings.definitions.toList ++ listFiles settings.root)
    let overlay := (quietly (settings.loadDefinitions files)).getD []
    let devices := deviceFiles settings (threadsOf files settings) overlay
    return (← copyFiles files devices, devices)

def writeBack (before after : Filesystem) (paths : List String) : IO Unit :=
  paths.forM fun path =>
    match before.readBytes path, after.readBytes path with
    | .ok old, .ok new =>
      if old = new then pure () else IO.FS.writeBinFile path ⟨new.toArray⟩
    | _, _ => pure ()

def present (outcome : Outcome) : IO UInt32 := do
  let out ← IO.getStdout
  let err ← IO.getStderr
  outcome.log.forM fun line => out.putStrLn line.render
  outcome.printed.forM out.putStrLn
  outcome.complaint.forM err.putStrLn
  return UInt32.ofNat outcome.exit

end Lockdown.Main

open Lockdown CommandLine in
def main (words : List String) : IO UInt32 := do
  let root ← IO.getEnv Settings.rootVariable
  let filter ← IO.getEnv Main.logVariable
  let (files, devices) ← match read words with
    | .ok (.scan o) => Main.snapshot root o
    | _ => pure (.empty, [])
  let outcome := run ⟨root, filter, files, fun _ _ => default⟩ words
  Main.writeBack files outcome.files devices
  Main.present outcome

import Lockdown.Files.Error
import Lockdown.Text.Lines
import Lockdown.Text.Utf8
/-!
A tree of directories and files. An open file is named by its number, so it stays readable when
its path is removed. Contents are total maps with a size; a gap that a write leaves reads as zero.
-/
namespace Lockdown

open Text

structure FileContent where
  size : Nat
  byte : Nat → UInt8

namespace FileContent

def ofArray (bytes : Array UInt8) : FileContent := ⟨bytes.size, fun i => bytes.getD i 0⟩

def zeros (size : Nat) : FileContent := ⟨size, fun _ => 0⟩

def slice (c : FileContent) (offset n : Nat) : List UInt8 :=
  (List.range n).map fun i => c.byte (offset + i)

def toList (c : FileContent) : List UInt8 := c.slice 0 c.size

/-- Writing nothing changes nothing, also past the end. -/
def write (c : FileContent) (offset : Nat) (data : List UInt8) : FileContent :=
  if data.isEmpty then c
  else
    { size := max c.size (offset + data.length)
      byte := fun i =>
        if offset ≤ i then (data[i - offset]?).getD (if i < c.size then c.byte i else 0)
        else if i < c.size then c.byte i else 0 }

end FileContent

inductive Entry where
  | directory
  | file (number : Nat)
  deriving DecidableEq, Repr

/-- Entries by their names from the root down; the root itself has no entry. A link to a file is one
more entry with its number. -/
structure Filesystem where
  entries : List (List String × Entry)
  contents : List FileContent
  stored : ∀ {place number}, (place, .file number) ∈ entries → number < contents.length

/-- `b` below `a`, or `b` itself when it starts at the root. -/
def joinPath (a b : String) : String :=
  if b.toList.head? = some '/' || a.isEmpty then b
  else if a.toList.getLast? = some '/' then a ++ b
  else a ++ "/" ++ b

namespace Filesystem

def empty : Filesystem where
  entries := []
  contents := []
  stored := by simp

def entry? (fs : Filesystem) : List String → Option Entry
  | [] => some .directory
  | names => fs.entries.lookup names

/-- The names on a path; a slash at the end asks for a directory, as a dot does. -/
def pathNames (path : String) : List String :=
  let parts := (splitAtChar '/' path.toList).map String.ofList
  parts.filter (· ≠ "") ++ if parts.getLast? = some "" then ["."] else []

def walk (fs : Filesystem) (place : List String) : List String → Except OsError (List String)
  | [] => .ok place
  | name :: names =>
    match fs.entry? place with
    | some .directory =>
      if name = "." then fs.walk place names
      else if name = ".." then fs.walk place.dropLast names
      else if 255 < name.utf8ByteSize then .error .nameTooLong
      else if (fs.entry? (place ++ [name])).isSome then fs.walk (place ++ [name]) names
      else .error .notFound
    | some (.file _) => .error .notADirectory
    | none => .error .notFound

def resolve (fs : Filesystem) (path : String) : Except OsError (List String) :=
  if path.toList.contains '\x00' then .error .nulInPath
  else if path.isEmpty then .error .notFound
  else if 4096 ≤ path.utf8ByteSize then .error .nameTooLong
  else fs.walk [] (pathNames path)

def find (fs : Filesystem) (path : String) : Except OsError Entry := do
  match fs.entry? (← fs.resolve path) with
  | some e => .ok e
  | none => .error .notFound

def isDirectory (fs : Filesystem) (path : String) : Bool :=
  match fs.find path with
  | .ok .directory => true
  | _ => false

def hasPath (fs : Filesystem) (path : String) : Bool := (fs.find path).toOption.isSome

/-- The number of the file; a directory is not opened for writing or reading. -/
def openFile (fs : Filesystem) (path : String) : Except OsError Nat := do
  match ← fs.find path with
  | .file number => .ok number
  | .directory => .error .isADirectory

def content (fs : Filesystem) (number : Nat) : FileContent :=
  (fs.contents[number]?).getD (.zeros 0)

def setContent (fs : Filesystem) (number : Nat) (c : FileContent) : Filesystem :=
  { fs with
    contents := fs.contents.set number c
    stored := fun h => Nat.lt_of_lt_of_eq (fs.stored h) List.length_set.symm }

def readBytes (fs : Filesystem) (path : String) : Except OsError (List UInt8) := do
  return (fs.content (← fs.openFile path)).toList

def readText (fs : Filesystem) (path : String) : Except OsError String := do
  match Text.strict? (← fs.readBytes path) with
  | some s => .ok s
  | none => .error .invalidUtf8

/-- Where names lead to when every directory on the way is there; above the root is the root. -/
def destination (names : List String) : List String :=
  names.foldl (fun place name =>
    if name = "." then place else if name = ".." then place.dropLast else place ++ [name]) []

theorem file_of_mem_cons {entries : List (List String × Entry)} {p place : List String}
    {number : Nat} (h : (p, .file number) ∈ (place, Entry.directory) :: entries) :
    (p, .file number) ∈ entries := by
  cases h with
  | tail _ h => exact h

def ensureDirectory (fs : Filesystem) (place : List String) : Filesystem :=
  if (fs.entry? place).isSome then fs
  else
    { fs with
      entries := (place, .directory) :: fs.entries
      stored := fun h => fs.stored (file_of_mem_cons h) }

def ensureWay (fs : Filesystem) (names : List String) : Filesystem :=
  (List.range names.length).foldl
    (fun fs i => fs.ensureDirectory (destination (names.take (i + 1)))) fs

def addDirectory (fs : Filesystem) (path : String) : Filesystem := fs.ensureWay (pathNames path)

def create (fs : Filesystem) (place : List String) (c : FileContent) : Filesystem where
  entries := (place, .file fs.contents.length) :: fs.entries
  contents := fs.contents ++ [c]
  stored := by
    simp only [List.mem_cons, List.length_append, List.length_singleton]
    rintro p number (h | h)
    · cases h
      exact Nat.lt_succ_self _
    · exact Nat.lt_succ_of_lt (fs.stored h)

def addFile (fs : Filesystem) (path : String) (c : FileContent) : Filesystem :=
  let names := pathNames path
  let fs := fs.ensureWay names.dropLast
  let place := destination names
  match fs.entry? place with
  | some (.file number) => fs.setContent number c
  | some .directory => fs
  | none => fs.create place c

/-- The path of a file is gone; whoever has the file open keeps it. Directories stay. -/
def remove (fs : Filesystem) (path : String) : Filesystem :=
  match fs.resolve path with
  | .ok place =>
    match fs.entry? place with
    | some (.file _) =>
      { fs with
        entries := fs.entries.filter fun e => e.1 ≠ place
        stored := fun h => fs.stored (List.mem_filter.1 h).1 }
    | _ => fs
  | .error _ => fs

end Filesystem

end Lockdown

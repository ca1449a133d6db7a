import Lockdown.Files.DeviceNode
import Lockdown.Proofs.Text.Pieces
import Mathlib.Data.List.Basic

/-! Which place a path leads to. Below one root, paths made of proper names lead to one place only
when they are made of the same names. -/
namespace Lockdown

open Text

namespace Filesystem

def parts (path : String) : List String := (path.toList.splitOn '/').map String.ofList

theorem parts_slash (a b : String) : parts (a ++ "/" ++ b) = parts a ++ parts b := by
  have hchars : (a ++ "/" ++ b).toList = a.toList ++ '/' :: b.toList := by simp
  rw [parts, hchars, List.splitOn_append_cons_self, List.map_append]
  rfl

theorem parts_ne_nil (path : String) : parts path ≠ [] := by
  simp [parts, List.splitOn_ne_nil]

theorem pathNames_eq (path : String) : pathNames path =
    (parts path).filter (· ≠ "") ++ if (parts path).getLast? = some "" then ["."] else [] := by
  rw [pathNames, splitAtChar_eq_splitOn]
  rfl

def namesAbove (path : String) : List String := (parts path).filter (· ≠ "")

theorem pathNames_slash (a b : String) :
    pathNames (a ++ "/" ++ b) = namesAbove a ++ pathNames b := by
  rw [pathNames_eq, pathNames_eq, parts_slash, List.getLast?_append_of_ne_nil _ (parts_ne_nil b),
    List.filter_append, List.append_assoc]
  rfl

theorem namesAbove_slash (a : String) : namesAbove (a ++ "/") = namesAbove a := by
  have hparts := parts_slash a ""
  rw [String.append_empty] at hparts
  rw [namesAbove, hparts, List.filter_append]
  exact List.append_nil _

theorem pathNames_joinPath (root : String) {tail : String} (h : tail.toList.head? ≠ some '/') :
    pathNames (joinPath root tail) = namesAbove root ++ pathNames tail := by
  by_cases hempty : root = ""
  · subst hempty
    rw [joinPath, if_pos (by simp)]
    rfl
  · rw [joinPath, if_neg (by simp [h, hempty])]
    split
    · rename_i hslash
      obtain ⟨up, hup⟩ := List.getLast?_eq_some_iff.1 hslash
      have hroot : root = String.ofList up ++ "/" := by
        rw [← String.toList_inj, hup, String.toList_append, String.toList_ofList]
        rfl
      rw [hroot, pathNames_slash, namesAbove_slash]
    · exact pathNames_slash root tail

structure Plain (name : String) : Prop where
  slash : '/' ∉ name.toList
  named : name ≠ ""
  down : name ≠ "." ∧ name ≠ ".."

namespace Plain

variable {name : String} (h : Plain name)
include h

theorem parts_eq : parts name = [name] := by
  rw [parts, List.splitOn_eq_singleton h.slash, List.map_singleton, String.ofList_toList]

theorem namesAbove_eq : namesAbove name = [name] := by
  rw [namesAbove, h.parts_eq]
  simp [h.named]

theorem pathNames_eq : pathNames name = [name] := by
  rw [Filesystem.pathNames_eq, h.parts_eq]
  simp [h.named]

end Plain

variable {fs : Filesystem} {path root a b : String} {place names : List String} {k : Nat}

theorem walk_append (fs : Filesystem) (place as bs : List String) :
    fs.walk place (as ++ bs) = fs.walk place as >>= fun between => fs.walk between bs := by
  induction as generalizing place with
  | nil => rfl
  | cons name as ih =>
    simp only [List.cons_append, walk]
    cases fs.entry? place with
    | none => rfl
    | some entry =>
      cases entry with
      | file number => rfl
      | directory =>
        simp only [ih]
        split_ifs <;> rfl

def Proper (names : List String) : Prop := ∀ name ∈ names, name ≠ "." ∧ name ≠ ".."

theorem walk_proper (h : Proper names) {found : List String}
    (hwalk : fs.walk place names = .ok found) : found = place ++ names := by
  induction names generalizing place with
  | nil =>
    rw [List.append_nil]
    exact (Except.ok.inj hwalk).symm
  | cons name names ih =>
    obtain ⟨⟨hdot, hdots⟩, hrest⟩ := List.forall_mem_cons.1 h
    simp only [walk, hdot, hdots, if_false] at hwalk
    split at hwalk
    · split at hwalk
      · cases hwalk
      · split at hwalk
        · rw [ih hrest hwalk, List.append_assoc, List.singleton_append]
        · cases hwalk
    · cases hwalk
    · cases hwalk

theorem walk_of_resolve (h : fs.resolve path = .ok place) :
    fs.walk [] (pathNames path) = .ok place := by
  unfold resolve at h
  split at h
  · cases h
  · split at h
    · cases h
    · split at h
      · cases h
      · exact h

/-- A path that goes down from a root. -/
structure Below (path : String) : Prop where
  relative : path.toList.head? ≠ some '/'
  proper : Proper (pathNames path)

theorem Below.place_eq (h : Below path) (hplace : fs.resolve (joinPath root path) = .ok place) :
    ∃ base, fs.walk [] (namesAbove root) = .ok base ∧ place = base ++ pathNames path := by
  have hwalk := walk_of_resolve hplace
  rw [pathNames_joinPath root h.relative, walk_append] at hwalk
  cases hbase : fs.walk [] (namesAbove root) with
  | error e => rw [hbase] at hwalk; cases hwalk
  | ok base =>
    rw [hbase] at hwalk
    exact ⟨base, rfl, walk_proper h.proper hwalk⟩

theorem Below.pathNames_eq (ha : Below a) (hb : Below b)
    (hplace : fs.resolve (joinPath root a) = .ok place)
    (hplace' : fs.resolve (joinPath root b) = .ok place) : pathNames a = pathNames b := by
  obtain ⟨base, hbase, rfl⟩ := ha.place_eq hplace
  obtain ⟨base', hbase', hnames⟩ := hb.place_eq hplace'
  obtain rfl : base = base' := Except.ok.inj (hbase.symm.trans hbase')
  exact List.append_cancel_left hnames

theorem mem_of_entry? {entry : Entry} (h : fs.entry? place = some entry) (hroot : place ≠ []) :
    (place, entry) ∈ fs.entries := by
  cases place with
  | nil => exact absurd rfl hroot
  | cons name names =>
    obtain ⟨before, after, hentries, -⟩ := List.lookup_eq_some_iff.1 h
    rw [hentries]
    exact List.mem_append_right _ List.mem_cons_self

theorem mem_of_file (h : fs.entry? place = some (.file k)) : (place, .file k) ∈ fs.entries := by
  apply mem_of_entry? h
  rintro rfl
  cases h

theorem openFile_eq_ok_iff : fs.openFile path = .ok k ↔
    ∃ place, fs.resolve path = .ok place ∧ fs.entry? place = some (.file k) := by
  unfold openFile find
  cases hplace : fs.resolve path with
  | error e => simp [bind, Except.bind]
  | ok place =>
    cases hentry : fs.entry? place with
    | none => simp [bind, Except.bind, hentry]
    | some entry => cases entry <;> simp [bind, Except.bind, hentry]

theorem exists_entry_of_hasPath (h : fs.hasPath path = true) :
    ∃ place entry, fs.resolve path = .ok place ∧ fs.entry? place = some entry := by
  unfold hasPath find at h
  cases hplace : fs.resolve path with
  | error e => simp [hplace, bind, Except.bind, Except.toOption] at h
  | ok place =>
    cases hentry : fs.entry? place with
    | none => simp [hplace, hentry, bind, Except.bind, Except.toOption] at h
    | some entry => exact ⟨place, entry, rfl, hentry⟩

theorem stored_of_openFile (h : fs.openFile path = .ok k) : k < fs.contents.length := by
  obtain ⟨place, -, hentry⟩ := openFile_eq_ok_iff.1 h
  exact fs.stored (mem_of_file hentry)

theorem openNode_eq_ok_iff {node : DeviceNode} : fs.openNode path = .ok node ↔
    node.path = path ∧ fs.openFile path = .ok node.file := by
  unfold openNode
  constructor
  · intro h
    split at h
    · rename_i hfile
      obtain rfl := Except.ok.inj h
      exact ⟨rfl, hfile⟩
    · cases h
  · rintro ⟨rfl, hfile⟩
    rw [hfile]

/-- No file has two names. -/
def Unlinked (fs : Filesystem) : Prop :=
  ∀ p q number, (p, .file number) ∈ fs.entries → (q, .file number) ∈ fs.entries → p = q

theorem Below.names_of_openFile (hone : fs.Unlinked) (ha : Below a) (hb : Below b)
    (h : fs.openFile (joinPath root a) = .ok k) (h' : fs.openFile (joinPath root b) = .ok k) :
    pathNames a = pathNames b := by
  obtain ⟨place, hplace, hentry⟩ := openFile_eq_ok_iff.1 h
  obtain ⟨place', hplace', hentry'⟩ := openFile_eq_ok_iff.1 h'
  obtain rfl : place = place' := hone _ _ _ (mem_of_file hentry) (mem_of_file hentry')
  exact ha.pathNames_eq hb hplace hplace'

/-! Contents have no part in where a path leads. -/

section Congruence

variable {other : Filesystem} (h : fs.entries = other.entries)
include h

theorem entry?_congr (place : List String) : fs.entry? place = other.entry? place := by
  cases place with
  | nil => rfl
  | cons name names => simp only [ entry?, h]

theorem walk_congr (place names : List String) : fs.walk place names = other.walk place names := by
  induction names generalizing place with
  | nil => rfl
  | cons name names ih => simp only [walk, entry?_congr h, ih]

theorem find_congr (path : String) : fs.find path = other.find path := by
  simp only [find, resolve, walk_congr h, entry?_congr h]

theorem hasPath_congr (path : String) : fs.hasPath path = other.hasPath path := by
  rw [hasPath, hasPath, find_congr h]

theorem openFile_congr (path : String) : fs.openFile path = other.openFile path := by
  rw [openFile, openFile, find_congr h]

end Congruence

@[simp] theorem hasPath_setContent (fs : Filesystem) (k : Nat) (c : FileContent) (path : String) :
    (fs.setContent k c).hasPath path = fs.hasPath path :=
  @hasPath_congr (fs.setContent k c) fs rfl path

@[simp] theorem openFile_setContent (fs : Filesystem) (k : Nat) (c : FileContent) (path : String) :
    (fs.setContent k c).openFile path = fs.openFile path :=
  @openFile_congr (fs.setContent k c) fs rfl path

end Filesystem

end Lockdown

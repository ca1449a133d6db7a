import Lockdown.Proofs.Files.Places
import Lockdown.Proofs.Text.Radix

/-! The names of device nodes. Bus and device have two hexadecimal digits and the function has one,
so a path tells which function a node is for, and no such path is that of memory. -/
namespace Lockdown

namespace Text

theorem digitChar_ne {n : Nat} (h : n < 16) : Nat.digitChar n ≠ '/' ∧ Nat.digitChar n ≠ '.' := by
  revert n
  decide

theorem plain_of_digit {name : String} {n : Nat} {rest : List Char} (hn : n < 16)
    (h : name.toList = Nat.digitChar n :: rest) (hrest : '/' ∉ rest) : Filesystem.Plain name := by
  obtain ⟨hslash, hdot⟩ := digitChar_ne hn
  refine ⟨?_, ?_, ?_, ?_⟩
  · rw [h]
    simp [hslash.symm, hrest]
  · rintro rfl
    cases h
  · rintro rfl
    exact hdot (List.cons_eq_cons.1 h).1.symm
  · rintro rfl
    exact hdot (List.cons_eq_cons.1 h).1.symm

end Text

open Text

namespace PciLocation

variable (l : PciLocation)

theorem dword_bounds : l.dword.bus.toNat < 256 ∧ l.dword.device.toNat < 32 ∧
    l.dword.function.toNat < 8 := by
  simp only [dword, UInt32.toNat_and]
  exact ⟨Nat.and_lt_two_pow _ (n := 8) (by decide), Nat.and_lt_two_pow _ (n := 5) (by decide),
    Nat.and_lt_two_pow _ (n := 3) (by decide)⟩

def busName : String := hexLower 2 l.dword.bus.toNat

def functionName : String := s!"{hexLower 2 l.dword.device.toNat}.{l.dword.function}"

theorem toList_functionName : l.functionName.toList =
    [Nat.digitChar (l.dword.device.toNat / 16), Nat.digitChar (l.dword.device.toNat % 16), '.',
      Nat.digitChar l.dword.function.toNat] := by
  obtain ⟨-, hdevice, hfunction⟩ := l.dword_bounds
  have hdigit :
      toString l.dword.function = String.ofList [Nat.digitChar l.dword.function.toNat] := by
    rw [← Nat.toDigits_of_lt_base (b := 10) (by omega)]
    exact Nat.repr_eq_ofList_toDigits
  have hhex := hexLower_two (n := l.dword.device.toNat) (by omega)
  have hself : ∀ s : String, toString s = s := fun _ => rfl
  rw [functionName, hdigit]
  simp only [hself, String.toList_append, hhex, String.toList_ofList]
  rfl

theorem toList_busName : l.busName.toList =
    [Nat.digitChar (l.dword.bus.toNat / 16), Nat.digitChar (l.dword.bus.toNat % 16)] :=
  hexLower_two l.dword_bounds.1

theorem busName_plain : Filesystem.Plain l.busName := by
  have hbus := l.dword_bounds.1
  have hlow : l.dword.bus.toNat % 16 < 16 := by omega
  apply plain_of_digit (by omega) l.toList_busName
  simp [(digitChar_ne hlow).1.symm]

theorem functionName_plain : Filesystem.Plain l.functionName := by
  obtain ⟨-, hdevice, hfunction⟩ := l.dword_bounds
  have hlow : l.dword.device.toNat % 16 < 16 := by omega
  have hdigit : l.dword.function.toNat < 16 := by omega
  apply plain_of_digit (by omega) l.toList_functionName
  simp [(digitChar_ne hlow).1.symm, (digitChar_ne hdigit).1.symm]

def nodeName : String := "proc/bus/pci" ++ "/" ++ (l.busName ++ "/" ++ l.functionName)

theorem pciPath_eq (root : String) : pciPath root l = joinPath root l.nodeName := by
  have hself : ∀ s : String, toString s = s := fun _ => rfl
  rw [pciPath, nodeName, busName, functionName]
  simp only [hself, ← String.append_assoc]
  rfl

theorem pathNames_nodeName :
    Filesystem.pathNames l.nodeName = ["proc", "bus", "pci", l.busName, l.functionName] := by
  have habove : Filesystem.namesAbove "proc/bus/pci" = ["proc", "bus", "pci"] := by decide
  rw [nodeName, Filesystem.pathNames_slash, Filesystem.pathNames_slash, habove,
    l.busName_plain.namesAbove_eq, l.functionName_plain.pathNames_eq]
  rfl

theorem below_nodeName : Filesystem.Below l.nodeName where
  relative := by simp [nodeName]
  proper := by
    rw [pathNames_nodeName]
    simp [Filesystem.Proper, l.busName_plain.down, l.functionName_plain.down]

def start : PciLocation := { l.dword with offset := 0 }

theorem start_eq_of_names {m : PciLocation}
    (h : Filesystem.pathNames l.nodeName = Filesystem.pathNames m.nodeName) :
    l.start = m.start := by
  rw [pathNames_nodeName, pathNames_nodeName] at h
  simp only [List.cons.injEq, and_true, true_and] at h
  obtain ⟨hbus, hfunction⟩ := h
  obtain ⟨hb, hd, hf⟩ := l.dword_bounds
  obtain ⟨hb', hd', hf'⟩ := m.dword_bounds
  have hchars := congrArg String.toList hfunction
  simp only [toList_functionName, List.cons.injEq, and_true, true_and] at hchars
  obtain ⟨hhigh, hlow, hdigit⟩ := hchars
  have hbuses := hexLower_two_inj hb hb' hbus
  have hhighs := digitChar_inj (by omega) (by omega) hhigh
  have hlows := digitChar_inj (by omega) (by omega) hlow
  have hfunctions := digitChar_inj (by omega) (by omega) hdigit
  simp only [start, mk.injEq, and_true, ← UInt32.toNat_inj]
  exact ⟨hbuses, by omega, hfunctions⟩

end PciLocation

namespace Filesystem

variable {fs : Filesystem} {root path : String} {l m : PciLocation}

theorem below_mem : Below "dev/mem" where
  relative := by decide
  proper := by
    have hnames : pathNames "dev/mem" = ["dev", "mem"] := by decide
    rw [hnames]
    simp [Proper]

theorem names_ne_mem (l : PciLocation) : pathNames l.nodeName ≠ pathNames "dev/mem" := by
  rw [PciLocation.pathNames_nodeName]
  exact fun h => absurd (List.cons_eq_cons.1 h).1 (by decide)

theorem pciPath_congr (root : String) (h : l.start = m.start) :
    pciPath root l = pciPath root m := by
  simp only [PciLocation.start, PciLocation.mk.injEq, and_true] at h
  simp only [pciPath, h]

theorem start_eq_of_pciPath (h : pciPath root l = pciPath root m) : l.start = m.start := by
  have hnames := congrArg pathNames h
  rw [PciLocation.pciPath_eq, PciLocation.pciPath_eq,
    pathNames_joinPath root l.below_nodeName.relative,
    pathNames_joinPath root m.below_nodeName.relative] at hnames
  exact l.start_eq_of_names (List.append_cancel_left hnames)

theorem memPath_ne_pciPath (root : String) (l : PciLocation) : memPath root ≠ pciPath root l := by
  intro h
  have hnames := congrArg pathNames h
  rw [memPath, PciLocation.pciPath_eq, pathNames_joinPath root below_mem.relative,
    pathNames_joinPath root l.below_nodeName.relative] at hnames
  exact names_ne_mem l (List.append_cancel_left hnames).symm

inductive IsNode (root : String) : String → Prop
  | function (l : PciLocation) : IsNode root (pciPath root l)
  | memory : IsNode root (memPath root)

/-- No other node is a link to the file of this one. -/
def Alone (fs : Filesystem) (root path : String) : Prop :=
  ∀ other, IsNode root other → ∀ k, fs.openFile path = .ok k → fs.openFile other = .ok k →
    path = other

theorem alone_of_unlinked (hone : fs.Unlinked) (hpath : IsNode root path) :
    fs.Alone root path := by
  intro other hother k h h'
  cases hpath with
  | function l =>
    rw [PciLocation.pciPath_eq] at h
    cases hother with
    | function m =>
      rw [PciLocation.pciPath_eq] at h'
      have hnames := Below.names_of_openFile hone l.below_nodeName m.below_nodeName h h'
      exact pciPath_congr root (l.start_eq_of_names hnames)
    | memory =>
      exact absurd (Below.names_of_openFile hone l.below_nodeName below_mem h h') (names_ne_mem l)
  | memory =>
    cases hother with
    | function m =>
      rw [PciLocation.pciPath_eq] at h'
      exact absurd (Below.names_of_openFile hone m.below_nodeName below_mem h' h) (names_ne_mem m)
    | memory => rfl

end Filesystem

end Lockdown

import Lockdown.Native
import Lockdown.Proofs.Bus.Agreement
import Lockdown.Proofs.Bus.Writing
import Lockdown.Proofs.Files.Contents
import Lockdown.Proofs.Files.Nodes

/-! Device files that hold what a simulated platform holds. A transaction on the nodes then returns
what it returns there, and the files go on to hold what the simulated platform holds after it. -/
namespace Lockdown

namespace PciLocation

theorem dword_offset_aligned (l : PciLocation) :
    l.dword.offset.toNat % 4 = 0 ∧ l.dword.offset.toNat + 4 ≤ 256 := by
  have hmask : l.dword.offset.toNat = l.offset.toNat &&& 252 := UInt32.toNat_and ..
  have hle : l.offset.toNat &&& 252 ≤ 252 := Nat.and_le_right
  refine ⟨?_, by omega⟩
  rw [hmask, show 4 = 2 ^ 2 from rfl, Nat.and_mod_two_pow]
  exact Nat.and_zero _

theorem dword_eq_of_start {l m : PciLocation} (hstart : l.start = m.start)
    (hoffset : l.dword.offset = m.dword.offset) : l.dword = m.dword := by
  simp only [start, mk.injEq, and_true] at hstart
  obtain ⟨hbus, hdevice, hfunction⟩ := hstart
  cases hl : l.dword
  cases hm : m.dword
  simp_all

end PciLocation

theorem pciPath_start (root : String) (l : PciLocation) :
    pciPath root l.start = pciPath root l :=
  Filesystem.pciPath_congr root (by simp [PciLocation.start, PciLocation.dword, UInt32.and_assoc])

theorem toUInt32_bytesLE (value : UInt32) :
    (ofBytesLE (bytesLE 4 value.toUInt64)).toUInt32 = value := by
  have hmask : AccessWidth.dword.mask.toUInt32 = -1 := by decide
  have hbytes := ofBytesLE_bytesLE .dword value.toUInt64
  rw [show AccessWidth.dword.bytes = 4 from rfl] at hbytes
  rw [hbytes, UInt64.toUInt32_and, hmask, UInt32.and_neg_one, UInt32.toUInt32_toUInt64]

theorem Simulator.memory_poke (s : Simulator) {address : UInt64} {w : AccessWidth} {i : Nat}
    (hin : address.toNat + w.bytes < offsetLimit) (hi : i < offsetLimit) (value : UInt64) :
    (s.poke address w value).memory (UInt64.ofNat i) =
      if address.toNat ≤ i then
        ((bytesLE w.bytes value)[i - address.toNat]?).getD (s.memory (UInt64.ofNat i))
      else s.memory (UInt64.ofNat i) := by
  unfold offsetLimit at hin hi
  have hindex : (UInt64.ofNat i).toNat = i :=
    UInt64.toNat_ofNat_of_lt' (show i < 2 ^ 64 by omega)
  have hdata : (bytesLE w.bytes value).length = w.bytes := length_bytesLE _ _
  change ((bytesLE w.bytes value).toArray[(UInt64.ofNat i - address).toNat]?).getD _ = _
  rw [List.getElem?_toArray, UInt64.toNat_sub, hindex]
  split
  · rw [show (2 ^ 64 - address.toNat + i) % 2 ^ 64 = i - address.toNat by omega]
  · rw [List.getElem?_eq_none (by omega), Option.getD_none]

/-- The files under `root` hold what the simulated platform holds: the config space of each
function that has a node, and memory in the first `n` addresses. Writes have no effects beside
themselves. -/
structure Mirrors (root : String) (n : Nat) (s : Simulator) (files : Filesystem) : Prop where
  unhooked : s.acks = []
  config : ∀ l : PciLocation, files.hasPath (pciPath root l) = true → ∃ k,
    files.openFile (pciPath root l) = .ok k ∧ 256 ≤ (files.content k).size ∧
      (ofBytesLE ((files.content k).slice l.dword.offset.toNat 4)).toUInt32 = s.config l.dword
  memory : ∃ k, files.openFile (memPath root) = .ok k ∧ (files.content k).size = n ∧
    ∀ i < n, (files.content k).byte i = s.memory (UInt64.ofNat i)

namespace Mirrors

variable {root : String} {n k : Nat} {s t : Simulator} {files : Filesystem} {l : PciLocation}

theorem of_undisturbed (h : Mirrors root n s files) (ht : s.Undisturbed t) :
    Mirrors root n t files := by
  obtain ⟨latch, log, rfl⟩ := ht
  exact ⟨h.unhooked, h.config, h.memory⟩

theorem setDword (h : Mirrors root n s files) (hk : files.openFile (pciPath root l) = .ok k)
    (halone : files.Alone root (pciPath root l)) (hsize : 256 ≤ (files.content k).size)
    (value : UInt32) : Mirrors root n (s.setDword l.dword value) (files.setContent k
      ((files.content k).write l.dword.offset.toNat (bytesLE 4 value.toUInt64))) := by
  have hstored := Filesystem.stored_of_openFile hk
  obtain ⟨haligned, hroom⟩ := l.dword_offset_aligned
  refine ⟨h.unhooked, ?_, ?_⟩
  · intro m hm
    rw [Filesystem.hasPath_setContent] at hm
    obtain ⟨j, hj, hsize', hvalue⟩ := h.config m hm
    refine ⟨j, (Filesystem.openFile_setContent _ _ _ _).trans hj, ?_⟩
    by_cases hjk : j = k
    · subst hjk
      have hstart : l.start = m.start :=
        Filesystem.start_eq_of_pciPath (halone _ (.function m) j hk hj)
      have hdata : (bytesLE 4 value.toUInt64).length = 4 := length_bytesLE _ _
      rw [Filesystem.content_setContent hstored, FileContent.size_write (by omega)]
      refine ⟨hsize, ?_⟩
      by_cases hoffset : l.dword.offset = m.dword.offset
      · have hread := FileContent.slice_write (files.content j) l.dword.offset.toNat
          (bytesLE 4 value.toUInt64)
        rw [hdata] at hread
        rw [← PciLocation.dword_eq_of_start hstart hoffset, hread, toUInt32_bytesLE]
        exact (if_pos rfl).symm
      · have hother : m.dword ≠ l.dword := fun hdword => hoffset (congrArg _ hdword.symm)
        have haligned' := m.dword_offset_aligned
        rw [← UInt32.toNat_inj] at hoffset
        rw [FileContent.slice_write_apart (by omega) (by omega), hvalue]
        exact (if_neg hother).symm
    · rw [Filesystem.content_setContent_of_ne (Ne.symm hjk)]
      refine ⟨hsize', ?_⟩
      have hother : m.dword ≠ l.dword := by
        intro hdword
        have hstart : m.start = l.start := by rw [PciLocation.start, PciLocation.start, hdword]
        have hpath := Filesystem.pciPath_congr root hstart
        rw [hpath, hk] at hj
        exact hjk (Except.ok.inj hj).symm
      rw [hvalue]
      exact (if_neg hother).symm
  · obtain ⟨j, hj, hsize', hbytes⟩ := h.memory
    refine ⟨j, (Filesystem.openFile_setContent _ _ _ _).trans hj, ?_⟩
    have hne : k ≠ j := by
      rintro rfl
      exact Filesystem.memPath_ne_pciPath root l (halone _ .memory k hk hj).symm
    rw [Filesystem.content_setContent_of_ne hne]
    exact ⟨hsize', hbytes⟩

theorem poke (h : Mirrors root n s files) (hk : files.openFile (memPath root) = .ok k)
    (halone : files.Alone root (memPath root)) {address : UInt64} {w : AccessWidth}
    (hin : address.toNat + w.bytes ≤ n) (hn : n < offsetLimit) (value : UInt64) :
    Mirrors root n (s.poke address w value) (files.setContent k
      ((files.content k).write address.toNat (bytesLE w.bytes value))) := by
  have hstored := Filesystem.stored_of_openFile hk
  obtain ⟨j, hj, hsize, hbytes⟩ := h.memory
  obtain rfl : j = k := Except.ok.inj (hj.symm.trans hk)
  refine ⟨h.unhooked, ?_, ?_⟩
  · intro m hm
    rw [Filesystem.hasPath_setContent] at hm
    obtain ⟨i, hi, hroom, hvalue⟩ := h.config m hm
    refine ⟨i, (Filesystem.openFile_setContent _ _ _ _).trans hi, ?_⟩
    have hne : j ≠ i := by
      rintro rfl
      exact Filesystem.memPath_ne_pciPath root m (halone _ (.function m) j hk hi)
    rw [Filesystem.content_setContent_of_ne hne]
    exact ⟨hroom, hvalue⟩
  · have hdata : (bytesLE w.bytes value).length = w.bytes := length_bytesLE _ _
    refine ⟨j, (Filesystem.openFile_setContent _ _ _ _).trans hj, ?_⟩
    rw [Filesystem.content_setContent hstored, FileContent.size_write (by omega)]
    refine ⟨hsize, ?_⟩
    intro i hi
    rw [FileContent.byte_write (by omega), hbytes i hi]
    exact (Simulator.memory_poke s (by omega) (by omega) value).symm

theorem peek (h : Mirrors root n s files) (hk : files.openFile (memPath root) = .ok k)
    {address : UInt64} {w : AccessWidth} (hin : address.toNat + w.bytes ≤ n) :
    ofBytesLE ((files.content k).slice address.toNat w.bytes) = s.peek address w := by
  obtain ⟨j, hj, -, hbytes⟩ := h.memory
  obtain rfl : j = k := Except.ok.inj (hj.symm.trans hk)
  apply congrArg ofBytesLE
  apply List.map_congr_left
  intro i hi
  have hlt := List.mem_range.1 hi
  rw [hbytes _ (by omega), UInt64.ofNat_add, UInt64.ofNat_toNat]

end Mirrors

end Lockdown

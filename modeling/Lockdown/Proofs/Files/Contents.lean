import Lockdown.Files.DeviceNode
import Lockdown.Proofs.Bytes

/-! What a file holds after a write, and what a node reads inside its file. Past its end a file
shows zeros, which a later write that leaves a gap makes real. -/
namespace Lockdown

variable {c : FileContent} {offset start n : Nat} {data : List UInt8}

namespace FileContent

theorem size_write (h : offset + data.length ≤ c.size) : (c.write offset data).size = c.size := by
  unfold write
  split
  · rfl
  · exact Nat.max_eq_left h

theorem byte_write {i : Nat} (hi : i < c.size) : (c.write offset data).byte i =
    if offset ≤ i then (data[i - offset]?).getD (c.byte i) else c.byte i := by
  unfold write
  cases data with
  | nil => simp
  | cons b rest => simp [hi]

@[simp] theorem length_slice (c : FileContent) (offset n : Nat) :
    (c.slice offset n).length = n := by
  simp [slice]

theorem slice_eq_of_byte {d : FileContent} (h : ∀ i < n, d.byte (start + i) = c.byte (start + i)) :
    d.slice start n = c.slice start n :=
  List.map_congr_left fun i hi => h i (List.mem_range.1 hi)

theorem slice_write (c : FileContent) (offset : Nat) (data : List UInt8) :
    (c.write offset data).slice offset data.length = data := by
  cases data with
  | nil => rfl
  | cons b rest =>
    apply List.ext_getElem
    · exact length_slice _ _ _
    · intro i _ hi
      simp [slice, write, List.getElem?_eq_getElem hi]

theorem slice_write_apart (hin : start + n ≤ c.size)
    (h : start + n ≤ offset ∨ offset + data.length ≤ start) :
    (c.write offset data).slice start n = c.slice start n := by
  apply slice_eq_of_byte
  intro i hi
  rw [byte_write (by omega)]
  split
  · rw [List.getElem?_eq_none (by omega), Option.getD_none]
  · rfl

theorem slice_append (c : FileContent) (start m n : Nat) :
    c.slice start m ++ c.slice (start + m) n = c.slice start (m + n) := by
  simp [slice, List.range_add, Function.comp_def, Nat.add_assoc]

def placed? (offset : Nat) (data : List UInt8) (i : Nat) : Option UInt8 :=
  if offset ≤ i then data[i - offset]? else none

def shown (c : FileContent) (i : Nat) : UInt8 := if i < c.size then c.byte i else 0

theorem placed?_append (offset : Nat) (front back : List UInt8) (i : Nat) :
    placed? offset (front ++ back) i =
      (placed? (offset + front.length) back i).or (placed? offset front i) := by
  unfold placed?
  by_cases hback : offset + front.length ≤ i
  · have hfront : front[i - offset]? = none := List.getElem?_eq_none (by omega)
    rw [if_pos (by omega), if_pos hback, if_pos (by omega), hfront, Option.or_none,
      List.getElem?_append_right (by omega), Nat.sub_sub]
  · rw [if_neg hback, Option.none_or]
    split
    · rw [List.getElem?_append_left (by omega)]
    · rfl

@[simp] theorem write_nil (c : FileContent) (offset : Nat) : c.write offset [] = c := rfl

theorem write_of_ne_nil (h : data ≠ []) (c : FileContent) (offset : Nat) : c.write offset data =
    ⟨max c.size (offset + data.length), fun i => (placed? offset data i).getD (c.shown i)⟩ := by
  have hdata : data.isEmpty = false := by simpa using h
  rw [write, hdata, if_neg Bool.false_ne_true]
  congr
  funext i
  unfold placed? shown
  split <;> rfl

theorem shown_write (c : FileContent) (offset : Nat) (data : List UInt8) (i : Nat) :
    (c.write offset data).shown i = (placed? offset data i).getD (c.shown i) := by
  by_cases hdata : data = []
  · simp [hdata, placed?]
  · rw [write_of_ne_nil hdata]
    unfold shown
    split
    · rfl
    · -- Past the new end there is neither data nor what was there before.
      rename_i hout
      have hend : max c.size (offset + data.length) ≤ i := Nat.le_of_not_lt hout
      have hpast : placed? offset data i = none := by
        unfold placed?
        split
        · exact List.getElem?_eq_none (by omega)
        · rfl
      rw [hpast, Option.getD_none, if_neg (by omega)]

theorem write_append (c : FileContent) (offset : Nat) (front back : List UInt8) :
    (c.write offset front).write (offset + front.length) back =
      c.write offset (front ++ back) := by
  by_cases hfront : front = []
  · simp [hfront]
  · by_cases hback : back = []
    · simp [hback]
    · rw [write_of_ne_nil hback, write_of_ne_nil (List.append_ne_nil_of_left_ne_nil hfront back)]
      congr 1
      · rw [write_of_ne_nil hfront, List.length_append, Nat.max_assoc]
        congr 1
        omega
      · funext i
        rw [shown_write, placed?_append]
        cases placed? (offset + front.length) back i <;> rfl

end FileContent

namespace Filesystem

variable {fs : Filesystem} {k : Nat} {node : DeviceNode} {place : UInt64} {w : AccessWidth}

theorem content_setContent (h : k < fs.contents.length) (c : FileContent) :
    (fs.setContent k c).content k = c := by
  simp [content, setContent, h]

theorem content_setContent_of_ne {j : Nat} (h : k ≠ j) (c : FileContent) :
    (fs.setContent k c).content j = fs.content j := by
  simp [content, setContent, List.getElem?_set_ne h]

theorem stored_setContent (h : k < fs.contents.length) (c : FileContent) :
    k < (fs.setContent k c).contents.length := Nat.lt_of_lt_of_eq h List.length_set.symm

theorem setContent_setContent (fs : Filesystem) (k : Nat) (c d : FileContent) :
    (fs.setContent k c).setContent k d = fs.setContent k d := by
  simp [setContent]

@[simp] theorem setContent_content (fs : Filesystem) (k : Nat) :
    fs.setContent k (fs.content k) = fs := by
  have hset : fs.contents.set k (fs.content k) = fs.contents := by
    by_cases hk : k < fs.contents.length
    · simp [content, hk]
    · exact List.set_eq_of_length_le (Nat.le_of_not_lt hk)
  cases fs
  simpa [setContent] using hset

theorem readUInt_inside (hin : place.toNat + w.bytes ≤ (fs.content node.file).size)
    (hlimit : place.toNat + w.bytes < offsetLimit) :
    fs.readUInt node place w =
      .ok (ofBytesLE ((fs.content node.file).slice place.toNat w.bytes)) := by
  have hpos := w.bytes_pos
  unfold readUInt readAt
  rw [if_neg (by omega), if_neg (by omega), if_neg (by omega), if_neg (by omega)]
  rfl

/-- A read is filled whole or fails. -/
theorem readUInt_past_end (hend : (fs.content node.file).size < place.toNat + w.bytes)
    (hlimit : place.toNat + w.bytes < offsetLimit) :
    fs.readUInt node place w =
      .error (.readFailed node.path place w.bytes .unexpectedEnd) := by
  have hpos := w.bytes_pos
  unfold readUInt readAt
  rw [if_neg (by omega), if_neg (by omega), if_neg (by omega), if_pos hend]
  rfl

theorem readAt_past_end {n : Nat} (hoffset : place.toNat < offsetLimit) (hpos : 0 < n)
    (hend : (fs.content node.file).size < place.toNat + n) :
    ∃ cause, fs.readAt node place n = .error (.readFailed node.path place n cause) := by
  unfold readAt
  rw [if_neg (Nat.not_le.2 hoffset), if_neg (Nat.ne_of_gt hpos)]
  split <;> exact ⟨_, rfl⟩

theorem stored_of_size_pos (h : 0 < (fs.content k).size) : k < fs.contents.length := by
  apply Nat.lt_of_not_le
  intro hk
  rw [content, List.getElem?_eq_none hk] at h
  exact absurd h (Nat.lt_irrefl 0)

theorem writeAt_inside (hlimit : place.toNat + data.length < offsetLimit) :
    fs.writeAt node place data =
      .ok (fs.setContent node.file ((fs.content node.file).write place.toNat data)) := by
  have hoffset : ¬ offsetLimit ≤ place.toNat := by omega
  have hstop : ¬ offsetLimit ≤ place.toNat + data.length := Nat.not_le.2 hlimit
  unfold writeAt
  rw [if_neg hoffset]
  cases data with
  | nil => simp
  | cons b rest => rw [List.isEmpty_cons, if_neg Bool.false_ne_true, if_neg hstop]

theorem writeUInt_inside (hlimit : place.toNat + w.bytes < offsetLimit) (value : UInt64) :
    fs.writeUInt node place w value = .ok (fs.setContent node.file
      ((fs.content node.file).write place.toNat (bytesLE w.bytes value))) :=
  writeAt_inside (by rwa [length_bytesLE])

end Filesystem

end Lockdown

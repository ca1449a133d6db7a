import Lockdown.Proofs.Files.Contents
import Mathlib.Tactic.SplitIfs

/-! A node as the operating system serves it. All calls share the cursor of one open file, and a
request may move fewer bytes than it was made for, so a call repeats its request for the rest. None
of this shows: every call seeks before it asks for anything, and pieces that follow each other make
one range. Wherever the cursor stood and however the bytes were cut, the call ends as the operation
by offset does. -/
namespace Lockdown

structure OpenFile where
  content : FileContent
  position : Nat

namespace OpenFile

/-- It comes to an end, and whenever it does, with this answer and this content. -/
def EndsWith {α : Type} (R : α → OpenFile → Prop) (a : α) (c : FileContent) : Prop :=
  (∃ g, R a g) ∧ ∀ b g, R b g → b = a ∧ g.content = c

def seek (f : OpenFile) (offset : UInt64) : Except OsError OpenFile :=
  if offsetLimit ≤ offset.toNat then .error .invalidArgument
  else .ok { f with position := offset.toNat }

/-- One request for up to `n` bytes. There are none only at the end. -/
inductive Read (f : OpenFile) (n : Nat) : Except OsError (List UInt8) → OpenFile → Prop
  | refused (past : offsetLimit ≤ f.position + n) : Read f n (.error .invalidArgument) f
  | nothing (fits : f.position + n < offsetLimit) (atEnd : f.content.size ≤ f.position) :
      Read f n (.ok []) f
  | part {k : Nat} (fits : f.position + n < offsetLimit) (pos : 0 < k) (le : k ≤ n)
      (inside : f.position + k ≤ f.content.size) :
      Read f n (.ok (f.content.slice f.position k)) { f with position := f.position + k }

/-- One request to write data, of which the front is taken. -/
inductive Write (f : OpenFile) (data : List UInt8) : Except OsError Nat → OpenFile → Prop
  | refused (past : offsetLimit ≤ f.position + data.length) :
      Write f data (.error .invalidArgument) f
  | part {k : Nat} (fits : f.position + data.length < offsetLimit) (pos : 0 < k)
      (le : k ≤ data.length) :
      Write f data (.ok k) ⟨f.content.write f.position (data.take k), f.position + k⟩

/-- Requests until there are `n` bytes, or one fails or has none. -/
inductive ReadExact : OpenFile → Nat → Except OsError (List UInt8) → OpenFile → Prop
  | filled (f : OpenFile) : ReadExact f 0 (.ok []) f
  | failed {f g : OpenFile} {n : Nat} {e : OsError} (wanted : 0 < n)
      (request : Read f n (.error e) g) : ReadExact f n (.error e) g
  | ended {f g : OpenFile} {n : Nat} (wanted : 0 < n) (request : Read f n (.ok []) g) :
      ReadExact f n (.error .unexpectedEnd) g
  | more {f g h : OpenFile} {n : Nat} {bytes : List UInt8} {r : Except OsError (List UInt8)}
      (wanted : 0 < n) (request : Read f n (.ok bytes) g) (found : bytes ≠ [])
      (rest : ReadExact g (n - bytes.length) r h) : ReadExact f n (r.map (bytes ++ ·)) h

inductive WriteAll : OpenFile → List UInt8 → Except OsError Unit → OpenFile → Prop
  | finished (f : OpenFile) : WriteAll f [] (.ok ()) f
  | failed {f g : OpenFile} {data : List UInt8} {e : OsError} (left : data ≠ [])
      (request : Write f data (.error e) g) : WriteAll f data (.error e) g
  | more {f g h : OpenFile} {data : List UInt8} {k : Nat} {r : Except OsError Unit}
      (left : data ≠ []) (request : Write f data (.ok k) g)
      (rest : WriteAll g (data.drop k) r h) : WriteAll f data r h

variable {f g : OpenFile} {n : Nat} {data : List UInt8}

def exactly (f : OpenFile) (n : Nat) : Except OsError (List UInt8) :=
  if n = 0 then .ok []
  else if offsetLimit ≤ f.position + n then .error .invalidArgument
  else if f.content.size < f.position + n then .error .unexpectedEnd
  else .ok (f.content.slice f.position n)

/-- What a part leaves to do ends as the whole does. -/
theorem exactly_part {k : Nat} (fits : f.position + n < offsetLimit) (pos : 0 < k) (le : k ≤ n)
    (inside : f.position + k ≤ f.content.size) :
    (exactly { f with position := f.position + k } (n - k)).map
      (f.content.slice f.position k ++ ·) = f.exactly n := by
  have hwhole : k + (n - k) = n := Nat.add_sub_cancel' le
  have hslice := f.content.slice_append f.position k (n - k)
  rw [hwhole] at hslice
  unfold exactly
  dsimp only
  rw [Nat.add_assoc, hwhole]
  have hsome : n ≠ 0 := by omega
  have hlimit : ¬ offsetLimit ≤ f.position + n := Nat.not_le.2 fits
  by_cases hdone : n - k = 0
  · obtain rfl : k = n := by omega
    rw [if_pos hdone, if_neg hsome, if_neg hlimit, if_neg (Nat.not_lt.2 inside)]
    simp [Except.map]
  · rw [if_neg hdone, if_neg hlimit, if_neg hsome, if_neg hlimit]
    split
    · rfl
    · exact congrArg Except.ok hslice

theorem ReadExact.eq_exactly {r : Except OsError (List UInt8)} (h : f.ReadExact n r g) :
    r = f.exactly n ∧ g.content = f.content := by
  induction h with
  | filled f => exact ⟨rfl, rfl⟩
  | failed wanted request =>
    cases request with
    | refused past => exact ⟨by rw [exactly, if_neg (by omega), if_pos past], rfl⟩
  | ended wanted request =>
    generalize hnone : (Except.ok [] : Except OsError (List UInt8)) = reply at request
    cases request with
    | refused past => cases hnone
    | nothing fits atEnd =>
      exact ⟨by rw [exactly, if_neg (by omega), if_neg (by omega), if_pos (by omega)], rfl⟩
    | part fits pos le inside =>
      have hlength := congrArg List.length (Except.ok.inj hnone)
      rw [FileContent.length_slice, List.length_nil] at hlength
      omega
  | more wanted request found rest ih =>
    cases request with
    | nothing fits atEnd => exact absurd rfl found
    | part fits pos le inside =>
      rw [FileContent.length_slice] at ih
      obtain ⟨rfl, hcontent⟩ := ih
      exact ⟨exactly_part fits pos le inside, hcontent⟩

theorem ReadExact.of_part {k : Nat} {r : Except OsError (List UInt8)}
    (fits : f.position + n < offsetLimit) (pos : 0 < k) (le : k ≤ n)
    (inside : f.position + k ≤ f.content.size)
    (rest : ReadExact { f with position := f.position + k } (n - k) r g) :
    f.ReadExact n (r.map (f.content.slice f.position k ++ ·)) g := by
  have hlength : (f.content.slice f.position k).length = k := FileContent.length_slice _ _ _
  refine .more (by omega) (.part fits pos le inside) ?_ ?_
  · rw [← List.length_pos_iff, hlength]
    exact pos
  · rwa [hlength]

theorem exists_readExact (f : OpenFile) (n : Nat) : ∃ g, f.ReadExact n (f.exactly n) g := by
  by_cases hnone : n = 0
  · subst hnone
    exact ⟨f, .filled f⟩
  have wanted : 0 < n := Nat.pos_of_ne_zero hnone
  by_cases past : offsetLimit ≤ f.position + n
  · rw [exactly, if_neg hnone, if_pos past]
    exact ⟨f, .failed wanted (.refused past)⟩
  have fits : f.position + n < offsetLimit := Nat.lt_of_not_le past
  by_cases hend : f.content.size ≤ f.position
  · rw [exactly, if_neg hnone, if_neg past, if_pos (by omega)]
    exact ⟨f, .ended wanted (.nothing fits hend)⟩
  -- The first part reaches to the end of what is wanted or to that of the file.
  obtain ⟨k, pos, le, inside, hlast⟩ : ∃ k, 0 < k ∧ k ≤ n ∧ f.position + k ≤ f.content.size ∧
      (k = n ∨ k < n ∧ f.position + k = f.content.size) :=
    ⟨min n (f.content.size - f.position), by omega⟩
  rw [← exactly_part fits pos le inside]
  refine ⟨{ f with position := f.position + k }, .of_part fits pos le inside ?_⟩
  rcases hlast with rfl | ⟨hlt, hlast⟩
  · rw [Nat.sub_self]
    exact .filled _
  · have hleft : n - k ≠ 0 := by omega
    have hposition : f.position + k + (n - k) = f.position + n := by omega
    unfold exactly
    dsimp only
    rw [if_neg hleft, hposition, if_neg past, if_pos (by omega)]
    exact .ended (by omega) (.nothing (hposition ▸ fits) (Nat.le_of_eq hlast.symm))

def written (f : OpenFile) (data : List UInt8) : Except OsError Unit × FileContent :=
  if data = [] then (.ok (), f.content)
  else if offsetLimit ≤ f.position + data.length then (.error .invalidArgument, f.content)
  else (.ok (), f.content.write f.position data)

theorem written_part {k : Nat} (fits : f.position + data.length < offsetLimit) (pos : 0 < k)
    (le : k ≤ data.length) :
    written ⟨f.content.write f.position (data.take k), f.position + k⟩ (data.drop k) =
      f.written data := by
  have hsome : data ≠ [] := List.length_pos_iff.1 (Nat.lt_of_lt_of_le pos le)
  have hwrite := f.content.write_append f.position (data.take k) (data.drop k)
  rw [List.length_take_of_le le, List.take_append_drop] at hwrite
  unfold written
  dsimp only
  rw [if_neg hsome, if_neg (Nat.not_le.2 fits)]
  split
  · rename_i hdone
    rw [hdone, FileContent.write_nil] at hwrite
    rw [hwrite]
  · rw [List.length_drop, if_neg (by omega), hwrite]

theorem WriteAll.eq_written {r : Except OsError Unit} (h : f.WriteAll data r g) :
    (r, g.content) = f.written data := by
  induction h with
  | finished f => rfl
  | failed left request =>
    cases request with
    | refused past => rw [written, if_neg left, if_pos past]
  | more left request rest ih =>
    cases request with
    | part fits pos le => exact ih.trans (written_part fits pos le)

theorem exists_writeAll (f : OpenFile) (data : List UInt8) :
    ∃ g, f.WriteAll data (f.written data).1 g := by
  by_cases hnone : data = []
  · subst hnone
    exact ⟨f, .finished f⟩
  by_cases past : offsetLimit ≤ f.position + data.length
  · rw [written, if_neg hnone, if_pos past]
    exact ⟨f, .failed hnone (.refused past)⟩
  · rw [written, if_neg hnone, if_neg past]
    have request := Write.part (Nat.lt_of_not_le past) (List.length_pos_iff.2 hnone) (Nat.le_refl _)
    have rest := WriteAll.finished
      ⟨f.content.write f.position (data.take data.length), f.position + data.length⟩
    rw [← List.drop_length (l := data)] at rest
    exact ⟨_, .more hnone request rest⟩

inductive SeekThen {α : Type} (path : String) (offset : UInt64) (failed : OsError → DeviceError)
    (ask : OpenFile → Except OsError α → OpenFile → Prop) (f : OpenFile) :
    Except DeviceError α → OpenFile → Prop
  | unsought {e : OsError} (refused : f.seek offset = .error e) :
      SeekThen path offset failed ask f (.error (.seekFailed path offset e)) f
  | sought {g h : OpenFile} {r : Except OsError α} (place : f.seek offset = .ok g)
      (asked : ask g r h) : SeekThen path offset failed ask f (r.mapError failed) h

def ReadsAt (f : OpenFile) (path : String) (offset : UInt64) (length : Nat) :
    Except DeviceError (List UInt8) → OpenFile → Prop :=
  f.SeekThen path offset (.readFailed path offset length) fun g => g.ReadExact length

def WritesAt (f : OpenFile) (path : String) (offset : UInt64) (data : List UInt8) :
    Except DeviceError Unit → OpenFile → Prop :=
  f.SeekThen path offset (.writeFailed path offset data.length) fun g => g.WriteAll data

section

variable {α : Type} {path : String} {offset : UInt64} {failed : OsError → DeviceError}
  {ask : OpenFile → Except OsError α → OpenFile → Prop} {r : Except OsError α} {c : FileContent}

/-- Where the cursor stood before has no part in it. -/
theorem seekThen_ends (hoffset : offset.toNat < offsetLimit)
    (h : EndsWith (ask ⟨f.content, offset.toNat⟩) r c) :
    EndsWith (f.SeekThen path offset failed ask) (r.mapError failed) c := by
  have hseek : f.seek offset = .ok ⟨f.content, offset.toNat⟩ := by
    rw [seek, if_neg (Nat.not_le.2 hoffset)]
  obtain ⟨⟨g, hg⟩, hunique⟩ := h
  refine ⟨⟨g, .sought hseek hg⟩, ?_⟩
  intro reply h hcall
  cases hcall with
  | unsought refused => cases hseek.symm.trans refused
  | sought place asked =>
    obtain rfl := Except.ok.inj (hseek.symm.trans place)
    obtain ⟨rfl, hcontent⟩ := hunique _ _ asked
    exact ⟨rfl, hcontent⟩

theorem seekThen_unsought (hoffset : offsetLimit ≤ offset.toNat) :
    EndsWith (f.SeekThen path offset failed ask) (.error (.seekFailed path offset .invalidArgument))
      f.content := by
  have hseek : f.seek offset = .error .invalidArgument := by rw [seek, if_pos hoffset]
  refine ⟨⟨f, .unsought hseek⟩, ?_⟩
  intro reply h hcall
  cases hcall with
  | unsought refused =>
    obtain rfl := Except.error.inj (hseek.symm.trans refused)
    exact ⟨rfl, rfl⟩
  | sought place asked => cases hseek.symm.trans place

end

end OpenFile

namespace Filesystem

open OpenFile

variable {fs : Filesystem} {node : DeviceNode} {f : OpenFile} {offset : UInt64} {length : Nat}
  {data : List UInt8}

theorem readAt_of_lt (h : offset.toNat < offsetLimit) : fs.readAt node offset length =
    (exactly ⟨fs.content node.file, offset.toNat⟩ length).mapError
      (.readFailed node.path offset length) := by
  unfold readAt exactly
  dsimp only
  rw [if_neg (Nat.not_le.2 h)]
  split_ifs <;> rfl

theorem writeAt_of_lt (h : offset.toNat < offsetLimit) : fs.writeAt node offset data =
    let ended := written ⟨fs.content node.file, offset.toNat⟩ data
    (ended.1.mapError (.writeFailed node.path offset data.length)).map
      fun _ => fs.setContent node.file ended.2 := by
  unfold writeAt written
  rw [if_neg (Nat.not_le.2 h)]
  cases data with
  | nil => simp [Except.mapError, Except.map]
  | cons b rest =>
    simp only [List.isEmpty_cons, Bool.false_eq_true, List.cons_ne_nil, if_false]
    split <;> rfl

theorem readsAt_ends (offset : UInt64) (length : Nat) (hf : f.content = fs.content node.file) :
    EndsWith (f.ReadsAt node.path offset length) (fs.readAt node offset length) f.content := by
  by_cases hoffset : offset.toNat < offsetLimit
  · rw [readAt_of_lt hoffset, ← hf]
    apply seekThen_ends hoffset
    exact ⟨exists_readExact _ length, fun _ _ h => h.eq_exactly⟩
  · have hpast : offsetLimit ≤ offset.toNat := Nat.le_of_not_lt hoffset
    rw [readAt, if_pos hpast]
    exact seekThen_unsought hpast

theorem writesAt_ends (offset : UInt64) (data : List UInt8)
    (hf : f.content = fs.content node.file) :
    ∃ reply c, EndsWith (f.WritesAt node.path offset data) reply c ∧
      fs.writeAt node offset data = reply.map fun _ => fs.setContent node.file c := by
  by_cases hoffset : offset.toNat < offsetLimit
  · refine ⟨_, _, seekThen_ends hoffset ?_, writeAt_of_lt hoffset⟩
    rw [hf]
    exact ⟨exists_writeAll _ data, fun _ _ h => Prod.mk.inj h.eq_written⟩
  · have hpast : offsetLimit ≤ offset.toNat := Nat.le_of_not_lt hoffset
    rw [writeAt, if_pos hpast]
    exact ⟨_, _, seekThen_unsought hpast, rfl⟩

end Filesystem

end Lockdown

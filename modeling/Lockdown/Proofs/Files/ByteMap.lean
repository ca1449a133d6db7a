import Lockdown.Proofs.Files.Cursor
import Lockdown.Proofs.Files.Places
import Lockdown.Proofs.Sequence

/-! A file as a map from places to bytes. However writes overlap, each place holds what the last of
them put there; a gap that a write leaves is zeros, and the file ends where the furthest write ends.
This is what the calls on a node come to, by offset or through the one cursor of its open file. -/
namespace Lockdown

inductive NodeWrite where
  | bytes (offset : UInt64) (data : List UInt8)
  | word (offset : UInt64) (width : AccessWidth) (value : UInt64)

namespace NodeWrite

def perform (node : DeviceNode) (fs : Filesystem) : NodeWrite → Except DeviceError Filesystem
  | bytes offset data => fs.writeAt node offset data
  | word offset width value => fs.writeUInt node offset width value

def performEach (node : DeviceNode) (calls : List NodeWrite) (fs : Filesystem) :
    Except DeviceError Filesystem :=
  calls.foldlM (perform node) fs

def offset : NodeWrite → UInt64
  | bytes offset _ => offset
  | word offset _ _ => offset

def data : NodeWrite → List UInt8
  | bytes _ data => data
  | word _ width value =>
    (List.range width.bytes).map fun i => UInt8.ofNat (value.toNat / 256 ^ i)

def stop (c : NodeWrite) : Nat := c.offset.toNat + c.data.length

def byte? (c : NodeWrite) (i : Nat) : Option UInt8 :=
  FileContent.placed? c.offset.toNat c.data i

/-- The byte most recently put at a place. Before that the file has its own, or zero past its
end. -/
def latest (calls : List NodeWrite) (file : FileContent) (i : Nat) : UInt8 :=
  (calls.reverse.findSome? fun c => c.byte? i).getD (file.shown i)

/-- How far the furthest write reaches. One of no bytes reaches nowhere. -/
def extent (calls : List NodeWrite) (size : Nat) : Nat :=
  ((calls.filter fun c => c.data ≠ []).map stop).foldl max size

def apply (file : FileContent) (c : NodeWrite) : FileContent := file.write c.offset.toNat c.data

variable {c : NodeWrite} {calls : List NodeWrite} {fs : Filesystem} {node : DeviceNode}

theorem size_foldl_apply (calls : List NodeWrite) (file : FileContent) :
    (calls.foldl apply file).size = extent calls file.size := by
  induction calls generalizing file with
  | nil => rfl
  | cons c rest ih =>
    rw [List.foldl_cons, ih, apply]
    by_cases hdata : c.data = []
    · simp [extent, hdata]
    · rw [FileContent.write_of_ne_nil hdata]
      simp [extent, hdata, stop]

theorem shown_foldl_apply (calls : List NodeWrite) (file : FileContent) (i : Nat) :
    (calls.foldl apply file).shown i = latest calls file i :=
  foldl_latest (fun file => file.shown i)
    (fun file c => file.shown_write c.offset.toNat c.data i) calls file

theorem byte_foldl_apply (calls : List NodeWrite) (file : FileContent) {i : Nat}
    (h : i < (calls.foldl apply file).size) :
    (calls.foldl apply file).byte i = latest calls file i := by
  rw [← shown_foldl_apply, FileContent.shown, if_pos h]

theorem perform_eq (node : DeviceNode) (fs : Filesystem) (c : NodeWrite) :
    c.perform node fs = fs.writeAt node c.offset c.data := by
  cases c with
  | bytes offset data => rfl
  | word offset width value => rw [perform, Filesystem.writeUInt, bytesLE_eq_map]; rfl

theorem performEach_eq (hstored : node.file < fs.contents.length)
    (hcalls : ∀ c ∈ calls, c.stop < offsetLimit) : performEach node calls fs =
      .ok (fs.setContent node.file (calls.foldl apply (fs.content node.file))) := by
  induction calls generalizing fs with
  | nil => exact congrArg Except.ok (fs.setContent_content node.file).symm
  | cons c rest ih =>
    obtain ⟨hc, hrest⟩ := List.forall_mem_cons.1 hcalls
    have hstored' := Filesystem.stored_setContent hstored (apply (fs.content node.file) c)
    have hperform : c.perform node fs =
        .ok (fs.setContent node.file (apply (fs.content node.file) c)) := by
      rw [perform_eq, Filesystem.writeAt_inside hc]
      rfl
    rw [performEach, List.foldlM_cons, hperform]
    refine (ih hstored' hrest).trans ?_
    rw [Filesystem.content_setContent hstored, Filesystem.setContent_setContent, List.foldl_cons]

end NodeWrite

/-- The writing calls of a run with their answers. Any reads may come between them. -/
inductive OpenFile.Runs (path : String) :
    OpenFile → List NodeWrite → List (Except DeviceError Unit) → OpenFile → Prop
  | done (f : OpenFile) : Runs path f [] [] f
  | read {f g h : OpenFile} {calls : List NodeWrite} {replies : List (Except DeviceError Unit)}
      {offset : UInt64} {length : Nat} {reply : Except DeviceError (List UInt8)}
      (call : f.ReadsAt path offset length reply g) (rest : Runs path g calls replies h) :
      Runs path f calls replies h
  | write {f g h : OpenFile} {calls : List NodeWrite} {replies : List (Except DeviceError Unit)}
      {c : NodeWrite} {reply : Except DeviceError Unit}
      (call : f.WritesAt path c.offset c.data reply g) (rest : Runs path g calls replies h) :
      Runs path f (c :: calls) (reply :: replies) h

namespace NodeWrite

variable {c : NodeWrite} {calls : List NodeWrite} {fs : Filesystem} {node : DeviceNode}

section

open OpenFile Filesystem

variable {f g : OpenFile} (hstored : node.file < fs.contents.length)
include hstored

theorem writesAt_ends (f : OpenFile) (hc : c.stop < offsetLimit) :
    EndsWith (f.WritesAt node.path c.offset c.data) (.ok ()) (apply f.content c) := by
  -- The files in which the node's file is the open one.
  have hset : ∀ file, (fs.setContent node.file file).content node.file = file :=
    fun file => content_setContent hstored file
  obtain ⟨reply, file, hends, hwrite⟩ :=
    Filesystem.writesAt_ends c.offset c.data (hset f.content).symm
  rw [writeAt_inside hc, hset, setContent_setContent] at hwrite
  cases reply with
  | error e => cases hwrite
  | ok done =>
    have hfiles := Except.ok.inj hwrite
    rw [setContent_setContent] at hfiles
    have hfile := congrArg (fun fs => fs.content node.file) hfiles
    dsimp only at hfile
    rw [hset, hset] at hfile
    rw [apply, hfile]
    exact hends

theorem exists_runs (f : OpenFile) (hcalls : ∀ c ∈ calls, c.stop < offsetLimit) :
    ∃ g, Runs node.path f calls (calls.map fun _ => .ok ()) g := by
  induction calls generalizing f with
  | nil => exact ⟨f, .done f⟩
  | cons c rest ih =>
    obtain ⟨hc, hrest⟩ := List.forall_mem_cons.1 hcalls
    obtain ⟨⟨g, hg⟩, -⟩ := writesAt_ends hstored f hc
    obtain ⟨h, hh⟩ := ih g hrest
    exact ⟨h, .write hg hh⟩

theorem eq_of_runs {replies : List (Except DeviceError Unit)}
    (h : Runs node.path f calls replies g) (hcalls : ∀ c ∈ calls, c.stop < offsetLimit) :
    replies = calls.map (fun _ => .ok ()) ∧ g.content = calls.foldl apply f.content := by
  induction h with
  | done f => exact ⟨rfl, rfl⟩
  | read call rest ih =>
    obtain ⟨-, hcontent⟩ := (readsAt_ends _ _ (content_setContent hstored _).symm).2 _ _ call
    rw [← hcontent]
    exact ih hcalls
  | write call rest ih =>
    obtain ⟨hc, hrest⟩ := List.forall_mem_cons.1 hcalls
    obtain ⟨rfl, hcontent⟩ := (writesAt_ends hstored _ hc).2 _ _ call
    obtain ⟨rfl, hlast⟩ := ih hrest
    rw [hcontent] at hlast
    exact ⟨rfl, hlast⟩

theorem runs_end (f : OpenFile) (hcalls : ∀ c ∈ calls, c.stop < offsetLimit) :
    EndsWith (Runs node.path f calls) (calls.map fun _ => .ok ()) (calls.foldl apply f.content) :=
  ⟨exists_runs hstored f hcalls, fun _ _ h => eq_of_runs hstored h hcalls⟩

end

theorem slice_foldl_apply (calls : List NodeWrite) (file : FileContent) {start n : Nat}
    (h : start + n ≤ (calls.foldl apply file).size) : (calls.foldl apply file).slice start n =
      (List.range n).map fun i => latest calls file (start + i) := by
  apply List.map_congr_left
  intro i hi
  have hlt := List.mem_range.1 hi
  exact byte_foldl_apply calls file (by omega)

theorem readUInt_writeUInt (hstored : node.file < fs.contents.length) {offset : UInt64}
    {width : AccessWidth} (hlimit : offset.toNat + width.bytes < offsetLimit) (value : UInt64) :
    ∃ later read, fs.writeUInt node offset width value = .ok later ∧
      later.readUInt node offset width = .ok read ∧
      read.toNat = value.toNat % 2 ^ (8 * width.bytes) := by
  have hlength : (bytesLE width.bytes value).length = width.bytes := length_bytesLE _ _
  have hdata : bytesLE width.bytes value ≠ [] := by
    rw [← List.length_pos_iff, hlength]
    exact width.bytes_pos
  have hread := ((fs.content node.file).slice_write offset.toNat (bytesLE width.bytes value))
  rw [hlength] at hread
  refine ⟨_, _, Filesystem.writeUInt_inside hlimit value, Filesystem.readUInt_inside ?_ hlimit, ?_⟩
  · rw [Filesystem.content_setContent hstored, FileContent.write_of_ne_nil hdata, hlength]
    exact Nat.le_max_right _ _
  · rw [Filesystem.content_setContent hstored, hread, ofBytesLE_bytesLE, toNat_and_mask,
      Nat.pow_mul]

/-- A node of a regular file is a map of bytes. Calls at places that can be sought all succeed.
Then each place holds the byte last written there, a gap is zeros, and the file ends at the furthest
end of a write that had bytes; a word inside it is the value of its bytes, a read that passes its
end fails as a read. The same comes of the calls through one cursor, wherever it stood, whatever is
read in between and in whatever parts the bytes are moved, and no read changes the file. -/
theorem byteMap_exact {path : String} (hopen : fs.openNode path = .ok node)
    (hcalls : ∀ c ∈ calls, c.stop < offsetLimit) :
    let before := fs.content node.file
    ∃ file, performEach node calls fs = .ok (fs.setContent node.file file) ∧
      let after := fs.setContent node.file file
      after.content node.file = file ∧
      file.size = extent calls before.size ∧
      (∀ i < file.size, file.byte i = latest calls before i) ∧
      (∀ (offset : UInt64) (width : AccessWidth), offset.toNat + width.bytes < offsetLimit →
        offset.toNat + width.bytes ≤ file.size →
        ∃ value, after.readUInt node offset width = .ok value ∧ value.toNat =
          numberLE ((List.range width.bytes).map fun i => latest calls before (offset.toNat + i))) ∧
      (∀ (offset : UInt64) (width : AccessWidth) (value : UInt64),
        offset.toNat + width.bytes < offsetLimit →
        ∃ later read, after.writeUInt node offset width value = .ok later ∧
          later.readUInt node offset width = .ok read ∧
          read.toNat = value.toNat % 2 ^ (8 * width.bytes)) ∧
      (∀ (offset : UInt64) (length : Nat), offset.toNat < offsetLimit → 0 < length →
        file.size < offset.toNat + length → ∃ cause,
          after.readAt node offset length = .error (.readFailed path offset length cause)) ∧
      (∀ (offset : UInt64) (width : AccessWidth), offset.toNat < offsetLimit →
        file.size < offset.toNat + width.bytes → ∃ cause,
          after.readUInt node offset width = .error (.readFailed path offset width.bytes cause)) ∧
      (∀ f : OpenFile, f.content = before →
        OpenFile.EndsWith (OpenFile.Runs path f calls) (calls.map fun _ => .ok ()) file) ∧
      ∀ (f : OpenFile) (offset : UInt64) (length : Nat), f.content = file →
        OpenFile.EndsWith (f.ReadsAt path offset length)
          (after.readAt node offset length) file := by
  intro before
  obtain ⟨hpath, hfile⟩ := Filesystem.openNode_eq_ok_iff.1 hopen
  have hstored := Filesystem.stored_of_openFile hfile
  have hcontent := Filesystem.content_setContent hstored (calls.foldl apply before)
  have hstored' := Filesystem.stored_setContent hstored (calls.foldl apply before)
  refine ⟨calls.foldl apply before, performEach_eq hstored hcalls, hcontent,
    size_foldl_apply calls before, fun i => byte_foldl_apply calls before, ?_, ?_, ?_, ?_, ?_, ?_⟩
  · intro offset width hlimit hin
    refine ⟨_, Filesystem.readUInt_inside (hin.trans_eq (congrArg _ hcontent.symm)) hlimit, ?_⟩
    rw [hcontent, slice_foldl_apply calls before hin, toNat_ofBytesLE]
    rw [List.length_map, List.length_range]
    exact width.bytes_le_eight
  · intro offset width value hlimit
    exact readUInt_writeUInt hstored' hlimit value
  · intro offset length hoffset hpos hend
    rw [← hpath]
    exact Filesystem.readAt_past_end hoffset hpos (by rwa [hcontent])
  · intro offset width hoffset hend
    obtain ⟨cause, hread⟩ := Filesystem.readAt_past_end hoffset width.bytes_pos (by rwa [hcontent])
    refine ⟨cause, ?_⟩
    rw [Filesystem.readUInt, hread, ← hpath]
    rfl
  · intro f hf
    have hends := runs_end hstored f hcalls
    rwa [hf, hpath] at hends
  · intro f offset length hf
    rw [← hpath, ← hf]
    exact Filesystem.readsAt_ends offset length (by rw [hf, hcontent])

def scratch : Filesystem := Filesystem.empty.addFile "dev/mem" (.zeros 2)

def scratchCalls : List NodeWrite :=
  [.word 4 .dword 0xDEADBEEF, .bytes 1 [0xAA], .word 6 .word 0x31122, .bytes 100 []]

theorem byteMap_exact_gap :
    let node : DeviceNode := ⟨"dev/mem", 0⟩
    scratch.openNode "dev/mem" = .ok node ∧ (∀ c ∈ scratchCalls, c.stop < offsetLimit) ∧
    ∃ after, performEach node scratchCalls scratch = .ok after ∧
      (after.content 0).toList = [0, 0xAA, 0, 0, 0xEF, 0xBE, 0x22, 0x11] ∧
      (∃ value, after.readUInt node 6 .word = .ok value ∧ value.toNat = 0x1122) ∧
      ∃ cause, after.readUInt node 6 .dword = .error (.readFailed "dev/mem" 6 4 cause) := by
  intro node
  have hopen : scratch.openNode "dev/mem" = .ok node := by decide +kernel
  have hcalls : ∀ c ∈ scratchCalls, c.stop < offsetLimit := by decide
  obtain ⟨file, hperform, hcontent, hsize, hbyte, hinside, -, -, hpast, -⟩ :=
    byteMap_exact hopen hcalls
  have hsize' : file.size = 8 := hsize.trans (by decide +kernel)
  obtain ⟨value, hread, hvalue⟩ := hinside 6 .word (by decide) (hsize'.symm ▸ by decide)
  refine ⟨hopen, hcalls, _, hperform, ?_, ⟨value, hread, hvalue.trans (by decide +kernel)⟩,
    hpast 6 .dword (by decide) (hsize'.symm ▸ by decide)⟩
  rw [show (0 : Nat) = node.file from rfl, hcontent, FileContent.toList, hsize']
  have hlist : file.slice 0 8 =
      (List.range 8).map fun i => latest scratchCalls (scratch.content node.file) i := by
    apply List.map_congr_left
    intro i hi
    rw [Nat.zero_add]
    exact hbyte i (hsize'.symm ▸ List.mem_range.1 hi)
  rw [hlist]
  decide +kernel

end NodeWrite

end Lockdown

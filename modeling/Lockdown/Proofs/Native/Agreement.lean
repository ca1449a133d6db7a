import Lockdown.Proofs.Native.Mirror

/-! The two backends agree. What the files mirror is kept by every transaction, with whatever nodes
are open by then, so by every sequence of accesses that stays on functions with a node and inside
the memory that the files hold. -/
namespace Lockdown

variable {α : Type}

open Access

namespace Native

variable {t : Native}

theorem reaches_onFiles {f : Filesystem → Except DeviceError α} {a : α} (h : f t.files = .ok a) :
    Reaches t (onFiles f) fun b u => b = a ∧ u = t := by
  refine (Reaches.observe t id).andThen ?_
  rw [id_eq, h]
  exact .pure ⟨rfl, rfl⟩

theorem reaches_change {f : Filesystem → Except DeviceError Filesystem} {files : Filesystem}
    (h : f t.files = .ok files) :
    Reaches t (change f) fun a u => a = () ∧ u = { t with files } :=
  (reaches_onFiles h).andThen (.update t _)

theorem reaches_keptNode {kept : Native → Option DeviceNode} {path : Native → String}
    {announce : Bool} {keep : DeviceNode → Native → Native} {post : DeviceNode → Native → Prop}
    (hkept : ∀ node, kept t = some node → post node t) {k : Nat}
    (hfile : t.files.openFile (path t) = .ok k)
    (hopened : post ⟨path t, k⟩ (keep ⟨path t, k⟩ t)) :
    Reaches t (keptNode kept path announce keep) post := by
  have hopen : t.files.openNode (path t) = .ok ⟨path t, k⟩ := by rw [Filesystem.openNode, hfile]
  have hkeep : Reaches t (do Access.update (keep ⟨path t, k⟩); return ⟨path t, k⟩) post :=
    (Reaches.update t _).andThen (.pure hopened)
  refine (Reaches.observe t id).andThen ?_
  rw [id_eq]
  cases hnode : kept t with
  | some node => exact .pure (hkept node hnode)
  | none =>
    refine (reaches_onFiles hopen).andThen ?_
    cases announce with
    | false => exact hkeep
    | true => exact (Reaches.append t _).andThen hkeep

/-- The files that were attached mirror the simulated platform by now, and the nodes that are open
are those at their paths. -/
structure Tracks (files : Filesystem) (root : String) (n : Nat) (s : Simulator) (t : Native) :
    Prop where
  mirrors : Mirrors root n s t.files
  rooted : t.root = root
  entries : t.files.entries = files.entries
  pciNodes : ∀ l node, t.pciNodes.lookup l = some node →
    t.files.openFile (pciPath root l) = .ok node.file
  memNode : ∀ node, t.memNode = some node → t.files.openFile (memPath root) = .ok node.file

variable {files : Filesystem} {root : String} {n : Nat} {s : Simulator} {l : PciLocation}
  {address : UInt64} {w : AccessWidth}

theorem Tracks.store (h : Tracks files root n s t) {s' : Simulator} {k : Nat} {c : FileContent}
    (hmirrors : Mirrors root n s' (t.files.setContent k c)) :
    Tracks files root n s' { t with files := t.files.setContent k c } where
  mirrors := hmirrors
  rooted := h.rooted
  entries := h.entries
  pciNodes l node hnode := by
    rw [Filesystem.openFile_setContent]
    exact h.pciNodes l node hnode
  memNode node hnode := by
    rw [Filesystem.openFile_setContent]
    exact h.memNode node hnode

theorem Tracks.of_undisturbed (h : Tracks files root n s t) {s' : Simulator}
    (hs : s.Undisturbed s') : Tracks files root n s' t :=
  ⟨h.mirrors.of_undisturbed hs, h.rooted, h.entries, h.pciNodes, h.memNode⟩

theorem reaches_pciNode? (h : Tracks files root n s t)
    (hpresent : files.hasPath (pciPath root l) = true) :
    Reaches t (pciNode? l) fun found u => ∃ node, found = some node ∧ Tracks files root n s u ∧
      u.files.openFile (pciPath root l) = .ok node.file := by
  obtain ⟨k, hk, -⟩ := h.mirrors.config l ((Filesystem.hasPath_congr h.entries _).trans hpresent)
  have hopened : t.files.openFile (pciPath t.root l) = .ok k := by rw [h.rooted, hk]
  refine Reaches.tryCatch ?_
  rw [map_eq_pure_bind]
  refine Reaches.bind (?_ : Reaches t _ fun node u => Tracks files root n s u ∧
      u.files.openFile (pciPath root l) = .ok node.file) ?_
  · refine reaches_keptNode (k := k) ?_ hopened ?_
    · intro node hnode
      rw [← pciPath_start]
      exact ⟨h, h.pciNodes l.start node hnode⟩
    · refine ⟨⟨h.mirrors, h.rooted, h.entries, ?_, h.memNode⟩, hk⟩
      intro m node hnode
      rw [List.lookup_cons] at hnode
      split at hnode
      · rename_i hkey
        obtain rfl := Option.some.inj hnode
        have hstart : m = l.start := beq_iff_eq.1 hkey
        rw [hstart, pciPath_start]
        exact hk
      · exact h.pciNodes m node hnode
  · rintro node u ⟨htracks, hfile⟩
    exact .pure ⟨node, rfl, htracks, hfile⟩

theorem reaches_mem (h : Tracks files root n s t) :
    Reaches t mem fun node u => Tracks files root n s u ∧
      u.files.openFile (memPath root) = .ok node.file := by
  obtain ⟨k, hk, -⟩ := h.mirrors.memory
  have hopened : t.files.openFile (memPath t.root) = .ok k := by rw [h.rooted, hk]
  refine reaches_keptNode (k := k) ?_ hopened ?_
  · intro node hnode
    exact ⟨h, h.memNode node hnode⟩
  · refine ⟨⟨h.mirrors, h.rooted, h.entries, h.pciNodes, ?_⟩, hk⟩
    intro node hnode
    obtain rfl := Option.some.inj hnode
    exact hk

theorem toNat_nodeOffset (l : PciLocation) : (nodeOffset l).toNat = l.dword.offset.toNat :=
  UInt32.toNat_toUInt64 _

theorem Tracks.alone (h : Tracks files root n s t) {path : String}
    (halone : files.Alone root path) : t.files.Alone root path := by
  intro other hother k hpath hopened
  rw [Filesystem.openFile_congr h.entries] at hpath hopened
  exact halone other hother k hpath hopened

theorem Tracks.node (h : Tracks files root n s t) (hpresent : files.hasPath (pciPath root l) = true)
    {k : Nat} (hk : t.files.openFile (pciPath root l) = .ok k) :
    256 ≤ (t.files.content k).size ∧
      (ofBytesLE ((t.files.content k).slice l.dword.offset.toNat 4)).toUInt32 =
        s.config l.dword := by
  obtain ⟨j, hj, hnode⟩ :=
    h.mirrors.config l ((Filesystem.hasPath_congr h.entries _).trans hpresent)
  obtain rfl : j = k := Except.ok.inj (hj.symm.trans hk)
  exact hnode

theorem reaches_readConfig (h : Tracks files root n s t)
    (hpresent : files.hasPath (pciPath root l) = true) :
    Reaches t (readConfig l) fun v u => v = s.config l.dword ∧ Tracks files root n s u := by
  refine (reaches_pciNode? h hpresent).bind ?_
  rintro _ u ⟨node, rfl, htracks, hfile⟩
  obtain ⟨hsize, hvalue⟩ := htracks.node hpresent hfile
  have hroom := l.dword_offset_aligned.2
  have hbytes : AccessWidth.dword.bytes = 4 := rfl
  have hplace := toNat_nodeOffset l
  have hread : u.files.readUInt node (nodeOffset l) .dword = .ok _ :=
    Filesystem.readUInt_inside (by omega) (by unfold offsetLimit; omega)
  refine (reaches_onFiles hread).andThen (.pure ⟨?_, htracks⟩)
  rw [← hvalue, hplace, hbytes]

theorem reaches_writeConfig (h : Tracks files root n s t)
    (hpresent : files.hasPath (pciPath root l) = true)
    (halone : files.Alone root (pciPath root l)) (value : UInt32) :
    Reaches t (writeConfig l value) fun a u =>
      a = () ∧ Tracks files root n (s.setDword l.dword value) u := by
  refine (reaches_pciNode? h hpresent).bind ?_
  rintro _ u ⟨node, rfl, htracks, hfile⟩
  obtain ⟨hsize, -⟩ := htracks.node hpresent hfile
  have hroom := l.dword_offset_aligned.2
  have hbytes : AccessWidth.dword.bytes = 4 := rfl
  have hplace := toNat_nodeOffset l
  have hwrite : u.files.writeUInt node (nodeOffset l) .dword value.toUInt64 = .ok _ :=
    Filesystem.writeUInt_inside (by unfold offsetLimit; omega) _
  rw [hplace] at hwrite
  have hchange : Reaches u (change fun fs =>
      fs.writeUInt node (nodeOffset l) .dword value.toUInt64) _ := reaches_change hwrite
  refine hchange.mono ?_
  rintro a _ ⟨rfl, rfl⟩
  exact ⟨rfl, htracks.store (htracks.mirrors.setDword hfile (htracks.alone halone) hsize value)⟩

theorem reaches_memRead (h : Tracks files root n s t) (hin : address.toNat + w.bytes ≤ n)
    (hn : n < offsetLimit) :
    Reaches t (readNode mem address w) fun v u =>
      v = s.peek address w ∧ Tracks files root n s u := by
  refine (reaches_mem h).bind ?_
  rintro node u ⟨htracks, hfile⟩
  obtain ⟨k, hk, hsize, -⟩ := htracks.mirrors.memory
  obtain rfl : k = node.file := Except.ok.inj (hk.symm.trans hfile)
  have hread : u.files.readUInt node address w = .ok _ :=
    Filesystem.readUInt_inside (by omega) (by omega)
  refine (reaches_onFiles hread).mono ?_
  rintro v _ ⟨rfl, rfl⟩
  exact ⟨htracks.mirrors.peek hfile hin, htracks⟩

theorem reaches_memWrite (h : Tracks files root n s t) (halone : files.Alone root (memPath root))
    (hin : address.toNat + w.bytes ≤ n) (hn : n < offsetLimit) (value : UInt64) :
    Reaches t (writeNode mem address w value) fun a u =>
      a = () ∧ Tracks files root n (s.poke address w value) u := by
  refine (reaches_mem h).bind ?_
  rintro node u ⟨htracks, hfile⟩
  have hwrite : u.files.writeUInt node address w value = .ok _ :=
    Filesystem.writeUInt_inside (by omega) _
  have hchange : Reaches u (change fun fs => fs.writeUInt node address w value) _ :=
    reaches_change hwrite
  refine hchange.mono ?_
  rintro a _ ⟨rfl, rfl⟩
  exact ⟨rfl, htracks.store (htracks.mirrors.poke hfile (htracks.alone halone) hin hn value)⟩

theorem agree_of_reaches {x : Access Simulator α} {y : Access Native α}
    (h : ∀ s t, Tracks files root n s t → ∃ a s', Leads s x (.ok a) s' ∧
      Reaches t y fun b u => b = a ∧ Tracks files root n s' u) :
    Agree (Tracks files root n) x y := by
  intro st st' htracks
  obtain ⟨a, s', hleads, hreaches⟩ := h st.platform st'.platform htracks
  obtain ⟨hresult, hdisturbed⟩ := hleads st (.refl _)
  obtain ⟨b, after, hout, rfl, hafter⟩ := hreaches st'.journal
  have hout' : y.outcome st' = (.ok b, after) := hout
  rw [hout', hresult]
  exact ⟨rfl, hafter.of_undisturbed hdisturbed⟩

theorem agree_pciReadDword (hpresent : files.hasPath (pciPath root l) = true) :
    Agree (Tracks files root n) (Bus.pciReadDword l) (Bus.pciReadDword l) :=
  agree_of_reaches fun s _ htracks => ⟨s.config l.dword, s,
    (Bus.yields_pciReadDword s l).leads, reaches_readConfig htracks hpresent⟩

theorem agree_pciWriteDword (hpresent : files.hasPath (pciPath root l) = true)
    (halone : files.Alone root (pciPath root l)) (value : UInt32) :
    Agree (Tracks files root n) (Bus.pciWriteDword l value) (Bus.pciWriteDword l value) :=
  agree_of_reaches fun s _ htracks => ⟨(), s.setDword l.dword value,
    Bus.leads_pciWriteDword s l value, reaches_writeConfig htracks hpresent halone value⟩

def Covers (n : Nat) (address : UInt64) (length : Nat) : Prop :=
  length ≠ 0 → address.toNat + length ≤ n

instance (n : Nat) (address : UInt64) (length : Nat) : Decidable (Covers n address length) :=
  inferInstanceAs (Decidable (length ≠ 0 → address.toNat + length ≤ n))

theorem Covers.inside {length offset : Nat} (h : Covers n address length) (hn : n < offsetLimit)
    (hoffset : offset + w.bytes ≤ length) :
    (address + UInt64.ofNat offset).toNat + w.bytes ≤ n := by
  have hpos := w.bytes_pos
  have hroom := h (by omega)
  have hsmall : offset < 2 ^ 64 := by
    unfold offsetLimit at hn
    omega
  unfold offsetLimit at hn
  rw [UInt64.toNat_add, UInt64.toNat_ofNat_of_lt' hsmall]
  omega

theorem readsAgree_memory (hn : n < offsetLimit) {length : Nat} (h : Covers n address length) :
    Bus.ReadsAgree (Tracks files root n) address length := by
  intro offset w hoffset
  exact agree_of_reaches fun s _ htracks => ⟨_, s, (Bus.yields_memRead s _ w).leads,
    reaches_memRead htracks (h.inside hn hoffset) hn⟩

theorem writesAgree_memory (hn : n < offsetLimit) (halone : files.Alone root (memPath root))
    {length : Nat} (h : Covers n address length) :
    Bus.WritesAgree (Tracks files root n) address length := by
  intro offset w value hoffset
  refine agree_of_reaches fun s _ htracks => ⟨(), s.poke _ w value, ?_,
    reaches_memWrite htracks halone (h.inside hn hoffset) hn value⟩
  have hleads := Bus.leads_memWrite s (address + UInt64.ofNat offset) w value
  rwa [Simulator.storeMemory_of_unhooked htracks.mirrors.unhooked] at hleads

def Inside (files : Filesystem) (root : String) (n : Nat) : BusRequest → Prop
  | .readPci l _ | .writePci l _ _ => files.hasPath (pciPath root l) = true
  | .readPhysical address length => Covers n address length
  | .writePhysical address data => Covers n address data.length
  | .readMmio address size | .writeMmio address size _ => Covers n address size.toNat

instance (files : Filesystem) (root : String) (n : Nat) : DecidablePred (Inside files root n)
  | .readPci l _ | .writePci l _ _ =>
    inferInstanceAs (Decidable (files.hasPath (pciPath root l) = true))
  | .readPhysical address length => inferInstanceAs (Decidable (Covers n address length))
  | .writePhysical address data => inferInstanceAs (Decidable (Covers n address data.length))
  | .readMmio address size | .writeMmio address size _ =>
    inferInstanceAs (Decidable (Covers n address size.toNat))

/-- The node that a request writes to. -/
def target? (root : String) : BusRequest → Option String
  | .writePci l _ _ => some (pciPath root l)
  | .writePhysical _ _ | .writeMmio _ _ _ => some (memPath root)
  | _ => none

theorem isNode_of_target? {r : BusRequest} {path : String} (h : target? root r = some path) :
    Filesystem.IsNode root path := by
  cases r with
  | writePci l value size => exact Option.some.inj h ▸ .function l
  | writePhysical address data => exact Option.some.inj h ▸ .memory
  | writeMmio address size value => exact Option.some.inj h ▸ .memory
  | _ => cases h

theorem agree_perform (hn : n < offsetLimit) {r : BusRequest} (h : Inside files root n r)
    (halone : ∀ path, target? root r = some path → files.Alone root path) :
    Agree (Tracks files root n) r.perform r.perform := by
  cases r with
  | readPci l size =>
    exact (Bus.agree_readPci (agree_pciReadDword h) size).bind fun _ => .pure _
  | writePci l value size =>
    have hwrite := agree_pciWriteDword (n := n) h (halone _ rfl)
    exact (Bus.agree_writePci (agree_pciReadDword h) hwrite fun _ => rfl).bind fun _ => .pure _
  | readPhysical address length =>
    exact (Bus.agree_readPhysical (readsAgree_memory hn h)).bind fun _ => .pure _
  | writePhysical address data =>
    exact (Bus.agree_writePhysical (writesAgree_memory hn (halone _ rfl) h)).bind fun _ => .pure _
  | readMmio address size =>
    exact (Bus.agree_readMmio (readsAgree_memory hn h)).bind fun _ => .pure _
  | writeMmio address size value =>
    have hwrite := writesAgree_memory (n := n) hn (halone _ rfl) h
    exact (Bus.agree_writeMmio hwrite fun _ _ => rfl).bind fun _ => .pure _

def smallFiles : Filesystem :=
  (Filesystem.empty.addFile "proc/bus/pci/00/00.0" ⟨256, fun i => UInt8.ofNat i⟩).addFile "dev/mem"
    ⟨16, fun i => UInt8.ofNat (0xA0 + i)⟩

theorem entries_smallFiles : smallFiles.entries =
    [(["dev", "mem"], .file 1), (["dev"], .directory),
      (["proc", "bus", "pci", "00", "00.0"], .file 0),
      (["proc", "bus", "pci", "00"], .directory), (["proc", "bus", "pci"], .directory),
      (["proc", "bus"], .directory), (["proc"], .directory)] := by decide +kernel

def smallPlatform : Simulator :=
  { Simulator.ofThreads 1 with
    config := fun l => (ofBytesLE ((smallFiles.content 0).slice l.offset.toNat 4)).toUInt32
    memory := fun address => UInt8.ofNat (0xA0 + address.toNat) }

theorem mirrors_small : Mirrors "" 16 smallPlatform smallFiles where
  unhooked := rfl
  config l hpresent := by
    obtain ⟨place, entry, hplace, hentry⟩ := Filesystem.exists_entry_of_hasPath hpresent
    have hnames : place = ["proc", "bus", "pci", l.busName, l.functionName] := by
      rw [PciLocation.pciPath_eq] at hplace
      obtain ⟨base, hbase, rfl⟩ := l.below_nodeName.place_eq hplace
      have habove : Filesystem.namesAbove "" = [] := by decide
      rw [habove] at hbase
      rw [← Except.ok.inj hbase, l.pathNames_nodeName]
      rfl
    have hmem := Filesystem.mem_of_entry? hentry (by simp [hnames])
    rw [entries_smallFiles, hnames] at hmem
    have hfile : (l.busName = "00" ∧ l.functionName = "00.0") ∧ entry = .file 0 := by
      simpa using hmem
    rw [hfile.2] at hentry
    exact ⟨0, Filesystem.openFile_eq_ok_iff.2 ⟨place, hplace, hentry⟩, Nat.le_refl _, rfl⟩
  memory := by
    refine ⟨1, by decide +kernel, rfl, ?_⟩
    intro i hi
    have hindex : (UInt64.ofNat i).toNat = i :=
      UInt64.toNat_ofNat_of_lt' (Nat.lt_trans hi (by decide))
    change UInt8.ofNat (0xA0 + i) = UInt8.ofNat (0xA0 + (UInt64.ofNat i).toNat)
    rw [hindex]

/-- Truncated places, merged bytes, a transfer in several chunks and a size that is refused. -/
def smallRequests : List BusRequest :=
  [.writePci ⟨0x100, 0x20, 8, 0x112⟩ 0xAB 1, .readPci ⟨0, 0, 0, 0x10⟩ 4,
    .writePhysical 3 [1, 2, 3, 4, 5, 6, 7], .readPhysical 0 16, .writeMmio 12 4 0xDEADBEEF,
    .readMmio 4 3]

theorem inside_small : ∀ r ∈ smallRequests, Inside smallFiles "" 16 r := by
  decide +kernel

theorem unlinked_small : smallFiles.Unlinked := by
  intro p q number hp hq
  rw [entries_smallFiles] at hp hq
  simp only [List.mem_cons, Prod.mk.injEq, reduceCtorEq, Entry.file.injEq, and_false, false_or,
    List.not_mem_nil, or_false] at hp hq
  rcases hp with ⟨rfl, rfl⟩ | ⟨rfl, rfl⟩ <;> rcases hq with ⟨rfl, hnumber⟩ | ⟨rfl, hnumber⟩
  · rfl
  · cases hnumber
  · cases hnumber
  · rfl

end Native

end Lockdown

import Lockdown.Engine
import Lockdown.Proofs.Engine.Reading
import Lockdown.Proofs.Native.Agreement
import Lockdown.Proofs.Store.Acceptance

/-! An eight-byte register behind a device file is written in two halves, each of which is read
before it is written. The read is what can fail, and when that of the high half does, the low half
stays written. It fails so where the file ends between the two, and nowhere else. -/
namespace Lockdown

variable {α : Type}

open Access

namespace Filesystem

def storeDword (fs : Filesystem) (node : DeviceNode) (l : PciLocation) (value : UInt32) :
    Filesystem :=
  fs.setContent node.file
    ((fs.content node.file).write l.dword.offset.toNat (bytesLE 4 value.toUInt64))

def HoldsDword (fs : Filesystem) (node : DeviceNode) (l : PciLocation) : Prop :=
  l.dword.offset.toNat + 4 ≤ (fs.content node.file).size

instance (fs : Filesystem) (node : DeviceNode) (l : PciLocation) :
    Decidable (fs.HoldsDword node l) :=
  inferInstanceAs (Decidable (_ ≤ _))

variable {fs : Filesystem} {node : DeviceNode} {l m : PciLocation}

theorem holdsDword_storeDword (h : fs.HoldsDword node l) (value : UInt32) :
    (fs.storeDword node l value).HoldsDword node m ↔ fs.HoldsDword node m := by
  unfold HoldsDword at h
  have hstored : node.file < fs.contents.length := stored_of_size_pos (by omega)
  have hsize : ((fs.storeDword node l value).content node.file).size =
      (fs.content node.file).size := by
    rw [storeDword, content_setContent hstored]
    exact FileContent.size_write (by rwa [length_bytesLE])
  rw [HoldsDword, hsize, HoldsDword]

end Filesystem

open Filesystem (HoldsDword)

namespace Native

variable {t : Native} {l m : PciLocation} {node : DeviceNode} {value : UInt32}

section

variable {kept : Native → Option DeviceNode} {path : Native → String} {announce : Bool}
  {keep : DeviceNode → Native → Native} {err : DeviceError}

theorem reaches_kept (h : kept t = some node) :
    Reaches t (keptNode kept path announce keep) fun found u => found = node ∧ u = t := by
  refine (Reaches.observe t id).andThen ?_
  rw [id_eq, h]
  exact .pure ⟨rfl, rfl⟩

theorem stops_onFiles {f : Filesystem → Except DeviceError α} (h : f t.files = .error err) :
    Stops t (onFiles f) (.device err) (· = t) := by
  refine (Reaches.observe t id).stops ?_
  rintro _ _ ⟨rfl, rfl⟩
  rw [h]
  exact .throw _ _

theorem stops_keptNode (hkept : kept t = none) (hopen : t.files.openNode (path t) = .error err) :
    Stops t (keptNode kept path announce keep) (.device err) (· = t) := by
  refine (Reaches.observe t id).stops ?_
  rintro _ _ ⟨rfl, rfl⟩
  rw [hkept]
  exact (stops_onFiles hopen).bind _

end

def nodeFor (t : Native) (l : PciLocation) : Except DeviceError DeviceNode :=
  match t.pciNodes.lookup l.start with
  | some node => .ok node
  | none => t.files.openNode (pciPath t.root l)

/-- The files are these, and the node is open for the function, at whatever offset. -/
structure Opened (files : Filesystem) (node : DeviceNode) (l : PciLocation) (u : Native) :
    Prop where
  files_eq : u.files = files
  kept : u.pciNodes.lookup l.start = some node

def openPci (l : PciLocation) : Access Native DeviceNode :=
  keptNode (fun s => s.pciNodes.lookup l.start) (fun s => pciPath s.root l) true
    fun node s => { s with pciNodes := (l.start, node) :: s.pciNodes }

theorem pciNode?_eq (l : PciLocation) : pciNode? l = tryCatch (some <$> openPci l) fun
    | .device (.openFailed _ .notFound) => return none
    | e => throw e := rfl

theorem Opened.nodeFor_eq {files : Filesystem} (h : Opened files node l t)
    (hstart : m.start = l.start) : t.nodeFor m = .ok node := by
  rw [nodeFor, hstart, h.kept]

theorem reaches_openPci (h : t.nodeFor l = .ok node) :
    Reaches t (openPci l) fun found u => found = node ∧ Opened t.files node l u := by
  unfold nodeFor at h
  cases hkept : t.pciNodes.lookup l.start with
  | some kept =>
    rw [hkept] at h
    obtain rfl := Except.ok.inj h
    refine (reaches_kept hkept).mono ?_
    rintro _ _ ⟨rfl, rfl⟩
    exact ⟨rfl, rfl, hkept⟩
  | none =>
    rw [hkept] at h
    cases hfile : t.files.openFile (pciPath t.root l) with
    | error cause =>
      rw [Filesystem.openNode, hfile] at h
      cases h
    | ok k =>
      rw [Filesystem.openNode, hfile] at h
      obtain rfl := Except.ok.inj h
      refine reaches_keptNode ?_ hfile ⟨rfl, rfl, List.lookup_cons_self⟩
      intro node hnode
      rw [hkept] at hnode
      cases hnode

theorem reaches_opened (h : t.nodeFor l = .ok node) :
    Reaches t (pciNode? l) fun found u => found = some node ∧ Opened t.files node l u := by
  rw [pciNode?_eq, map_eq_pure_bind]
  refine ((reaches_openPci h).bind ?_).tryCatch
  rintro _ u ⟨rfl, hopened⟩
  exact .pure ⟨rfl, hopened⟩

theorem stops_openPci {err : DeviceError} (h : t.nodeFor l = .error err) :
    Stops t (openPci l) (.device err) (· = t) := by
  unfold nodeFor at h
  cases hkept : t.pciNodes.lookup l.start with
  | some kept =>
    rw [hkept] at h
    cases h
  | none =>
    rw [hkept] at h
    exact stops_keptNode hkept h

theorem reaches_absent {path : String} (h : t.nodeFor l = .error (.openFailed path .notFound)) :
    Reaches t (pciNode? l) fun found u => found = none ∧ u = t := by
  rw [pciNode?_eq, map_eq_pure_bind]
  exact ((stops_openPci h).bind _).handled rfl

theorem stops_unopened {err : DeviceError} (h : t.nodeFor l = .error err)
    (hother : ∀ path, err ≠ .openFailed path .notFound) :
    Stops t (pciNode? l) (.device err) (· = t) := by
  rw [pciNode?_eq, map_eq_pure_bind]
  refine ((stops_openPci h).bind _).rethrown ?_
  cases err with
  | openFailed path cause =>
    cases cause with
    | notFound => exact absurd rfl (hother path)
    | _ => rfl
  | _ => rfl

theorem reaches_warnIfOutOfRange (t : Native) (l : PciLocation) :
    Reaches t (ExceptT.lift (warnIfOutOfRange l)) fun a u => a = () ∧ u = t := by
  intro journal
  unfold warnIfOutOfRange
  split <;> exact ⟨(), _, rfl, rfl, rfl⟩

theorem reaches_writePci_absent {path : String}
    (h : t.nodeFor l = .error (.openFailed path .notFound)) (value : UInt32) :
    Reaches t (Bus.writePci l value 4) fun _ u => u = t := by
  refine (reaches_warnIfOutOfRange t l).andThen ?_
  refine Reaches.andThen (?_ : Reaches t (readConfig l) fun a u => a = 0xFFFFFFFF ∧ u = t) ?_
  · exact (reaches_absent h).andThen (.pure ⟨rfl, rfl⟩)
  refine Reaches.andThen (?_ : Reaches t (writeConfig l _) fun a u => a = () ∧ u = t) ?_
  · exact (reaches_absent h).andThen (.append t _)
  exact (Reaches.append t _).andThen (.pure rfl)

theorem stops_writePci_unopened {err : DeviceError} (h : t.nodeFor l = .error err)
    (hother : ∀ path, err ≠ .openFailed path .notFound) (value : UInt32) :
    Stops t (Bus.writePci l value 4) (.device err) (· = t) := by
  refine (reaches_warnIfOutOfRange t l).stops ?_
  rintro _ _ ⟨rfl, rfl⟩
  exact Stops.bind ((stops_unopened h hother).bind _) _

theorem nodeOffset_below_limit (l : PciLocation) : (nodeOffset l).toNat + 4 < offsetLimit := by
  rw [toNat_nodeOffset]
  exact Nat.lt_of_le_of_lt l.dword_offset_aligned.2 (by decide)

theorem stops_writePci_short (h : t.nodeFor l = .ok node) (hshort : ¬ t.files.HoldsDword node l)
    (value : UInt32) :
    Stops t (Bus.writePci l value 4)
      (.device (.readFailed node.path (nodeOffset l) 4 .unexpectedEnd)) (·.files = t.files) := by
  have hend : (t.files.content node.file).size <
      (nodeOffset l).toNat + AccessWidth.dword.bytes := by
    rw [toNat_nodeOffset]
    exact Nat.lt_of_not_le hshort
  have hread := Filesystem.readUInt_past_end hend (nodeOffset_below_limit l)
  refine (reaches_warnIfOutOfRange t l).stops ?_
  rintro _ _ ⟨rfl, rfl⟩
  refine Stops.bind ((reaches_opened h).stops ?_) _
  rintro _ u ⟨rfl, hopened⟩
  rw [← hopened.files_eq] at hread
  refine ((stops_onFiles hread).mono ?_).bind _
  rintro _ rfl
  exact hopened.files_eq

theorem reaches_readConfig_whole (h : t.nodeFor l = .ok node)
    (hwhole : t.files.HoldsDword node l) :
    Reaches t (readConfig l) fun _ u => Opened t.files node l u := by
  have hin : (nodeOffset l).toNat + AccessWidth.dword.bytes ≤ (t.files.content node.file).size := by
    rw [toNat_nodeOffset]
    exact hwhole
  have hread := Filesystem.readUInt_inside hin (nodeOffset_below_limit l)
  refine (reaches_opened h).bind ?_
  rintro _ u ⟨rfl, hopened⟩
  rw [← hopened.files_eq] at hread
  exact (reaches_onFiles hread).andThen (.pure hopened)

theorem reaches_writeConfig_opened (h : t.nodeFor l = .ok node) (value : UInt32) :
    Reaches t (writeConfig l value) fun _ u =>
      Opened (t.files.storeDword node l value) node l u := by
  have hwrite : t.files.writeUInt node (nodeOffset l) .dword value.toUInt64 =
      .ok (t.files.storeDword node l value) := by
    rw [Filesystem.writeUInt_inside (nodeOffset_below_limit l), toNat_nodeOffset]
    rfl
  refine (reaches_opened h).bind ?_
  rintro _ u ⟨rfl, hopened⟩
  rw [← hopened.files_eq] at hwrite ⊢
  have hchange : Reaches u (change fun fs =>
      fs.writeUInt node (nodeOffset l) .dword value.toUInt64) _ := reaches_change hwrite
  refine hchange.mono ?_
  rintro _ _ ⟨rfl, rfl⟩
  exact ⟨rfl, hopened.kept⟩

theorem reaches_writePci_whole (h : t.nodeFor l = .ok node) (hwhole : t.files.HoldsDword node l)
    (value : UInt32) :
    Reaches t (Bus.writePci l value 4) fun _ u =>
      Opened (t.files.storeDword node l value) node l u := by
  refine (reaches_warnIfOutOfRange t l).andThen ?_
  refine Reaches.bind (reaches_readConfig_whole h hwhole) ?_
  intro old u hopened
  rw [merge_of_whole (by decide) (by decide), ← hopened.files_eq]
  refine Reaches.bind (reaches_writeConfig_opened (hopened.nodeFor_eq rfl) value) ?_
  intro _ v hstored
  exact (Reaches.append v _).andThen (.pure hstored)

/-- The file of the function holds all of a register's low half, and not all of its high half. -/
structure EndsBetween (t : Native) (l : PciLocation) (node : DeviceNode) : Prop where
  opened : t.nodeFor l = .ok node
  low : t.files.HoldsDword node l
  high : ¬ t.files.HoldsDword node l.next

theorem start_next (l : PciLocation) : l.next.start = l.start := rfl

theorem stops_between (h : EndsBetween t l node) (value : UInt64) :
    Stops t (Engine.writeConfig l .qword value)
      (.device (.readFailed node.path (nodeOffset l.next) 4 .unexpectedEnd))
      (·.files = t.files.storeDword node l value.toUInt32) := by
  refine (reaches_writePci_whole h.opened h.low value.toUInt32).stops ?_
  intro _ u hopened
  have hshort : ¬ u.files.HoldsDword node l.next := by
    rw [hopened.files_eq, Filesystem.holdsDword_storeDword h.low]
    exact h.high
  refine (Stops.mono ?_ fun _ => id).bind _
  rw [← hopened.files_eq]
  exact stops_writePci_short (hopened.nodeFor_eq (start_next l)) hshort _

/-- Otherwise there is a result, or an error before anything is written. -/
theorem reaches_or_stops (h : ∀ node, ¬ EndsBetween t l node) (value : UInt64) :
    Reaches t (Engine.writeConfig l .qword value) (fun _ _ => True) ∨
      ∃ err, Stops t (Engine.writeConfig l .qword value) err (·.files = t.files) := by
  cases hnode : t.nodeFor l with
  | error err =>
    by_cases habsent : ∃ path, err = .openFailed path .notFound
    · obtain ⟨path, rfl⟩ := habsent
      left
      refine (reaches_writePci_absent hnode _).bind ?_
      rintro _ t rfl
      have hnext : t.nodeFor l.next = _ := hnode
      exact (reaches_writePci_absent hnext _).bind fun _ _ _ => .pure trivial
    · refine .inr ⟨_, ((stops_writePci_unopened hnode ?_ _).mono ?_).bind _⟩
      · exact fun path hpath => habsent ⟨path, hpath⟩
      · rintro _ rfl
        rfl
  | ok node =>
    by_cases hlow : t.files.HoldsDword node l
    · have hhigh : t.files.HoldsDword node l.next := by
        by_contra hshort
        exact h node ⟨hnode, hlow, hshort⟩
      left
      refine (reaches_writePci_whole hnode hlow _).bind fun _ u hopened => ?_
      have hwhole : u.files.HoldsDword node l.next := by
        rwa [hopened.files_eq, Filesystem.holdsDword_storeDword hlow]
      exact (reaches_writePci_whole (hopened.nodeFor_eq (start_next l)) hwhole _).bind
        fun _ _ _ => .pure trivial
    · exact .inr ⟨_, (stops_writePci_short hnode hlow _).bind _⟩

end Native

namespace Engine

open Native

variable {e : Engine} {name : String} {r : Register} {l : PciLocation}

theorem stops_write (hr : e.store.get? name = some r) (hl : r.location = .pci l)
    {t : Native} {value : UInt64} {err : AccessError} {post : Native → Prop}
    (h : Stops t (writeConfig l r.width value) err post) :
    Stops t (e.write name value) err post := by
  obtain ⟨name', location, width, desc, fields⟩ := r
  obtain rfl : location = .pci l := hl
  unfold write
  rw [require_of_get? hr, ofExcept_ok_bind]
  refine (Reaches.append t _).stops ?_
  rintro _ _ ⟨rfl, rfl⟩
  exact h.bind _

theorem reaches_write (hr : e.store.get? name = some r) (hl : r.location = .pci l)
    {t : Native} {value : UInt64} {post : Native → Prop}
    (h : Reaches t (writeConfig l r.width value) fun _ => post) :
    Reaches t (e.write name value) fun _ => post := by
  obtain ⟨name', location, width, desc, fields⟩ := r
  obtain rfl : location = .pci l := hl
  unfold write
  rw [require_of_get? hr, ofExcept_ok_bind]
  refine (Reaches.append t _).andThen ?_
  exact h.bind fun _ _ hpost => .pure hpost

/-- A write of eight bytes that fails changes no file, but for one case: where the file of the
function holds all of the low half and not all of the high half, the low half is written and the
write fails, by the read of the high half. -/
theorem failed_halves_exact (hr : e.store.get? name = some r) (hl : r.location = .pci l)
    (hw : r.width = .qword) (value : UInt64) (st : Session Native) :
    let ended := (e.write name value).outcome st
    (∀ err, ended.1 = .error err → (∀ node, ¬ EndsBetween st.platform l node) →
      ended.2.platform.files = st.platform.files) ∧
    ∀ node, EndsBetween st.platform l node →
      ended.1 = .error (.device (.readFailed node.path (nodeOffset l.next) 4 .unexpectedEnd)) ∧
      ended.2.platform.files = st.platform.files.storeDword node l value.toUInt32 := by
  obtain ⟨t, journal⟩ := st
  constructor
  · intro err herr hnever
    have hhalves := reaches_or_stops hnever value
    rw [← hw] at hhalves
    rcases hhalves with hreaches | ⟨err', hstops⟩
    · obtain ⟨_, st, hout, -⟩ := reaches_write hr hl hreaches journal
      rw [hout] at herr
      cases herr
    · obtain ⟨st, hout, hfiles⟩ := stops_write hr hl hstops journal
      rw [hout]
      exact hfiles
  · intro node hends
    have hhalves := stops_between hends value
    rw [← hw] at hhalves
    obtain ⟨st, hout, hfiles⟩ := stops_write hr hl hhalves journal
    rw [hout]
    exact ⟨rfl, hfiles⟩

def wide : Register := .pci "WIDE" 0 2 0 0 .qword "" []

def platformOfSize (size : Nat) : Native :=
  (attach (Filesystem.empty.addFile "proc/bus/pci/00/02.0" (.zeros size)) ""
    fun _ _ => ⟨0, 0, 0, 0⟩).platform

def wideNode : DeviceNode := ⟨"proc/bus/pci/00/02.0", 0⟩

theorem endsBetween_six : (platformOfSize 6).EndsBetween ⟨0, 2, 0, 0⟩ wideNode where
  opened := by decide +kernel
  low := by decide +kernel
  high := by decide +kernel

theorem failed_halves_exact_short : ∃ s, Store.build "short" [[wide]] = .ok s ∧
    s.get? "WIDE" = some wide ∧ wide.location = .pci ⟨0, 2, 0, 0⟩ ∧ wide.width = .qword ∧
    let e : Engine := ⟨s, 0⟩
    (let ended := (e.write "WIDE" 0x1122334455667788).outcome ⟨platformOfSize 6, #[]⟩
    ended.1 = .error (.device (.readFailed "proc/bus/pci/00/02.0" 4 4 .unexpectedEnd)) ∧
      (ended.2.platform.files.content 0).toList = [0x88, 0x77, 0x66, 0x55, 0, 0]) ∧
    let ended := (e.write "WIDE" 0x1122334455667788).outcome ⟨platformOfSize 3, #[]⟩
    ∀ err, ended.1 = .error err → ended.2.platform.files = (platformOfSize 3).files := by
  obtain ⟨s, hs, hr⟩ : ∃ s, Store.build "short" [[wide]] = .ok s ∧ s.get? "WIDE" = some wide :=
    Store.exists_single "short" wide (by decide +kernel)
  obtain ⟨-, hbetween⟩ :=
    failed_halves_exact (e := ⟨s, 0⟩) hr rfl rfl 0x1122334455667788 ⟨platformOfSize 6, #[]⟩
  obtain ⟨herr, hfiles⟩ := hbetween wideNode endsBetween_six
  obtain ⟨hnever, -⟩ :=
    failed_halves_exact (e := ⟨s, 0⟩) hr rfl rfl 0x1122334455667788 ⟨platformOfSize 3, #[]⟩
  refine ⟨s, hs, hr, rfl, rfl, ⟨herr, ?_⟩, fun err herr => hnever err herr ?_⟩
  · rw [hfiles]
    decide +kernel
  · intro node hends
    have hopened : (platformOfSize 3).nodeFor ⟨0, 2, 0, 0⟩ = .ok wideNode := by decide +kernel
    obtain rfl := Except.ok.inj (hopened.symm.trans hends.opened)
    exact absurd hends.low (by decide +kernel)

/-- A failed write of eight bytes that leaves four of them written. -/
theorem half_written : ∃ s, Store.build "short" [[wide]] = .ok s ∧ s.get? "WIDE" = some wide ∧
    let ended := ((⟨s, 0⟩ : Engine).write "WIDE" 0x1122334455667788).outcome ⟨platformOfSize 6, #[]⟩
    (∃ err, ended.1 = .error err) ∧
      ((platformOfSize 6).files.content 0).toList = [0, 0, 0, 0, 0, 0] ∧
      (ended.2.platform.files.content 0).toList = [0x88, 0x77, 0x66, 0x55, 0, 0] := by
  obtain ⟨s, hs, hr⟩ : ∃ s, Store.build "short" [[wide]] = .ok s ∧ s.get? "WIDE" = some wide :=
    Store.exists_single "short" wide (by decide +kernel)
  obtain ⟨st, hout, hfiles⟩ := stops_write (e := ⟨s, 0⟩) hr rfl
    (stops_between endsBetween_six 0x1122334455667788) #[]
  refine ⟨s, hs, hr, ?_⟩
  dsimp only
  rw [hout]
  refine ⟨⟨_, rfl⟩, by decide +kernel, ?_⟩
  rw [hfiles]
  decide +kernel

end Engine

end Lockdown

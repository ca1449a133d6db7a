import Lockdown.Check.GraphicsWake
import Lockdown.Proofs.Check.Verdicts
import Lockdown.Proofs.Engine.Assignment
import Lockdown.Proofs.Engine.History

/-! What the wake handshake leaves behind. A request that is acknowledged in time is taken back
before the check passes. One that is not stands when the check ends: it warns and writes nothing
more. -/
namespace Lockdown

open Access

variable {e : Engine} {name field : String} {v w new : UInt64}

namespace Engine

theorem requireField_eq_ok {f : Field} (h : e.store.requireField name field = .ok f) :
    ∃ r, e.store.get? name = some r ∧ r.field? field = some f := by
  obtain ⟨r, hrequire, hfield⟩ := bind_eq_ok_iff.1 h
  have hr : e.store.get? name = some r := by
    unfold Store.require at hrequire
    split at hrequire
    · rename_i hget
      rw [hget, Except.ok.inj hrequire]
    · cases hrequire
  split at hfield
  · rename_i hf
    exact ⟨r, hr, hf.trans (congrArg some (Except.ok.inj hfield))⟩
  · cases hfield

theorem setField_eq_ok (h : e.store.setField name v field new = .ok w) :
    ∃ r f, e.store.get? name = some r ∧ r.field? field = some f ∧ w = f.insert v new := by
  obtain ⟨f, hrequire, hinsert⟩ := bind_eq_ok_iff.1 h
  obtain ⟨r, hr, hf⟩ := requireField_eq_ok hrequire
  exact ⟨r, f, hr, hf, (Except.ok.inj hinsert).symm⟩

end Engine

namespace Check

open Engine

variable {chipset : String} {layers : List (List Register)}

/-- The value asks for `request` under `mask`, as far as its fields have room for these. -/
def Asks (s : Store) (value mask request : UInt64) : Prop :=
  ∃ r under bits, s.get? "GT_FORCE_WAKE" = some r ∧ r.field? "WAKE_MASK" = some under ∧
    r.field? "WAKE_REQUEST" = some bits ∧
    value = bits.insert (under.insert 0 mask) request ∧
    (r.Unwrapped →
      (under.extract value).toNat = mask.toNat % 2 ^ under.size.toNat ∧
      (bits.extract value).toNat = request.toNat % 2 ^ bits.size.toNat)

theorem asks_of_setField (h : Store.build chipset layers = .ok e.store) {mask request : UInt64}
    (hmask : e.store.setField "GT_FORCE_WAKE" 0 "WAKE_MASK" mask = .ok v)
    (hrequest : e.store.setField "GT_FORCE_WAKE" v "WAKE_REQUEST" request = .ok w) :
    Asks e.store w mask request := by
  obtain ⟨r, under, hr, hunder, rfl⟩ := setField_eq_ok hmask
  obtain ⟨r', bits, hr', hbits, rfl⟩ := setField_eq_ok hrequest
  obtain rfl : r = r' := Option.some.inj (hr.symm.trans hr')
  refine ⟨r, under, bits, hr, hunder, hbits, rfl, fun hwhole => ?_⟩
  have hlaid := Store.laidOut_of_build h hr hwhole
  have hapart : under.Apart bits :=
    hlaid.apart "WAKE_MASK" under "WAKE_REQUEST" bits hunder hbits (by decide)
  have hassigned : r.Assigned 0 [("WAKE_MASK", mask), ("WAKE_REQUEST", request)]
      (bits.insert (under.insert 0 mask) request) := by
    refine Register.Assigned.cons hunder ?_ ?_
    · simp only [List.mem_singleton, forall_eq, hbits, Option.some.injEq]
      rintro _ rfl
      exact hapart
    · exact Register.Assigned.cons hbits (by simp) (r.assigned_nil _)
  exact ⟨hassigned.toNat_extract (by simp) hunder (hlaid.top_le hunder),
    hassigned.toNat_extract (by simp) hbits (hlaid.top_le hbits)⟩

theorem ends_requestWake (h : Store.build chipset layers = .ok e.store) (st : Session Simulator)
    (mask request : UInt64) :
    Ends st (requestWake e mask request) fun _ st' => ∃ value old,
      Asks e.store value mask request ∧
        (e.write "GT_FORCE_WAKE" value).outcome st = (.ok old, st') := by
  unfold requestWake
  refine Ends.bind (Ends.ofExcept st _) ?_
  rintro v _ ⟨hmask, rfl⟩
  refine Ends.bind (Ends.ofExcept _ _) ?_
  rintro value _ ⟨hrequest, rfl⟩
  refine Ends.bind (Ends.exact _ _) ?_
  intro old st' hwrite
  exact Ends.pure ⟨value, old, asks_of_setField h hmask hrequest, hwrite⟩

theorem looks_report {level : Level} {text : String} {verdict : Verdict} :
    Looks (report name level text verdict) :=
  (Looks.append _).bind fun _ => .pure verdict

theorem ends_report (st : Session Simulator) (level : Level) (text : String) (verdict : Verdict) :
    Ends st (report name level text verdict) fun found st' =>
      found = verdict ∧ st.platform.Undisturbed st'.platform := by
  intro found hfound
  exact ⟨(Except.ok.inj hfound).symm, looks_report st⟩

/-- How a handshake ends that found `state` acknowledged, by what it wrote. -/
inductive Handshake (e : Engine) (state : UInt64) (before after : Simulator) : Verdict → Prop
  /-- No bit was free to be asked for. -/
  | busy (busy : freeWakeBit? state = none) (wrote : Wrote e "GT_FORCE_WAKE" before [] after) :
      Handshake e state before after .warning
  /-- The request was acknowledged and taken back. -/
  | released {bit request release : UInt64} (free : freeWakeBit? state = some bit)
      (requests : Asks e.store request bit bit) (releases : Asks e.store release bit 0)
      (wrote : Wrote e "GT_FORCE_WAKE" before [request, release] after) :
      Handshake e state before after .passed
  /-- The request was not acknowledged and stands. -/
  | standing {bit request : UInt64} (free : freeWakeBit? state = some bit)
      (requests : Asks e.store request bit bit)
      (wrote : Wrote e "GT_FORCE_WAKE" before [request] after) :
      Handshake e state before after .warning

theorem ends_wakeHandshake (h : Store.build chipset layers = .ok e.store) (policy : PollPolicy)
    (st : Session Simulator) :
    Ends st (wakeHandshake policy e) fun verdict st' => ∃ state,
      ((e.readField "GTSP1" "WAKE_REQUEST" false).outcome st).1 = .ok state ∧
        Handshake e state st.platform st'.platform verdict := by
  have hbases := Store.resolvable_of_build h
  unfold wakeHandshake
  refine Ends.bind ((looks_readField hbases "GTSP1" "WAKE_REQUEST" false).ends st) ?_
  rintro state st₁ ⟨hstate, hread⟩
  have hstate' : ((e.readField "GTSP1" "WAKE_REQUEST" false).outcome st).1 = .ok state := by
    rw [hstate]
  refine Ends.bind ((Looks.append _).ends st₁) ?_
  rintro - st₂ ⟨-, hlogged⟩
  have hbefore := hread.trans hlogged
  cases hfree : freeWakeBit? state with
  | none =>
    intro verdict hverdict
    obtain ⟨rfl, hafter⟩ := ends_report st₂ _ _ _ verdict hverdict
    exact ⟨state, hstate', .busy hfree (.nothing (hbefore.trans hafter))⟩
  | some bit =>
    refine Ends.bind (ends_requestWake h st₂ bit bit) ?_
    rintro - st₃ ⟨request, old, hrequest, hwritten⟩
    refine Ends.bind ((looks_pollField hbases "GTSP1" "WAKE_REQUEST" policy _).ends st₃) ?_
    rintro outcome st₄ ⟨-, hpolled⟩
    cases outcome with
    | ready acknowledged =>
      refine Ends.bind ((Looks.append _).ends st₄) ?_
      rintro - st₅ ⟨-, hsaid⟩
      refine Ends.bind (ends_requestWake h st₅ bit 0) ?_
      rintro - st₆ ⟨release, old', hrelease, hwritten'⟩
      intro verdict hverdict
      obtain ⟨rfl, hafter⟩ := ends_report st₆ _ _ _ verdict hverdict
      exact ⟨state, hstate', .released hfree hrequest hrelease
        (.value hbefore hwritten (.value (hpolled.trans hsaid) hwritten' (.nothing hafter)))⟩
    | notReady last attempts =>
      intro verdict hverdict
      obtain ⟨rfl, hafter⟩ := ends_report st₄ _ _ _ verdict hverdict
      exact ⟨state, hstate', .standing hfree hrequest
        (.value hbefore hwritten (.nothing (hpolled.trans hafter)))⟩

variable {s t : Simulator} {r : Register} {f : Field} {policy : PollPolicy} {st : Store}

theorem leads_requestWake {mask request : UInt64} {under bits : Field} {old : Option UInt64}
    (hr : e.store.get? "GT_FORCE_WAKE" = some r) (hunder : r.field? "WAKE_MASK" = some under)
    (hbits : r.field? "WAKE_REQUEST" = some bits)
    (hwrite : Leads s (e.write "GT_FORCE_WAKE" (bits.insert (under.insert 0 mask) request))
      (.ok old) t) :
    Leads s (requestWake e mask request) (.ok ()) t := by
  unfold requestWake
  rw [setField_of_get? hr hunder]
  refine (Yields.ofExcept (.ok _)).leads.andThen ?_
  rw [setField_of_get? hr hbits]
  refine (Yields.ofExcept (.ok _)).leads.andThen ?_
  exact hwrite.andThen (Leads.pure _ ())

/-- Where the graphics registers are: bits 38:24 of their base address register, left in place. -/
def graphicsMemory (s : Simulator) : UInt64 :=
  s.configAt ⟨0, 2, 0, 0x10⟩ .qword &&& 0x7FFF000000

theorem toNat_graphicsMemory_le (s : Simulator) : (graphicsMemory s).toNat ≤ 0x7FFF000000 := by
  rw [graphicsMemory, UInt64.toNat_and]
  exact Nat.and_le_right

theorem toNat_graphicsMemory_add (s : Simulator) {offset : UInt64} (h : offset.toNat < 2 ^ 32) :
    (graphicsMemory s + offset).toNat = (graphicsMemory s).toNat + offset.toNat := by
  have hle := toNat_graphicsMemory_le s
  rw [UInt64.toNat_add, Nat.mod_eq_of_lt (by omega)]

theorem inAddressSpace_graphics (s : Simulator) {offset : UInt64} (h : offset.toNat < 2 ^ 32) :
    inAddressSpace (graphicsMemory s + offset) AccessWidth.dword.bytes = true := by
  have hle := toNat_graphicsMemory_le s
  have hsize : UInt64.size = 2 ^ 64 := rfl
  rw [inAddressSpace, toNat_graphicsMemory_add s h, AccessWidth.bytes, hsize, decide_eq_true_eq]
  omega

theorem avoidsConfigPorts_graphics (hs : Chipset.coffeeLake.store [] = .ok st) (name : String) :
    st.AvoidsConfigPorts name :=
  Chipset.avoidsConfigPorts (by simp [Chipset.all]) hs (by simp) name

theorem baseOn_graphics (hs : Chipset.coffeeLake.store [] = .ok st) (thread : UInt32)
    (s : Simulator) :
    ((⟨st, thread⟩ : Engine).baseOn ⟨"GTTMMADR", some "BA", none⟩ fun d _ =>
      (⟨st, thread⟩ : Engine).value s d) = .ok (graphicsMemory s) := by
  have hmask : (⟨24, 15, "Base Address [38:24]"⟩ : Field).registerMask = 0x7FFF000000 := by decide
  rw [baseOn_of_pci (Chipset.get?_of_store hs "GTTMMADR") rfl rfl, Field.extractInPlace, hmask]
  rfl

theorem yields_graphicsMemory (hs : Chipset.coffeeLake.store [] = .ok st) (thread : UInt32)
    (s : Simulator) :
    Yields s ((⟨st, thread⟩ : Engine).resolveBase ⟨"GTTMMADR", some "BA", none⟩)
      (.ok (graphicsMemory s)) := by
  rw [← baseOn_graphics hs thread s]
  exact yields_resolveBase s fun d _ => avoidsConfigPorts_graphics hs d

structure IsGraphics (r : Register) (offset : UInt64) : Prop where
  location : r.location = .mmio ⟨"GTTMMADR", some "BA", none⟩ offset
  width : r.width = .dword

theorem IsGraphics.yields_read {offset : UInt64} (hs : Chipset.coffeeLake.store [] = .ok st)
    (hr : st.get? name = some r) (h : IsGraphics r offset) (hoffset : offset.toNat < 2 ^ 32)
    (thread : UInt32) (s : Simulator) :
    Yields s ((⟨st, thread⟩ : Engine).read name)
      (.ok (s.peek (graphicsMemory s + offset) .dword)) := by
  have hvalue : (⟨st, thread⟩ : Engine).value s name =
      .ok (s.peek (graphicsMemory s + offset) .dword) := by
    rw [value_mmio hr h.location, baseOn_graphics hs, h.width]
    exact if_pos (inAddressSpace_graphics s hoffset)
  rw [← hvalue]
  exact Engine.yields_read s (avoidsConfigPorts_graphics hs name)

theorem IsGraphics.leads_write {offset : UInt64} (hs : Chipset.coffeeLake.store [] = .ok st)
    (hr : st.get? name = some r) (h : IsGraphics r offset) (hoffset : offset.toNat < 2 ^ 32)
    (thread : UInt32) (s : Simulator) (v : UInt64) :
    Leads s ((⟨st, thread⟩ : Engine).write name v) (.ok none)
      (s.storeMemory (graphicsMemory s + offset) .dword (v &&& AccessWidth.dword.mask)) := by
  have hin := inAddressSpace_graphics s hoffset
  rw [← h.width] at hin ⊢
  exact leads_write_mmio hr h.location (yields_graphicsMemory hs thread s) hin v

theorem exists_wakeState (hs : Chipset.coffeeLake.store [] = .ok st) :
    ∃ r, st.get? "GTSP1" = some r ∧ IsGraphics r 0x0D0084 ∧
      r.field? "WAKE_REQUEST" = some ⟨0, 16, "Force wake acknowledge bits"⟩ :=
  ⟨_, Chipset.get?_of_store hs "GTSP1", ⟨rfl, rfl⟩, rfl⟩

theorem exists_wakeRequest (hs : Chipset.coffeeLake.store [] = .ok st) :
    ∃ r, st.get? "GT_FORCE_WAKE" = some r ∧ IsGraphics r 0xA188 ∧
      r.field? "WAKE_MASK" = some ⟨16, 16, "Write mask for request bits"⟩ ∧
      r.field? "WAKE_REQUEST" = some ⟨0, 16, "Force wake request bits"⟩ :=
  ⟨_, Chipset.get?_of_store hs "GT_FORCE_WAKE", ⟨rfl, rfl⟩, rfl, rfl⟩

theorem yields_wakeState (hs : Chipset.coffeeLake.store [] = .ok st) (thread : UInt32)
    (s : Simulator) :
    Yields s ((⟨st, thread⟩ : Engine).readField "GTSP1" "WAKE_REQUEST" false)
      (.ok (s.peek (graphicsMemory s + 0x0D0084) .dword &&& 0xFFFF)) := by
  obtain ⟨r, hr, hplace, hf⟩ := exists_wakeState hs
  have hlow : ∀ v, (⟨0, 16, "Force wake acknowledge bits"⟩ : Field).extract v = v &&& 0xFFFF := by
    intro v
    have hmask : (⟨0, 16, "Force wake acknowledge bits"⟩ : Field).valueMask = 0xFFFF := by decide
    rw [Field.extract, hmask]
    exact congrArg (· &&& 0xFFFF) UInt64.shiftRight_zero
  rw [← hlow]
  exact yields_readField hr hf (hplace.yields_read hs hr (by decide) thread s) false

def wakeValue (mask request : UInt64) : UInt64 :=
  (⟨0, 16, "Force wake request bits"⟩ : Field).insert
    ((⟨16, 16, "Write mask for request bits"⟩ : Field).insert 0 mask) request

theorem leads_requestWake_graphics (hs : Chipset.coffeeLake.store [] = .ok st) (thread : UInt32)
    (s : Simulator) (mask request : UInt64) :
    Leads s (requestWake ⟨st, thread⟩ mask request) (.ok ())
      (s.storeMemory (graphicsMemory s + 0xA188) .dword
        (wakeValue mask request &&& AccessWidth.dword.mask)) := by
  obtain ⟨r, hr, hplace, hunder, hbits⟩ := exists_wakeRequest hs
  exact leads_requestWake hr hunder hbits (hplace.leads_write hs hr (by decide) thread s _)

theorem yields_pollFrom_notReady {read : Access Simulator UInt64} {ready : UInt64 → Bool}
    (hread : Yields s read (.ok v)) (hready : ready v = false) (attempts : UInt32) (n : Nat)
    (last : UInt64) :
    ∃ shown, Yields s (pollFrom attempts read ready n last) (.ok (.notReady shown attempts)) := by
  induction n generalizing last with
  | zero => exact ⟨last, (Yields.append _).andThen (Yields.pure _)⟩
  | succ n ih =>
    obtain ⟨shown, hshown⟩ := ih v
    refine ⟨shown, hread.andThen ?_⟩
    rw [hready]
    exact hshown

theorem yields_pollField_notReady (ready : UInt64 → Bool) (hr : e.store.get? name = some r)
    (hf : r.field? field = some f) (hread : Yields s (e.readField name field false) (.ok v))
    (hready : ready v = false) (policy : PollPolicy) :
    ∃ shown, Yields s (e.pollField name field policy ready)
      (.ok (.notReady shown policy.attempts)) := by
  obtain ⟨shown, hshown⟩ :=
    yields_pollFrom_notReady hread hready policy.attempts policy.attempts.toNat 0
  refine ⟨shown, ?_⟩
  unfold pollField
  rw [requireField_of_get? hr hf]
  exact (Yields.ofExcept (.ok f)).andThen hshown

/-- However often it asks, the handshake warns and lets its request stand. -/
theorem leads_wakeHandshake_standing {state bit acknowledged : UInt64}
    (hr : e.store.get? "GTSP1" = some r) (hf : r.field? "WAKE_REQUEST" = some f)
    (hread : Yields s (e.readField "GTSP1" "WAKE_REQUEST" false) (.ok state))
    (hfree : freeWakeBit? state = some bit)
    (hrequest : Leads s (requestWake e bit bit) (.ok ()) t)
    (hpoll : Yields t (e.readField "GTSP1" "WAKE_REQUEST" false) (.ok acknowledged))
    (hsilent : acknowledged &&& bit ≠ bit) :
    Leads s (wakeHandshake policy e) (.ok .warning) t := by
  obtain ⟨shown, hshown⟩ := yields_pollField_notReady (fun v => v &&& bit = bit) hr hf hpoll
    (decide_eq_false hsilent) policy
  unfold wakeHandshake
  refine hread.leads.andThen ?_
  refine (Yields.append _).leads.andThen ?_
  rw [hfree]
  refine hrequest.andThen ?_
  refine hshown.leads.andThen ?_
  exact yields_report.leads

def silentGraphics : Simulator :=
  let s := [((⟨0, 2, 0, 0⟩ : PciLocation), (0x3E928086 : UInt32)), (⟨0, 2, 0, 0x10⟩, 0xDE000004),
    (⟨0, 2, 0, 0x14⟩, 0)].foldl (fun s (l, v) => s.populate l v) (Simulator.ofThreads 1)
  s.load 0xDE0D0084 (bytesLE 4 0)

def requestedGraphics : Simulator := silentGraphics.storeMemory 0xDE00A188 .dword 0x80008000

theorem yields_wakeState_zero (hs : Chipset.coffeeLake.store [] = .ok st) (thread : UInt32)
    {s : Simulator} (hbase : graphicsMemory s = 0xDE000000)
    (hzero : s.peek 0xDE0D0084 .dword = 0) :
    Yields s ((⟨st, thread⟩ : Engine).readField "GTSP1" "WAKE_REQUEST" false) (.ok 0) := by
  have hstate := yields_wakeState hs thread s
  rw [hbase, show (0xDE000000 + 0x0D0084 : UInt64) = 0xDE0D0084 by decide, hzero,
    UInt64.zero_and] at hstate
  exact hstate

theorem leads_silentGraphics (hs : Chipset.coffeeLake.store [] = .ok st) (thread : UInt32) :
    Leads silentGraphics (requestWake ⟨st, thread⟩ 0x8000 0x8000) (.ok ()) requestedGraphics := by
  have hrequest := leads_requestWake_graphics hs thread silentGraphics 0x8000 0x8000
  have hbase : graphicsMemory silentGraphics + 0xA188 = 0xDE00A188 := by decide +kernel
  have hvalue : wakeValue 0x8000 0x8000 &&& AccessWidth.dword.mask = 0x80008000 := by decide
  rw [hbase, hvalue] at hrequest
  exact hrequest

theorem leads_wakeHandshake_silentGraphics (hs : Chipset.coffeeLake.store [] = .ok st)
    (thread : UInt32) (policy : PollPolicy) :
    Leads silentGraphics (wakeHandshake policy ⟨st, thread⟩) (.ok .warning) requestedGraphics := by
  have hget := Chipset.get?_of_store hs
  have hstate := yields_wakeState_zero hs thread (s := silentGraphics) (by decide +kernel)
    (by decide +kernel)
  have hafter := yields_wakeState_zero hs thread (s := requestedGraphics) (by decide +kernel)
    (by decide +kernel)
  exact leads_wakeHandshake_standing (hget "GTSP1") rfl hstate rfl (leads_silentGraphics hs thread)
    hafter (by decide)

theorem wakeSupported_silentGraphics (hs : Chipset.coffeeLake.store [] = .ok st)
    (thread : UInt32) :
    ((wakeSupported ⟨st, thread⟩).run (⟨silentGraphics, #[]⟩ : Session Simulator)).1 = true := by
  have hget := Chipset.get?_of_store hs
  have hchipset : st.chipset = "cfl" := (Store.build_eq_ok hs).2.2.1
  have hwake : st.hasFields "GT_FORCE_WAKE" ["WAKE_REQUEST", "WAKE_MASK"] = true :=
    hasFields_of_get? (e := ⟨st, thread⟩) (hget "GT_FORCE_WAKE") rfl
  have hstate : st.hasFields "GTSP1" ["WAKE_REQUEST"] = true :=
    hasFields_of_get? (e := ⟨st, thread⟩) (hget "GTSP1") rfl
  have hvendor : ((Bus.readPci ⟨0, 2, 0, 0⟩ 2).outcome
      (⟨silentGraphics, #[]⟩ : Session Simulator)).1 =
        .ok (narrow (silentGraphics.dwordAt ⟨0, 2, 0, 0⟩) 0 2) :=
    (Bus.yields_readPci silentGraphics ⟨0, 2, 0, 0⟩ 2 _ (.refl _)).1
  have hpresent : (graphicsPresent.run (⟨silentGraphics, #[]⟩ : Session Simulator)).1 = true := by
    unfold graphicsPresent
    rw [Act.run_bind, run_attempt, hvendor]
    decide +kernel
  have hcfl : wakeChipsets.contains "cfl" = true := by decide
  unfold wakeSupported
  simp only [hchipset, hwake, hstate, hcfl, Bool.and_self, Bool.not_true, Bool.false_eq_true,
    if_false]
  rw [Act.run_bind, hpresent]
  rfl

/-- A handshake that ends without an error has released its request when it passes. When it warns
it has requested nothing, or what it requested is the last that it wrote. -/
theorem wakeHandshake_exact (h : Store.build chipset layers = .ok e.store) (policy : PollPolicy)
    (st : Session Simulator) {verdict : Verdict}
    (hrun : (((graphicsWake policy).run e).outcome st).1 = .ok verdict) :
    ∃ state, ((e.readField "GTSP1" "WAKE_REQUEST" false).outcome st).1 = .ok state ∧
      Handshake e state st.platform (((graphicsWake policy).run e).outcome st).2.platform
        verdict :=
  ends_wakeHandshake h policy st verdict hrun

theorem wakeHandshake_exact_silent : ∃ s, Chipset.coffeeLake.store [] = .ok s ∧
    let e : Engine := ⟨s, 0⟩
    let st : Session Simulator := ⟨silentGraphics, #[]⟩
    let ran := ((graphicsWake ⟨3, 0⟩).run e).outcome st
    ran.1 = .ok .warning ∧
      ∃ state, ((e.readField "GTSP1" "WAKE_REQUEST" false).outcome st).1 = .ok state ∧
        Handshake e state st.platform ran.2.platform .warning := by
  obtain ⟨s, hs⟩ := Chipset.exists_store (c := Chipset.coffeeLake) (by simp [Chipset.all])
  have hverdict :=
    (leads_wakeHandshake_silentGraphics hs 0 ⟨3, 0⟩ ⟨silentGraphics, #[]⟩ (.refl _)).1
  exact ⟨s, hs, hverdict, wakeHandshake_exact (e := ⟨s, 0⟩) hs ⟨3, 0⟩ _ hverdict⟩

/-- The check warns and returns with the highest bit still requested. -/
theorem wakeHandshake_leaves_request : ∃ s, Chipset.coffeeLake.store [] = .ok s ∧
    let e : Engine := ⟨s, 0⟩
    let st : Session Simulator := ⟨silentGraphics, #[]⟩
    let ran := ((graphicsWake ⟨3, 0⟩).run e).outcome st
    (((graphicsWake ⟨3, 0⟩).supported e).run st).1 = true ∧ ran.1 = .ok .warning ∧
      st.platform.peek 0xDE00A188 .dword = 0xFFFFFFFF ∧
      ran.2.platform.peek 0xDE00A188 .dword = 0x80008000 ∧
      s.getField "GT_FORCE_WAKE" 0x80008000 "WAKE_MASK" false = .ok 0x8000 ∧
      s.getField "GT_FORCE_WAKE" 0x80008000 "WAKE_REQUEST" false = .ok 0x8000 := by
  have hc : Chipset.coffeeLake ∈ Chipset.all := by simp [Chipset.all]
  obtain ⟨s, hs⟩ := Chipset.exists_store hc
  have hget := Chipset.get?_of_store hs
  refine ⟨s, hs, ?_⟩
  intro e st ran
  obtain ⟨hverdict, latch, log, hplatform⟩ :=
    leads_wakeHandshake_silentGraphics hs 0 ⟨3, 0⟩ st (.refl _)
  have hpeek : ran.2.platform.peek 0xDE00A188 .dword =
      requestedGraphics.peek 0xDE00A188 .dword := by
    have hran : ran.2.platform = { requestedGraphics with latch := latch, transactions := log } :=
      hplatform
    rw [hran]
    rfl
  have hfield : ∀ field f, Register.field? _ field = some f →
      s.getField "GT_FORCE_WAKE" 0x80008000 field false = .ok (f.extract 0x80008000) :=
    fun _ _ hf => getField_of_get? (e := e) (hget "GT_FORCE_WAKE") hf _ _
  refine ⟨wakeSupported_silentGraphics hs 0, hverdict, by decide +kernel, ?_, ?_, ?_⟩
  · rw [hpeek]
    decide +kernel
  · exact hfield "WAKE_MASK" _ rfl
  · exact hfield "WAKE_REQUEST" _ rfl

end Check

end Lockdown

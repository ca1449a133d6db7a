import Lockdown.Proofs.Bus.Cells
import Lockdown.Proofs.Check.Handshake
import Lockdown.Proofs.Engine.Sparing
import Lockdown.Simulator.Reference
import Mathlib.Data.Nat.Bitwise

/-! The wake handshake with graphics that answer. The request raises the bit that is acknowledged,
the first look at the acknowledges finds it, and the release takes it down again; so what the check
leaves is its last request and nothing else. -/
namespace Lockdown.Check

open Access Engine

def wakeBit (k : Nat) : UInt64 := UInt64.ofNat (2 ^ k)

variable {state bit : UInt64} {k : Nat}

theorem wakeBits_eq : wakeBits = (List.range 16).reverse.map wakeBit := by decide

theorem and_wakeBit_eq_zero_iff (hk : k < 16) :
    state &&& wakeBit k = 0 ↔ state.toNat.testBit k = false := by
  have hbit : (wakeBit k).toNat = 2 ^ k :=
    UInt64.toNat_ofNat_of_lt'
      (show 2 ^ k < 2 ^ 64 from Nat.pow_lt_pow_right Nat.one_lt_two (by omega))
  rw [← UInt64.toNat_inj, UInt64.toNat_and, hbit, Nat.and_two_pow, UInt64.toNat_zero]
  cases state.toNat.testBit k <;> simp

theorem freeWakeBit?_eq_some (h : freeWakeBit? state = some bit) :
    ∃ k < 16, bit = wakeBit k ∧ state.toNat.testBit k = false ∧
      ∀ j, k < j → j < 16 → state.toNat.testBit j = true := by
  rw [freeWakeBit?, wakeBits_eq, List.find?_map, Option.map_eq_some_iff] at h
  obtain ⟨k, hfind, rfl⟩ := h
  obtain ⟨hclear, above, below, hsplit, hset⟩ := List.find?_eq_some_iff_append.1 hfind
  have hmem : ∀ j, j ∈ (List.range 16).reverse ↔ j < 16 := by simp
  have hk : k < 16 := (hmem k).1 (hsplit ▸ by simp)
  have hsorted : (List.range 16).reverse.Pairwise (· > ·) :=
    List.pairwise_reverse.2 List.pairwise_lt_range
  rw [hsplit, List.pairwise_append, List.pairwise_cons] at hsorted
  refine ⟨k, hk, rfl, (and_wakeBit_eq_zero_iff hk).1 (of_decide_eq_true hclear), ?_⟩
  intro j hkj hj
  have hj' : j ∈ above := by
    have hin := (hmem j).2 hj
    rw [hsplit, List.mem_append, List.mem_cons] at hin
    rcases hin with hin | rfl | hin
    · exact hin
    · exact absurd hkj (Nat.lt_irrefl _)
    · exact absurd (hsorted.2.1.1 j hin) (Nat.not_lt.2 (Nat.le_of_lt hkj))
  have hnot := hset j hj'
  simp only [Function.comp, Bool.not_eq_true', decide_eq_false_iff_not,
    and_wakeBit_eq_zero_iff hj] at hnot
  exact Bool.eq_true_of_not_eq_false hnot

theorem freeWakeBit?_eq_none (h : freeWakeBit? (state &&& 0xFFFF) = none) :
    state &&& 0xFFFF = 0xFFFF := by
  rw [freeWakeBit?, wakeBits_eq, List.find?_map, Option.map_eq_none_iff, List.find?_eq_none] at h
  have hones : ∀ i, (0xFFFF : UInt64).toNat.testBit i = decide (i < 16) :=
    Nat.testBit_two_pow_sub_one 16
  apply qword_ext
  intro i _
  by_cases hi : i < 16
  · have hset := h i (by simpa using hi)
    simp only [Function.comp, decide_eq_true_eq, and_wakeBit_eq_zero_iff hi] at hset
    rw [Bool.eq_true_of_not_eq_false hset, hones, decide_eq_true hi]
  · rw [UInt64.toNat_and, Nat.testBit_and, hones, decide_eq_false hi, Bool.and_false]

theorem wakeBit_masked : ∀ k < 16,
    0xFFFF &&& wakeBit k = wakeBit k ∧ wakeBit k &&& AccessWidth.dword.mask = wakeBit k ∧
    (wakeBit k <<< 16) &&& AccessWidth.dword.mask = wakeBit k <<< 16 := by
  decide

theorem and_wakeBit_of_free (hk : k < 16)
    (hfree : freeWakeBit? (state &&& 0xFFFF) = some (wakeBit k)) : state &&& wakeBit k = 0 := by
  have hfound : (state &&& 0xFFFF) &&& wakeBit k = 0 := by
    simpa using List.find?_some hfree
  rwa [UInt64.and_assoc, (wakeBit_masked k hk).1] at hfound

theorem granted_and_wakeBit (hk : k < 16) (hfree : state &&& wakeBit k = 0) :
    ((state ||| wakeBit k) &&& 0xFFFF) &&& wakeBit k = wakeBit k := by
  rw [UInt64.and_assoc, (wakeBit_masked k hk).1, Simulator.or_and_distrib, hfree, UInt64.and_self,
    UInt64.zero_or]

def wakeRequest (k : Nat) : UInt64 := wakeValue (wakeBit k) (wakeBit k) &&& AccessWidth.dword.mask

def wakeRelease (k : Nat) : UInt64 := wakeValue (wakeBit k) 0 &&& AccessWidth.dword.mask

theorem wakeRequest_halves : ∀ k < 16,
    (wakeRequest k >>> 16) &&& 0xFFFF = wakeBit k ∧ wakeRequest k &&& wakeBit k = wakeBit k := by
  decide

theorem wakeRelease_halves : ∀ k < 16,
    (wakeRelease k >>> 16) &&& 0xFFFF = wakeBit k ∧ wakeRelease k &&& wakeBit k = 0 := by
  decide

theorem wakeRelease_eq : ∀ k < 16, wakeRelease k = wakeBit k <<< 16 := by decide

theorem acknowledged_wakeRequest (hk : k < 16) (hfree : state &&& wakeBit k = 0)
    (hstate : state &&& AccessWidth.dword.mask = state) :
    Simulator.acknowledged state (wakeRequest k) &&& AccessWidth.dword.mask =
      state ||| wakeBit k := by
  obtain ⟨hmask, hbit⟩ := wakeRequest_halves k hk
  rw [Simulator.acknowledged_grant hfree hmask hbit, Simulator.or_and_distrib, hstate,
    (wakeBit_masked k hk).2.1]

theorem acknowledged_wakeRelease (hk : k < 16) (hfree : state &&& wakeBit k = 0) :
    Simulator.acknowledged (state ||| wakeBit k) (wakeRelease k) = state := by
  obtain ⟨hmask, hbit⟩ := wakeRelease_halves k hk
  exact Simulator.acknowledged_release hfree hmask hbit

variable {e : Engine} {name field : String} {r : Register} {f : Field} {v : UInt64}
  {s t u : Simulator} {policy : PollPolicy}

theorem yields_pollFrom_ready {read : Access Simulator UInt64} {ready : UInt64 → Bool}
    (hread : Yields s read (.ok v)) (hready : ready v = true) (attempts : UInt32) (n : Nat)
    (last : UInt64) :
    Yields s (pollFrom attempts read ready (n + 1) last) (.ok (.ready v)) := by
  unfold pollFrom
  refine hread.andThen ?_
  rw [if_pos hready]
  exact (Yields.append _).andThen (Yields.pure _)

theorem yields_pollField_ready (ready : UInt64 → Bool) (hr : e.store.get? name = some r)
    (hf : r.field? field = some f) (hread : Yields s (e.readField name field false) (.ok v))
    (hready : ready v = true) (hattempts : 0 < policy.attempts) :
    Yields s (e.pollField name field policy ready) (.ok (.ready v)) := by
  have hpositive : policy.attempts.toNat ≠ 0 := Nat.ne_of_gt (UInt32.lt_iff_toNat_lt.1 hattempts)
  obtain ⟨n, hn⟩ := Nat.exists_eq_succ_of_ne_zero hpositive
  unfold pollField pollUntil
  rw [requireField_of_get? hr hf, hn]
  exact (Yields.ofExcept (.ok f)).andThen (yields_pollFrom_ready hread hready _ n 0)

theorem yields_wakeHandshake_busy
    (hread : Yields s (e.readField "GTSP1" "WAKE_REQUEST" false) (.ok state))
    (hbusy : freeWakeBit? state = none) :
    Yields s (wakeHandshake policy e) (.ok .warning) := by
  unfold wakeHandshake
  refine hread.andThen ?_
  refine (Yields.append _).andThen ?_
  rw [hbusy]
  exact yields_report

theorem memoryWrites_wakeHandshake_busy (st : Session Simulator)
    (hread : ((e.readField "GTSP1" "WAKE_REQUEST" false).outcome st).1 = .ok state)
    (hbusy : freeWakeBit? state = none) :
    ((wakeHandshake policy e).outcome st).2.platform.memoryWrites = st.platform.memoryWrites := by
  unfold wakeHandshake
  refine (spares_readField e "GTSP1" "WAKE_REQUEST" false).memoryWrites_bind st ?_
  intro shown hshown
  obtain rfl : state = shown := Except.ok.inj (hread.symm.trans hshown)
  refine (Spares.append _).bind fun _ => ?_
  rw [hbusy]
  exact (Spares.append _).bind fun _ => .pure _

theorem leads_wakeHandshake_released {acknowledged : UInt64}
    (hr : e.store.get? "GTSP1" = some r) (hf : r.field? "WAKE_REQUEST" = some f)
    (hattempts : 0 < policy.attempts)
    (hread : Yields s (e.readField "GTSP1" "WAKE_REQUEST" false) (.ok state))
    (hfree : freeWakeBit? state = some bit)
    (hrequest : Leads s (requestWake e bit bit) (.ok ()) t)
    (hpoll : Yields t (e.readField "GTSP1" "WAKE_REQUEST" false) (.ok acknowledged))
    (hready : acknowledged &&& bit = bit)
    (hrelease : Leads t (requestWake e bit 0) (.ok ()) u) :
    Leads s (wakeHandshake policy e) (.ok .passed) u := by
  have hpolled := yields_pollField_ready (fun v => v &&& bit = bit) hr hf hpoll
    (decide_eq_true hready) hattempts
  unfold wakeHandshake
  refine hread.leads.andThen ?_
  refine (Yields.append _).leads.andThen ?_
  rw [hfree]
  refine hrequest.andThen ?_
  refine hpolled.leads.andThen ?_
  refine (Yields.append _).leads.andThen ?_
  refine hrelease.andThen ?_
  exact yields_report.leads

variable {st : Store} {thread : UInt32}

theorem apart_graphics (s : Simulator) :
    Simulator.Apart (graphicsMemory s + 0xA188) .dword (graphicsMemory s + 0x0D0084) .dword := by
  have hle := toNat_graphicsMemory_le s
  have hwake := toNat_graphicsMemory_add s (show (0xA188 : UInt64).toNat < 2 ^ 32 by decide)
  have hstate := toNat_graphicsMemory_add s (show (0x0D0084 : UInt64).toNat < 2 ^ 32 by decide)
  rw [show (0xA188 : UInt64).toNat = 0xA188 from rfl] at hwake
  rw [show (0x0D0084 : UInt64).toNat = 0x0D0084 from rfl] at hstate
  apply Simulator.apart_of_le
  all_goals
    simp only [AccessWidth.bytes]
    omega

theorem graphicsMemory_poke (s : Simulator) (a : UInt64) (w : AccessWidth) (v : UInt64) :
    graphicsMemory (s.poke a w v) = graphicsMemory s := rfl

theorem leads_wakeHandshake_graphics (hs : Chipset.coffeeLake.store [] = .ok st)
    (hattempts : 0 < policy.attempts)
    (hacks : s.acks = [⟨graphicsMemory s + 0xA188, graphicsMemory s + 0x0D0084⟩]) (hk : k < 16)
    (hfree : freeWakeBit? (s.peek (graphicsMemory s + 0x0D0084) .dword &&& 0xFFFF) =
      some (wakeBit k)) :
    Leads s (wakeHandshake policy ⟨st, thread⟩) (.ok .passed)
      (s.poke (graphicsMemory s + 0xA188) .dword (wakeBit k <<< 16)) := by
  obtain ⟨r, hr, -, hf⟩ := exists_wakeState hs
  have hapart := apart_graphics s
  have hclear := and_wakeBit_of_free hk hfree
  have hgranted := acknowledged_wakeRequest hk hclear (Bus.peek_and_mask s _ .dword)
  let t := s.storeMemory (graphicsMemory s + 0xA188) .dword (wakeRequest k)
  have hbase : graphicsMemory t = graphicsMemory s := by
    rw [show t = _ from Simulator.storeMemory_of_hook hacks hapart _, graphicsMemory_poke,
      graphicsMemory_poke]
  have hrequest : Leads s (requestWake ⟨st, thread⟩ (wakeBit k) (wakeBit k)) (.ok ()) t :=
    leads_requestWake_graphics hs thread s (wakeBit k) (wakeBit k)
  have hpoll := yields_wakeState hs thread t
  rw [hbase, show t.peek _ _ = _ from Simulator.peek_storeMemory_of_hook hacks hapart hgranted]
    at hpoll
  have hrelease : Leads t (requestWake ⟨st, thread⟩ (wakeBit k) 0) (.ok ())
      (t.storeMemory (graphicsMemory t + 0xA188) .dword (wakeRelease k)) :=
    leads_requestWake_graphics hs thread t (wakeBit k) 0
  rw [hbase, show t.storeMemory _ _ _ = _ from Simulator.storeMemory_released hacks hapart hgranted
    (acknowledged_wakeRelease hk hclear), wakeRelease_eq k hk] at hrelease
  exact leads_wakeHandshake_released hr hf hattempts (yields_wakeState hs thread s) hfree hrequest
    hpoll (granted_and_wakeBit hk hclear) hrelease

/-- The address at which the store finds a memory-mapped register on this platform. -/
def Located (e : Engine) (st : Session Simulator) (name : String) (address : UInt64) : Prop :=
  ∃ r base offset b, e.store.get? name = some r ∧ r.location = .mmio base offset ∧
    ((e.baseAddress name).outcome st).1 = .ok b ∧ b + offset = address

theorem located_iff {offset address : UInt64} {s : Store} {st : Session Simulator}
    (hs : Chipset.coffeeLake.store [] = .ok s) (hr : s.get? name = some r)
    (h : IsGraphics r offset) :
    Located ⟨s, thread⟩ st name address ↔ address = graphicsMemory st.platform + offset := by
  have hbase := yields_baseAddress_mmio (e := ⟨s, thread⟩) hr h.location
    (fun d _ => avoidsConfigPorts_graphics hs d) st.platform st (.refl _)
  rw [baseOn_graphics hs] at hbase
  constructor
  · rintro ⟨r', base, offset', b, hr', hl, hb, rfl⟩
    obtain rfl : r = r' := Option.some.inj (hr.symm.trans hr')
    cases h.location.symm.trans hl
    rw [Except.ok.inj (hb.symm.trans hbase.1)]
  · rintro rfl
    exact ⟨r, _, offset, _, hr, h.location, hbase.1, rfl⟩

/-- What the run writes when it passes is one request for the bit and one release of it. -/
theorem wrote_of_passed {e : Engine} {chipset : String} {layers : List (List Register)}
    (h : Store.build chipset layers = .ok e.store) {st : Session Simulator}
    (hstate : ((e.readField "GTSP1" "WAKE_REQUEST" false).outcome st).1 = .ok state)
    (hfree : freeWakeBit? state = some bit)
    (hpassed : ((wakeHandshake policy e).outcome st).1 = .ok .passed) :
    ∃ request release, Asks e.store request bit bit ∧ Asks e.store release bit 0 ∧
      Wrote e "GT_FORCE_WAKE" st.platform [request, release]
        ((wakeHandshake policy e).outcome st).2.platform := by
  obtain ⟨shown, hshown, hended⟩ := ends_wakeHandshake h policy st .passed hpassed
  obtain rfl : state = shown := Except.ok.inj (hstate.symm.trans hshown)
  cases hended with
  | released free requests releases wrote =>
    obtain rfl := Option.some.inj (hfree.symm.trans free)
    exact ⟨_, _, requests, releases, wrote⟩

/-- With one hook, from the request register to the acknowledge register, the check warns and writes
nothing when every bit is acknowledged already. Otherwise it passes, having asked for the highest
bit that is not and taken the request back, and nothing in memory but the request register is other
than before. -/
theorem wakeHandshake_acknowledged {s : Store} (hs : Chipset.coffeeLake.store [] = .ok s)
    (thread : UInt32) {policy : PollPolicy} (hattempts : 0 < policy.attempts)
    (st : Session Simulator) {wake ack : UInt64}
    (hwake : Located ⟨s, thread⟩ st "GT_FORCE_WAKE" wake)
    (hack : Located ⟨s, thread⟩ st "GTSP1" ack) (hacks : st.platform.acks = [⟨wake, ack⟩]) :
    let e : Engine := ⟨s, thread⟩
    let state := st.platform.peek ack .dword &&& 0xFFFF
    let ran := ((graphicsWake policy).run e).outcome st
    let after := ran.2.platform
    (state = 0xFFFF → ran.1 = .ok .warning ∧ st.platform.Undisturbed after ∧
      after.memoryWrites = st.platform.memoryWrites) ∧
    (state ≠ 0xFFFF → ∃ k < 16, state.toNat.testBit k = false ∧
      (∀ j, k < j → j < 16 → state.toNat.testBit j = true) ∧ ran.1 = .ok .passed ∧
      (∃ request release, Asks s request (wakeBit k) (wakeBit k) ∧ Asks s release (wakeBit k) 0 ∧
        Wrote e "GT_FORCE_WAKE" st.platform [request, release] after) ∧
      after.peek ack .dword = st.platform.peek ack .dword ∧
      after.peek wake .dword = wakeBit k <<< 16 ∧
      ∀ a, 4 ≤ (a - wake).toNat → after.memory a = st.platform.memory a) := by
  intro e state ran after
  obtain ⟨r, hr, hplace, -⟩ := exists_wakeState hs
  obtain ⟨r', hr', hplace', -⟩ := exists_wakeRequest hs
  obtain rfl := (located_iff hs hr hplace).1 hack
  obtain rfl := (located_iff hs hr' hplace').1 hwake
  have hread := yields_wakeState hs thread st.platform
  have hstate := (hread st (.refl _)).1
  constructor
  · intro hall
    have hbusy : freeWakeBit? state = none := by
      rw [hall]
      decide
    obtain ⟨hverdict, hlooked⟩ := yields_wakeHandshake_busy hread hbusy st (.refl _)
    exact ⟨hverdict, hlooked, memoryWrites_wakeHandshake_busy st hstate hbusy⟩
  · intro hnot
    cases hfree : freeWakeBit? state with
    | none => exact absurd (freeWakeBit?_eq_none hfree) hnot
    | some bit =>
      obtain ⟨k, hk, rfl, hclear, habove⟩ := freeWakeBit?_eq_some hfree
      obtain ⟨hpassed, hleft⟩ :=
        leads_wakeHandshake_graphics hs hattempts hacks hk hfree st (.refl _)
      have hmemory : after.memory = _ := hleft.memory_eq
      refine ⟨k, hk, hclear, habove, hpassed,
        wrote_of_passed (e := e) hs hstate hfree hpassed, ?_, ?_, ?_⟩
      · rw [Simulator.peek_congr hmemory, Simulator.peek_poke_apart (apart_graphics _)]
      · rw [Simulator.peek_congr hmemory, Simulator.peek_poke, (wakeBit_masked k hk).2.2]
      · intro a ha
        rw [hmemory, Simulator.memory_poke_outside (w := .dword) ha]

def busyReference : Simulator := Simulator.reference.load 0xDE0D0084 (bytesLE 4 0xFFFF)

theorem located_reference {s : Store} (hs : Chipset.coffeeLake.store [] = .ok s)
    (st : Session Simulator) (hbase : graphicsMemory st.platform = 0xDE000000) :
    Located ⟨s, 0⟩ st "GT_FORCE_WAKE" 0xDE00A188 ∧ Located ⟨s, 0⟩ st "GTSP1" 0xDE0D0084 := by
  obtain ⟨r, hr, hplace, -⟩ := exists_wakeState hs
  obtain ⟨r', hr', hplace', -⟩ := exists_wakeRequest hs
  rw [located_iff hs hr' hplace', located_iff hs hr hplace, hbase]
  decide

theorem wakeHandshake_acknowledged_reference : ∃ s, Chipset.coffeeLake.store [] = .ok s ∧
    let e : Engine := ⟨s, 0⟩
    let st : Session Simulator := ⟨.reference, #[]⟩
    let busy : Session Simulator := ⟨busyReference, #[]⟩
    let ran := ((graphicsWake .standard).run e).outcome st
    st.platform.acks = [⟨0xDE00A188, 0xDE0D0084⟩] ∧ busy.platform.acks = st.platform.acks ∧
      ran.1 = .ok .passed ∧ ran.2.platform.peek 0xDE0D0084 .dword = 0 ∧
      ran.2.platform.peek 0xDE00A188 .dword = 0x80000000 ∧
      (((graphicsWake .standard).run e).outcome busy).1 = .ok .warning := by
  obtain ⟨s, hs⟩ := Chipset.exists_store (c := Chipset.coffeeLake) (by simp [Chipset.all])
  refine ⟨s, hs, ?_⟩
  intro e st busy ran
  have hattempts : 0 < PollPolicy.standard.attempts := by decide
  have hacks : st.platform.acks = [⟨0xDE00A188, 0xDE0D0084⟩] := by decide +kernel
  have hbusy : busy.platform.acks = [⟨0xDE00A188, 0xDE0D0084⟩] := by decide +kernel
  obtain ⟨hwake, hack⟩ := located_reference hs st (by decide +kernel)
  obtain ⟨hwake', hack'⟩ := located_reference hs busy (by decide +kernel)
  have hzero : st.platform.peek 0xDE0D0084 .dword = 0 := by decide +kernel
  have hones : busy.platform.peek 0xDE0D0084 .dword &&& 0xFFFF = 0xFFFF := by decide +kernel
  obtain ⟨-, hfree⟩ := wakeHandshake_acknowledged hs 0 hattempts st hwake hack hacks
  obtain ⟨hnone, -⟩ := wakeHandshake_acknowledged hs 0 hattempts busy hwake' hack' hbusy
  rw [hzero] at hfree
  obtain ⟨k, hk, -, habove, hpassed, -, hstate, hrequest, -⟩ := hfree (by decide)
  have hlast : k = 15 := by
    by_contra hne
    exact absurd (habove 15 (by omega) (by decide)) (by decide)
  rw [hlast] at hrequest
  exact ⟨hacks, hbusy, hpassed, hstate, hrequest, (hnone hones).1⟩

end Lockdown.Check

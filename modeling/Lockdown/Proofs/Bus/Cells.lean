import Lockdown.Proofs.Bus.Memory
import Lockdown.Proofs.Field

/-! Cells of memory, the bytes of one width at an address. What is put in a cell is found there, and
cells that share no byte know nothing of each other. A dword with a hook is two such cells: what is
written to the one asks for bits under a mask, and these bits appear in the other. -/
namespace Lockdown.Simulator

/-- Bytes laid over a map are found at the places they were laid. -/
theorem map_overlay {ι : Type} (m : ι → UInt8) (offset : ι → Nat) (place : Nat → ι)
    {bytes : List UInt8} {n : Nat} (hn : bytes.length = n) (h : ∀ i < n, offset (place i) = i) :
    ((List.range n).map fun i => overlay m offset bytes.toArray (place i)) = bytes := by
  apply List.ext_getElem
  · rw [List.length_map, List.length_range, hn]
  · intro i hi hlength
    simp only [overlay, List.getElem_map, List.getElem_range, h i (hn ▸ hlength),
      List.getElem?_toArray, List.getElem?_eq_getElem hlength, Option.getD_some]

theorem bytesAt_load (s : Simulator) (address : UInt64) {bytes : List UInt8} {n : Nat}
    (hn : bytes.length = n) (h : n ≤ 8) : (s.load address bytes).bytesAt address n = bytes := by
  refine map_overlay s.memory (fun a => (a - address).toNat) (fun i => address + UInt64.ofNat i) hn
    fun i hi => ?_
  rw [UInt64.add_comm, UInt64.add_sub_cancel]
  exact UInt64.toNat_ofNat_of_lt' (show i < 2 ^ 64 by omega)

theorem portBytes_setPorts (s : Simulator) (port : UInt16) {bytes : List UInt8} {n : Nat}
    (hn : bytes.length = n) (h : n ≤ 8) : (s.setPorts port bytes).portBytes port n = bytes := by
  refine map_overlay s.ports (fun p => (p - port).toNat) (fun i => port + UInt16.ofNat i) hn
    fun i hi => ?_
  rw [UInt16.add_comm, UInt16.add_sub_cancel]
  exact UInt16.toNat_ofNat_of_lt' (show i < 2 ^ 16 by omega)

theorem peek_congr {s t : Simulator} (h : t.memory = s.memory) (address : UInt64)
    (w : AccessWidth) : t.peek address w = s.peek address w := by
  simp only [peek, bytesAt, h]

theorem peek_poke (s : Simulator) (address : UInt64) (w : AccessWidth) (v : UInt64) :
    (s.poke address w v).peek address w = v &&& w.mask := by
  rw [peek, poke, bytesAt_load _ _ (length_bytesLE _ _) w.bytes_le_eight, ofBytesLE_bytesLE]

def Apart (a : UInt64) (w : AccessWidth) (b : UInt64) (w' : AccessWidth) : Prop :=
  ∀ x : UInt64, w.bytes ≤ (x - a).toNat ∨ w'.bytes ≤ (x - b).toNat

variable {s : Simulator} {a b : UInt64} {w w' : AccessWidth}

theorem apart_of_le (h : a.toNat + w.bytes ≤ b.toNat) (htop : b.toNat + w'.bytes ≤ 2 ^ 64) :
    Apart a w b w' := by
  intro x
  have hx := x.toNat_lt
  rw [UInt64.toNat_sub, UInt64.toNat_sub]
  omega

theorem memory_poke_outside {x : UInt64} (h : w.bytes ≤ (x - a).toNat) (s : Simulator)
    (v : UInt64) : (s.poke a w v).memory x = s.memory x := by
  rw [poke, memory_load, List.getElem?_eq_none (by rwa [length_bytesLE]), Option.getD_none]

theorem memory_poke_inside {x : UInt64} (h : (x - a).toNat < w.bytes) (s t : Simulator)
    (v : UInt64) : (s.poke a w v).memory x = (t.poke a w v).memory x := by
  have hlength : (x - a).toNat < (bytesLE w.bytes v).length := by rwa [length_bytesLE]
  rw [poke, poke, memory_load, memory_load, List.getElem?_eq_getElem hlength, Option.getD_some,
    Option.getD_some]

/-- The later of two values stands. -/
theorem poke_poke (s : Simulator) (a : UInt64) (w : AccessWidth) (v v' : UInt64) :
    (s.poke a w v).poke a w v' = s.poke a w v' := by
  have hmemory : ((s.poke a w v).poke a w v').memory = (s.poke a w v').memory := by
    funext x
    rcases Nat.lt_or_ge (x - a).toNat w.bytes with hin | hout
    · exact memory_poke_inside hin _ s v'
    · rw [memory_poke_outside hout, memory_poke_outside hout, memory_poke_outside hout]
  exact congrArg (fun memory => { s with memory }) hmemory

theorem poke_peek (s : Simulator) (a : UInt64) (w : AccessWidth) :
    s.poke a w (s.peek a w) = s := by
  have hmemory : (s.poke a w (s.peek a w)).memory = s.memory := by
    funext x
    rcases Nat.lt_or_ge (x - a).toNat w.bytes with hin | hout
    · have hlength : (x - a).toNat < (s.bytesAt a w.bytes).length := by rwa [Bus.length_bytesAt]
      have hplace : a + UInt64.ofNat (x - a).toNat = x := by
        rw [UInt64.ofNat_toNat, UInt64.add_comm, UInt64.sub_add_cancel]
      rw [poke, memory_load, Bus.bytesLE_peek, List.getElem?_eq_getElem hlength, Option.getD_some]
      simp only [bytesAt, List.getElem_map, List.getElem_range, hplace]
    · exact memory_poke_outside hout s _
  exact congrArg (fun memory => { s with memory }) hmemory

theorem poke_comm (h : Apart a w b w') (s : Simulator) (v v' : UInt64) :
    (s.poke a w v).poke b w' v' = (s.poke b w' v').poke a w v := by
  have hmemory : ((s.poke a w v).poke b w' v').memory = ((s.poke b w' v').poke a w v).memory := by
    funext x
    rcases h x with hout | hout
    · rw [memory_poke_outside hout]
      rcases Nat.lt_or_ge (x - b).toNat w'.bytes with hin | hout'
      · exact memory_poke_inside hin _ s v'
      · rw [memory_poke_outside hout', memory_poke_outside hout', memory_poke_outside hout]
    · rw [memory_poke_outside hout]
      rcases Nat.lt_or_ge (x - a).toNat w.bytes with hin | hout'
      · exact memory_poke_inside hin s _ v
      · rw [memory_poke_outside hout', memory_poke_outside hout', memory_poke_outside hout]
  exact congrArg (fun memory => { s with memory }) hmemory

theorem peek_poke_apart (h : Apart a w b w') (s : Simulator) (v : UInt64) :
    (s.poke a w v).peek b w' = s.peek b w' := by
  have hbytes : (s.poke a w v).bytesAt b w'.bytes = s.bytesAt b w'.bytes := by
    apply List.map_congr_left
    intro i hi
    have hi' : i < w'.bytes := List.mem_range.1 hi
    have hplace : (b + UInt64.ofNat i - b).toNat = i := by
      rw [UInt64.add_comm, UInt64.add_sub_cancel]
      exact UInt64.toNat_ofNat_of_lt' (show i < 2 ^ 64 by
        have := w'.bytes_le_eight
        omega)
    refine memory_poke_outside ((h _).resolve_right ?_) s v
    omega
  rw [peek, peek, hbytes]

/-- What is left of `old` by a request that is acknowledged: the bits of the low half that its high
half masks are those requested. -/
def acknowledged (old request : UInt64) : UInt64 :=
  let mask := (request >>> 16) &&& 0xFFFF
  (old &&& ~~~mask) ||| (request &&& mask)

theorem or_and_distrib (v w mask : UInt64) :
    (v ||| w) &&& mask = (v &&& mask) ||| (w &&& mask) := by
  rw [← UInt64.toNat_inj]
  simp only [UInt64.toNat_and, UInt64.toNat_or]
  exact Nat.and_or_distrib_right _ _ _

theorem and_not_of_free {old bits : UInt64} (hfree : old &&& bits = 0) : old &&& ~~~bits = old := by
  apply qword_ext
  intro i hi
  have hclear : (old.toNat.testBit i && bits.toNat.testBit i) = false := by
    rw [← Nat.testBit_and, ← UInt64.toNat_and, hfree, UInt64.toNat_zero, Nat.zero_testBit]
  rw [UInt64.toNat_and, Nat.testBit_and, testBit_not bits hi]
  revert hclear
  cases old.toNat.testBit i <;> cases bits.toNat.testBit i <;> decide

theorem acknowledged_grant {old request bits : UInt64} (hfree : old &&& bits = 0)
    (hmask : (request >>> 16) &&& 0xFFFF = bits) (hbits : request &&& bits = bits) :
    acknowledged old request = old ||| bits := by
  simp only [acknowledged, hmask, hbits, and_not_of_free hfree]

theorem acknowledged_release {old release bits : UInt64} (hfree : old &&& bits = 0)
    (hmask : (release >>> 16) &&& 0xFFFF = bits) (hbits : release &&& bits = 0) :
    acknowledged (old ||| bits) release = old := by
  simp only [acknowledged, hmask, hbits, or_and_distrib, and_not_of_free hfree, UInt64.and_not_self,
    UInt64.or_zero]

theorem storeMemory_of_hook (hacks : s.acks = [⟨a, b⟩]) (h : Apart a .dword b .dword)
    (request : UInt64) :
    s.storeMemory a .dword request =
      (s.poke a .dword request).poke b .dword (acknowledged (s.peek b .dword) request) := by
  have htriggered : s.triggered a .dword = [b] := by
    simp [triggered, hacks]
  rw [storeMemory, htriggered, ← peek_poke_apart h s request]
  rfl

theorem peek_storeMemory_of_hook (hacks : s.acks = [⟨a, b⟩]) (h : Apart a .dword b .dword)
    {request granted : UInt64}
    (hgranted : acknowledged (s.peek b .dword) request &&& AccessWidth.dword.mask = granted) :
    (s.storeMemory a .dword request).peek b .dword = granted := by
  rw [storeMemory_of_hook hacks h, peek_poke, hgranted]

/-- When a second request takes back what the first was granted, the second is all that is left. -/
theorem storeMemory_released (hacks : s.acks = [⟨a, b⟩]) (h : Apart a .dword b .dword)
    {request granted release : UInt64}
    (hgranted : acknowledged (s.peek b .dword) request &&& AccessWidth.dword.mask = granted)
    (hreleased : acknowledged granted release = s.peek b .dword) :
    (s.storeMemory a .dword request).storeMemory a .dword release = s.poke a .dword release := by
  have hhook : (s.storeMemory a .dword request).acks = [⟨a, b⟩] := by
    rw [storeMemory_of_hook hacks h]
    exact hacks
  rw [storeMemory_of_hook hhook h, peek_storeMemory_of_hook hacks h hgranted, hreleased,
    storeMemory_of_hook hacks h, ← poke_comm h, poke_poke, poke_poke, ← peek_poke_apart h s release,
    poke_peek]

end Lockdown.Simulator

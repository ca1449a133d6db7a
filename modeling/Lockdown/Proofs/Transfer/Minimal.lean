import Lockdown.Proofs.Transfer
import Mathlib.Algebra.GroupWithZero.Nat
import Mathlib.Data.List.Pairwise

/-! The plan of a transfer is the shortest there is. It lays one chunk at a time, the widest that
fits in what remains, so widths never grow along it. One more chunk of any width makes the greedy
plan at most one chunk longer, so a list of widths chosen in another way cannot be shorter. -/
namespace Lockdown

variable {w : AccessWidth} {ws : List AccessWidth} {offset remaining : Nat} {c : Chunk}

theorem width_mem_of_mem_chunksFrom (h : c ∈ chunksFrom ws offset remaining) : c.width ∈ ws := by
  induction ws, offset, remaining using chunksFrom.induct with
  | case1 =>
    rw [chunksFrom] at h
    cases h
  | case2 w ws offset remaining hfits ih =>
    rw [chunksFrom_cons_of_le hfits] at h
    rcases List.mem_cons.1 h with rfl | h
    · exact List.mem_cons_self
    · exact ih h
  | case3 w ws offset remaining hshort ih =>
    rw [chunksFrom_cons_of_lt (Nat.not_le.1 hshort)] at h
    exact List.mem_cons_of_mem w (ih h)

theorem pairwise_chunksFrom (h : ws.Pairwise fun a b => b.bytes ≤ a.bytes) :
    (chunksFrom ws offset remaining).Pairwise fun a b => b.width.bytes ≤ a.width.bytes := by
  induction ws, offset, remaining using chunksFrom.induct with
  | case1 =>
    rw [chunksFrom]
    exact .nil
  | case2 w ws offset remaining hfits ih =>
    rw [chunksFrom_cons_of_le hfits]
    refine List.pairwise_cons.2 ⟨fun c hc => ?_, ih h⟩
    rcases List.mem_cons.1 (width_mem_of_mem_chunksFrom hc) with hw | hw
    · exact Nat.le_of_eq (congrArg AccessWidth.bytes hw)
    · exact (List.pairwise_cons.1 h).1 c.width hw
  | case3 w ws offset remaining hshort ih =>
    rw [chunksFrom_cons_of_lt (Nat.not_le.1 hshort)]
    exact ih (List.pairwise_cons.1 h).2

theorem Tiles.sum_bytes {start stop : Nat} {chunks : List Chunk} (h : Tiles start chunks stop) :
    start + (chunks.map fun c => c.width.bytes).sum = stop := by
  induction h with
  | nil start => rfl
  | cons _ ih =>
    rw [List.map_cons, List.sum_cons, ← Nat.add_assoc]
    exact ih

theorem mem_available_iff {widest : AccessWidth} :
    w ∈ AccessWidth.descending.filter (fun v => v.bytes ≤ widest.bytes) ↔
      w.bytes ≤ widest.bytes := by
  have hall : w ∈ AccessWidth.descending := by cases w <;> decide
  simp [hall]

theorem tiles_chunkPlanUpTo (widest : AccessWidth) (length : Nat) :
    Tiles 0 (chunkPlanUpTo widest length) length := by
  have htiles := tiles_chunksFrom (AccessWidth.descending.filter fun w => w.bytes ≤ widest.bytes)
    (mem_available_iff.2 widest.bytes_pos) 0 length
  rwa [Nat.zero_add] at htiles

theorem AccessWidth.exists_bytes_eq {n : Nat} (h : n ∈ [1, 2, 4, 8]) :
    ∃ w : AccessWidth, w.bytes = n := by
  simp only [List.mem_cons, List.not_mem_nil, or_false] at h
  rcases h with rfl | rfl | rfl | rfl
  exacts [⟨.byte, rfl⟩, ⟨.word, rfl⟩, ⟨.dword, rfl⟩, ⟨.qword, rfl⟩]

/-- The number of chunks that the widths in turn make of so many bytes. -/
def chunkCount (ws : List AccessWidth) (remaining : Nat) : Nat := (chunksFrom ws 0 remaining).length

theorem length_chunksFrom : (chunksFrom ws offset remaining).length = chunkCount ws remaining := by
  unfold chunkCount
  generalize 0 = start
  induction ws, offset, remaining using chunksFrom.induct generalizing start with
  | case1 => rw [chunksFrom, chunksFrom]
  | case2 w ws offset remaining hfits ih =>
    rw [chunksFrom_cons_of_le hfits, chunksFrom_cons_of_le hfits, List.length_cons,
      List.length_cons, ih]
  | case3 w ws offset remaining hshort ih =>
    have hlt := Nat.not_le.1 hshort
    rw [chunksFrom_cons_of_lt hlt, chunksFrom_cons_of_lt hlt, ih]

theorem chunkCount_cons_of_le (h : w.bytes ≤ remaining) :
    chunkCount (w :: ws) remaining = chunkCount (w :: ws) (remaining - w.bytes) + 1 := by
  rw [chunkCount, chunksFrom_cons_of_le h, List.length_cons, length_chunksFrom]

theorem chunkCount_cons_of_lt (h : remaining < w.bytes) :
    chunkCount (w :: ws) remaining = chunkCount ws remaining := by
  rw [chunkCount, chunksFrom_cons_of_lt h, length_chunksFrom]

/-- Each width divides those before it: the chunks of one width are a digit of the length. -/
def Nested (ws : List AccessWidth) : Prop := ws.Pairwise fun a b => b.bytes ∣ a.bytes

variable {v : AccessWidth}

/-- Leaving out whole multiples of a width makes no plan longer. -/
theorem chunkCount_mod_le (hws : Nested ws) (hv : v ∈ ws) (n : Nat) :
    chunkCount ws (n % v.bytes) ≤ chunkCount ws n := by
  induction ws generalizing n with
  | nil => cases hv
  | cons w ws ih =>
    obtain ⟨hw, hrest⟩ := List.pairwise_cons.1 hws
    have hdvd : v.bytes ∣ w.bytes := by
      rcases List.mem_cons.1 hv with rfl | hv
      · exact Nat.dvd_refl _
      · exact hw v hv
    induction n using Nat.strongRecOn with
    | ind n step =>
      have hpos := w.bytes_pos
      by_cases hn : w.bytes ≤ n
      · obtain ⟨k, hk⟩ := hdvd
        have hmod : (n - w.bytes) % v.bytes = n % v.bytes := by
          rw [hk] at hn ⊢
          exact Nat.sub_mul_mod hn
        have hbound := step (n - w.bytes) (by omega)
        rw [hmod] at hbound
        rw [chunkCount_cons_of_le hn]
        omega
      · have hlt := Nat.not_le.1 hn
        rcases List.mem_cons.1 hv with rfl | hv
        · exact Nat.le_of_eq (congrArg _ (Nat.mod_eq_of_lt hlt))
        · have hle := Nat.mod_le n v.bytes
          rw [chunkCount_cons_of_lt hlt, chunkCount_cons_of_lt (Nat.lt_of_le_of_lt hle hlt)]
          exact ih hrest hv n

theorem add_sub_eq_mod {a b n : Nat} (hdvd : a ∣ b) (hn : n < b) (h : b ≤ a + n) :
    a + n - b = n % a := by
  obtain ⟨k, rfl⟩ := hdvd
  cases k with
  | zero => omega
  | succ k =>
    rw [Nat.mul_succ] at hn h ⊢
    have hparts : n = a + n - (a * k + a) + a * k := by omega
    rw [hparts, Nat.add_mul_mod_self_left, Nat.mod_eq_of_lt (by omega)]
    omega

/-- One more chunk is carried like a digit: it may replace narrower chunks by a wider one, and
adds one chunk at most. -/
theorem chunkCount_add_le (hws : Nested ws) (hv : v ∈ ws) (n : Nat) :
    chunkCount ws (v.bytes + n) ≤ chunkCount ws n + 1 := by
  induction ws generalizing n with
  | nil => cases hv
  | cons w ws ih =>
    obtain ⟨hw, hrest⟩ := List.pairwise_cons.1 hws
    rcases List.mem_cons.1 hv with rfl | hv
    · have hcount : chunkCount (v :: ws) (v.bytes + n) = chunkCount (v :: ws) n + 1 := by
        rw [chunkCount_cons_of_le (Nat.le_add_right _ n), Nat.add_sub_cancel_left]
      exact Nat.le_of_eq hcount
    induction n using Nat.strongRecOn with
    | ind n step =>
      have hpos := w.bytes_pos
      have hle := Nat.le_of_dvd hpos (hw v hv)
      by_cases hn : w.bytes ≤ n
      · have hbound := step (n - w.bytes) (by omega)
        rw [← Nat.add_sub_assoc hn] at hbound
        rw [chunkCount_cons_of_le hn, chunkCount_cons_of_le (Nat.le_add_left_of_le hn)]
        omega
      · have hlt := Nat.not_le.1 hn
        rw [chunkCount_cons_of_lt hlt]
        by_cases hfull : w.bytes ≤ v.bytes + n
        · have hleft := add_sub_eq_mod (hw v hv) hlt hfull
          have hbound := chunkCount_mod_le hrest hv n
          rw [chunkCount_cons_of_le hfull, chunkCount_cons_of_lt (by omega), hleft]
          omega
        · rw [chunkCount_cons_of_lt (Nat.not_le.1 hfull)]
          exact ih hrest hv n

theorem nested_descending : Nested AccessWidth.descending := by
  unfold Nested
  decide

theorem length_chunkPlanUpTo_sum_le (widest : AccessWidth) {widths : List Nat}
    (h : ∀ bytes ∈ widths, bytes ∈ [1, 2, 4, 8] ∧ bytes ≤ widest.bytes) :
    (chunkPlanUpTo widest widths.sum).length ≤ widths.length := by
  rw [chunkPlanUpTo, length_chunksFrom]
  induction widths with
  | nil =>
    rw [List.sum_nil, chunkCount, chunksFrom_zero]
    exact Nat.le_refl 0
  | cons bytes widths ih =>
    obtain ⟨⟨hbytes, hwidest⟩, hrest⟩ := List.forall_mem_cons.1 h
    obtain ⟨w, rfl⟩ := AccessWidth.exists_bytes_eq hbytes
    have hplan := ih hrest
    have hstep := chunkCount_add_le (nested_descending.filter fun v => v.bytes ≤ widest.bytes)
      (mem_available_iff.2 hwidest) widths.sum
    rw [List.sum_cons, List.length_cons]
    omega

/-- The plan begins at the first byte, goes on where each chunk ends and covers the bytes exactly,
in widths that never grow and never exceed the widest allowed; and it is as short as any. -/
theorem chunkPlanUpTo_exact (widest : AccessWidth) (length : Nat) :
    Tiles 0 (chunkPlanUpTo widest length) length ∧
    ((chunkPlanUpTo widest length).map fun c => c.width.bytes).sum = length ∧
    (chunkPlanUpTo widest length).Pairwise (fun a b => b.width.bytes ≤ a.width.bytes) ∧
    (∀ c ∈ chunkPlanUpTo widest length,
      c.width.bytes ≤ widest.bytes ∧ c.offset + c.width.bytes ≤ length) ∧
    ∀ widths : List Nat, (∀ bytes ∈ widths, bytes ∈ [1, 2, 4, 8] ∧ bytes ≤ widest.bytes) →
      widths.sum = length → (chunkPlanUpTo widest length).length ≤ widths.length := by
  have htiles := tiles_chunkPlanUpTo widest length
  have hsum := htiles.sum_bytes
  have hdescending : AccessWidth.descending.Pairwise fun a b => b.bytes ≤ a.bytes := by decide
  refine ⟨htiles, by omega, pairwise_chunksFrom (hdescending.filter _), ?_, ?_⟩
  · intro c hc
    exact ⟨mem_available_iff.1 (width_mem_of_mem_chunksFrom hc), (htiles.inside hc).2⟩
  · rintro widths hwidths rfl
    exact length_chunkPlanUpTo_sum_le widest hwidths

end Lockdown

import Lockdown.Store
import Lockdown.Proofs.Field
import Lockdown.Proofs.NameMap
import Mathlib.Data.List.Sort

/-! When the fields of one register are accepted. Overlap is looked for only between neighbours in
order of lowest bit. Sorting makes that enough: what ends before its right neighbour begins ends
before everything further right begins. Ends that wrap round are compared as what they wrap to, so
the checks say this only of fields without wrap-around. -/
namespace Lockdown

namespace Field

def Covers (f : Field) (i : Nat) : Prop := f.bit.toNat ≤ i ∧ i < f.top

/-- No bit belongs to both. -/
def Apart (f g : Field) : Prop := ∀ i, ¬(f.Covers i ∧ g.Covers i)

variable {f g : Field}

theorem Apart.symm (h : f.Apart g) : g.Apart f := fun i hi => h i hi.symm

theorem overlaps_iff (hf : 0 < f.size.toNat) (hg : 0 < g.size.toNat) (huf : f.Unwrapped)
    (hug : g.Unwrapped) : f.overlaps g = true ↔ ∃ i, f.Covers i ∧ g.Covers i := by
  simp only [overlaps, Covers, Bool.and_eq_true, decide_eq_true_eq, UInt32.lt_iff_toNat_lt,
    toNat_stop huf, toNat_stop hug]
  simp only [top]
  constructor
  · rintro ⟨hfg, hgf⟩
    exact ⟨max f.bit.toNat g.bit.toNat, by omega⟩
  · rintro ⟨i, hi⟩
    omega

theorem overlaps_eq_false_iff (hf : 0 < f.size.toNat) (hg : 0 < g.size.toNat) (huf : f.Unwrapped)
    (hug : g.Unwrapped) : f.overlaps g = false ↔ f.Apart g := by
  rw [← Bool.not_eq_true, overlaps_iff hf hg huf hug, not_exists]
  rfl

theorem Apart.top_le (h : f.Apart g) (hg : 0 < g.size.toNat) (hle : f.bit ≤ g.bit) :
    f.top ≤ g.bit.toNat := by
  rw [UInt32.le_iff_toNat_le] at hle
  by_contra hlt
  exact h g.bit.toNat ⟨⟨hle, by omega⟩, ⟨Nat.le_refl _, by simp only [top]; omega⟩⟩

theorem apart_of_top_le (h : f.top ≤ g.bit.toNat) : f.Apart g := by
  rintro i ⟨⟨-, hf⟩, ⟨hg, -⟩⟩
  omega

end Field

namespace Register

def Unwrapped (r : Register) : Prop := ∀ field f, r.field? field = some f → f.Unwrapped

instance (r : Register) : Decidable r.Unwrapped :=
  decidable_of_iff (∀ e ∈ r.fields.toList, e.2.Unwrapped)
    ⟨fun h field f hf => h (field, f) (NameMap.mem_toList_iff.2 hf),
      fun h e he => h e.1 e.2 (NameMap.mem_toList_iff.1 he)⟩

/-- The fields have bits, which lie in the register, and no bit belongs to two. -/
structure LaidOut (r : Register) : Prop where
  inside : ∀ field f, r.field? field = some f → 1 ≤ f.size.toNat ∧ f.top ≤ r.width.bits
  apart : ∀ a f b g, r.field? a = some f → r.field? b = some g → a ≠ b → f.Apart g

theorem LaidOut.top_le {r : Register} (h : r.LaidOut) {field : String} {f : Field}
    (hf : r.field? field = some f) : f.top ≤ 64 := by
  have hinside := (h.inside field f hf).2
  have hwidth : r.width.bits ≤ 64 := by cases r.width <;> decide
  omega

def ByBit (a b : String × Field) : Prop := a.2.bit ≤ b.2.bit

instance : DecidableRel ByBit := fun a b => inferInstanceAs (Decidable (a.2.bit ≤ b.2.bit))

instance : IsTrans (String × Field) ByBit := ⟨fun _ _ _ => UInt32.le_trans⟩

instance : Std.Total ByBit := ⟨fun a b => UInt32.le_total a.2.bit b.2.bit⟩

theorem insertByBit_eq (e : String × Field) (l : List (String × Field)) :
    insertByBit e l = l.orderedInsert ByBit e := by
  induction l with
  | nil => rfl
  | cons x xs ih =>
    rw [insertByBit, List.orderedInsert_cons, ih]
    rfl

theorem fieldsByBit_eq (r : Register) :
    r.fieldsByBit = r.fields.toList.insertionSort ByBit := by
  unfold fieldsByBit List.insertionSort
  congr 1
  funext e l
  exact insertByBit_eq e l

theorem fieldsByBit_perm (r : Register) : r.fieldsByBit.Perm r.fields.toList :=
  r.fieldsByBit_eq ▸ List.perm_insertionSort ByBit _

theorem fieldsByBit_sorted (r : Register) : r.fieldsByBit.Pairwise ByBit :=
  r.fieldsByBit_eq ▸ List.pairwise_insertionSort ByBit _

end Register

namespace Table

variable {r : Register} {l : List (String × Field)}

theorem checkRange_eq_ok_iff (r : Register) :
    checkRange r = .ok () ↔
      ∀ name f, r.field? name = some f → 1 ≤ f.size.toNat ∧ f.stop.toNat ≤ r.width.bits := by
  have hfind : checkRange r = .ok () ↔
      (r.fields.toList.find? fun e => e.2.size = 0 || r.width.bits < e.2.stop.toNat) = none := by
    unfold checkRange
    split <;> rename_i h
    · simp only [reduceCtorEq, false_iff]
      exact fun hnone => absurd (hnone.symm.trans h) (by simp)
    · exact iff_of_true rfl h
  rw [hfind, List.find?_eq_none]
  simp only [Prod.forall, NameMap.mem_toList_iff, Bool.or_eq_true, decide_eq_true_eq, not_or,
    Nat.not_lt]
  apply forall₃_congr
  intro name f _
  rw [← UInt32.toNat_inj, UInt32.toNat_zero, Nat.one_le_iff_ne_zero]

/-- On fields in order, neighbours that do not overlap leave no two fields that share a bit. -/
theorem checkOverlap_eq_ok_iff (r : Register)
    (hfits : ∀ e ∈ l, 0 < e.2.size.toNat ∧ e.2.Unwrapped) (hsort : l.Pairwise Register.ByBit) :
    checkOverlap r l = .ok () ↔ l.Pairwise fun a b => a.2.Apart b.2 := by
  induction l with
  | nil => simp [checkOverlap]
  | cons a rest ih =>
    cases rest with
    | nil => simp [checkOverlap]
    | cons b rest =>
      obtain ⟨⟨ha, hua⟩, hrest⟩ := List.forall_mem_cons.1 hfits
      obtain ⟨hab, hsort'⟩ := List.pairwise_cons.1 hsort
      obtain ⟨hb, hub⟩ := hrest b List.mem_cons_self
      have ih := ih hrest hsort'
      rw [checkOverlap, List.pairwise_cons]
      by_cases hov : a.2.overlaps b.2
      · have hnot : ¬ a.2.Apart b.2 := by
          rw [← Field.overlaps_eq_false_iff ha hb hua hub]
          simp [hov]
        simp only [hov, ↓reduceIte, reduceCtorEq, false_iff, not_and]
        exact fun h => absurd (h b List.mem_cons_self) hnot
      · have hapart : a.2.Apart b.2 :=
          (Field.overlaps_eq_false_iff ha hb hua hub).1 (by simpa using hov)
        have htop := hapart.top_le hb (hab b List.mem_cons_self)
        -- `a` ends where `b` begins, and whatever follows begins no lower.
        have hall : ∀ x ∈ b :: rest, a.2.Apart x.2 := by
          intro x hx
          rcases List.mem_cons.1 hx with rfl | hx
          · exact hapart
          · have hbx : b.2.bit ≤ x.2.bit := (List.pairwise_cons.1 hsort').1 x hx
            rw [UInt32.le_iff_toNat_le] at hbx
            exact Field.apart_of_top_le (by omega)
        simp only [hov, Bool.false_eq_true, ↓reduceIte, ih]
        exact ⟨fun h => ⟨hall, h⟩, fun h => h.2⟩

theorem checkOverlap_fieldsByBit_eq_ok_iff (hr : r.Unwrapped)
    (hpos : ∀ name f, r.field? name = some f → 0 < f.size.toNat) :
    checkOverlap r r.fieldsByBit = .ok () ↔
      ∀ a f b g, r.field? a = some f → r.field? b = some g → a ≠ b → f.Apart g := by
  have hmem : ∀ e ∈ r.fieldsByBit, 0 < e.2.size.toNat ∧ e.2.Unwrapped := by
    intro e he
    have hfield := NameMap.mem_toList_iff.1 ((r.fieldsByBit_perm.mem_iff).1 he)
    exact ⟨hpos e.1 e.2 hfield, hr e.1 e.2 hfield⟩
  rw [checkOverlap_eq_ok_iff r hmem r.fieldsByBit_sorted,
    r.fieldsByBit_perm.pairwise_iff fun h => h.symm]
  have hnames : r.fields.toList.Pairwise fun a b => a.1 ≠ b.1 := by
    refine r.fields.ascending.imp ?_
    intro a b hlt he
    exact String.lt_irrefl b.1 (he ▸ hlt)
  constructor
  · intro h a f b g ha hb hne
    have hsymm : Std.Symm fun a b : String × Field => a.2.Apart b.2 := ⟨fun _ _ h => h.symm⟩
    exact h.forall (NameMap.mem_toList_iff.2 ha) (NameMap.mem_toList_iff.2 hb)
      fun he => hne (congrArg Prod.fst he)
  · intro h
    refine hnames.imp_of_mem ?_
    intro a b ha hb hne
    exact h a.1 a.2 b.1 b.2 (NameMap.mem_toList_iff.1 ha) (NameMap.mem_toList_iff.1 hb) hne

end Table

end Lockdown

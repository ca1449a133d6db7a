import Lockdown.Proofs.Engine.Writing

/-! Several fields of one register set one after another. A bit of the result is a bit of the one
value assigned to the field that covers it, or of the old value where no such field does. This
says nothing of the order, and it leaves only one result. -/
namespace Lockdown

variable {r : Register} {v w : UInt64} {assignments : List (String × UInt64)}

def Store.setFields (s : Store) (name : String) (v : UInt64)
    (assignments : List (String × UInt64)) : Except AccessError UInt64 :=
  assignments.foldlM (fun v a => s.setField name v a.1 a.2) v

namespace Register

/-- Some assignment is to a field that covers the bit. -/
def Assigns (r : Register) (assignments : List (String × UInt64)) (i : Nat) : Prop :=
  ∃ a ∈ assignments, ∃ f, r.field? a.1 = some f ∧ f.Covers i

/-- `w` is `v` with all assignments carried out. -/
structure Assigned (r : Register) (v : UInt64) (assignments : List (String × UInt64))
    (w : UInt64) : Prop where
  inside : ∀ a ∈ assignments, ∀ f, r.field? a.1 = some f → ∀ i < 64, f.Covers i →
    w.toNat.testBit i = a.2.toNat.testBit (i - f.bit.toNat)
  outside : ∀ i, ¬ r.Assigns assignments i → w.toNat.testBit i = v.toNat.testBit i

theorem Assigned.of_perm {order : List (String × UInt64)} (hp : order.Perm assignments)
    (h : r.Assigned v order w) : r.Assigned v assignments w where
  inside a ha := h.inside a (hp.mem_iff.2 ha)
  outside i hi := by
    apply h.outside
    rintro ⟨a, ha, hcovers⟩
    exact hi ⟨a, hp.mem_iff.1 ha, hcovers⟩

theorem Assigned.unique {u : UInt64} (h : r.Assigned v assignments w)
    (h' : r.Assigned v assignments u) : w = u := by
  apply qword_ext
  intro i hi
  by_cases hassigns : r.Assigns assignments i
  · obtain ⟨a, ha, f, hf, hcovers⟩ := hassigns
    rw [h.inside a ha f hf i hi hcovers, h'.inside a ha f hf i hi hcovers]
  · rw [h.outside i hassigns, h'.outside i hassigns]

theorem assigned_nil (r : Register) (v : UInt64) : r.Assigned v [] v where
  inside := by simp
  outside _ _ := rfl

theorem Assigned.cons {field : String} {new : UInt64} {f : Field} (hf : r.field? field = some f)
    (hapart : ∀ a ∈ assignments, ∀ g, r.field? a.1 = some g → f.Apart g)
    (h : r.Assigned (f.insert v new) assignments w) :
    r.Assigned v ((field, new) :: assignments) w where
  inside := by
    intro a ha g hg i hi hcovers
    rcases List.mem_cons.1 ha with rfl | ha
    · obtain rfl : f = g := Option.some.inj (hf.symm.trans hg)
      have hkept : ¬ r.Assigns assignments i := by
        rintro ⟨b, hb, g, hg, hcovers'⟩
        exact hapart b hb g hg i ⟨hcovers, hcovers'⟩
      rw [h.outside i hkept, Field.testBit_insert f v new hi]
      exact if_pos hcovers
    · exact h.inside a ha g hg i hi hcovers
  outside := by
    intro i hi
    have hrest : ¬ r.Assigns assignments i := by
      rintro ⟨a, ha, hcovers⟩
      exact hi ⟨a, List.mem_cons_of_mem _ ha, hcovers⟩
    have hfirst : ¬ f.Covers i := fun hcovers => hi ⟨_, List.mem_cons_self, f, hf, hcovers⟩
    rw [h.outside i hrest, Field.testBit_insert_of_not_covers v new hfirst]

variable {field : String} {new : UInt64} {f : Field}

theorem Assigned.toNat_extract (h : r.Assigned v assignments w)
    (hmem : (field, new) ∈ assignments) (hf : r.field? field = some f) (htop : f.top ≤ 64) :
    (f.extract w).toNat = new.toNat % 2 ^ f.size.toNat := by
  apply Nat.eq_of_testBit_eq
  intro i
  rw [Field.testBit_extract, Nat.testBit_mod_two_pow]
  by_cases hi : i < f.size.toNat
  · have hcovers : f.Covers (f.bit.toNat + i) := ⟨by omega, by unfold Field.top; omega⟩
    rw [h.inside _ hmem f hf _ (Nat.lt_of_lt_of_le hcovers.2 htop) hcovers,
      Nat.add_sub_cancel_left]
  · rw [decide_eq_false hi, Bool.false_and, Bool.false_and]

theorem Assigned.extract_eq (h : r.Assigned v assignments w)
    (hapart : ∀ i, f.Covers i → ¬ r.Assigns assignments i) : f.extract w = f.extract v := by
  apply qword_ext
  intro i _
  rw [Field.testBit_extract, Field.testBit_extract]
  by_cases hi : i < f.size.toNat
  · rw [h.outside _ (hapart _ ⟨by omega, by unfold Field.top; omega⟩)]
  · rw [decide_eq_false hi, Bool.false_and, Bool.false_and]

end Register

namespace Engine

variable {e : Engine} {name : String}

theorem exists_setFields (hr : e.store.get? name = some r)
    (hapart : ∀ a f b g, r.field? a = some f → r.field? b = some g → a ≠ b → f.Apart g)
    (hnames : (assignments.map Prod.fst).Nodup)
    (hdefined : ∀ a ∈ assignments, ∃ f, r.field? a.1 = some f) (v : UInt64) :
    ∃ w, e.store.setFields name v assignments = .ok w ∧ r.Assigned v assignments w := by
  induction assignments generalizing v with
  | nil => exact ⟨v, rfl, r.assigned_nil v⟩
  | cons a rest ih =>
    obtain ⟨field, new⟩ := a
    obtain ⟨hfresh, hnames⟩ := List.nodup_cons.1 hnames
    obtain ⟨⟨f, hf⟩, hdefined⟩ := List.forall_mem_cons.1 hdefined
    obtain ⟨w, hw, hassigned⟩ := ih hnames hdefined (f.insert v new)
    refine ⟨w, ?_, hassigned.cons hf ?_⟩
    · rw [Store.setFields, List.foldlM_cons, setField_of_get? hr hf]
      exact hw
    · intro b hb g hg
      apply hapart field f b.1 g hf hg
      rintro rfl
      exact hfresh (List.mem_map.2 ⟨b, hb, rfl⟩)

def filled : Register :=
  ⟨"FILLED", .msr 0x10, .qword, "",
    .ofList [("BODY", ⟨0, 40, ""⟩), ("REST", ⟨40, 23, ""⟩), ("TOP", ⟨63, 1, ""⟩)]⟩

def wrapped : Register :=
  ⟨"WRAPPED", .msr 0x3A, .qword, "", .ofList [("F", ⟨0xFFFFFFFF, 2, ""⟩)]⟩

end Engine

end Lockdown

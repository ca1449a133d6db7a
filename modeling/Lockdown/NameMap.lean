/-!
Finite maps from names, kept as lists in strictly ascending order of name. The order is part of
the type, so two maps with the same content are equal and printing one needs no sort.
-/
namespace Lockdown

namespace Entries

variable {α : Type}

def insert (k : String) (v : α) : List (String × α) → List (String × α)
  | [] => [(k, v)]
  | (k', v') :: rest =>
    if k < k' then (k, v) :: (k', v') :: rest
    else if k = k' then (k, v) :: rest
    else (k', v') :: insert k v rest

def find? (k : String) : List (String × α) → Option α
  | [] => none
  | (k', v) :: rest => if k = k' then some v else find? k rest

theorem mem_insert {k : String} {v : α} {e : String × α} {l : List (String × α)}
    (h : e ∈ insert k v l) : e = (k, v) ∨ e ∈ l := by
  induction l with
  | nil => simpa [insert] using h
  | cons x rest ih =>
    unfold insert at h
    split at h
    · grind
    · split at h <;> grind

theorem pairwise_insert (k : String) (v : α) {l : List (String × α)}
    (h : l.Pairwise (·.1 < ·.1)) : (insert k v l).Pairwise (·.1 < ·.1) := by
  induction l with
  | nil => simp [insert]
  | cons x rest ih =>
    obtain ⟨hx, hr⟩ := List.pairwise_cons.1 h
    unfold insert
    split
    · rename_i hk
      refine List.pairwise_cons.2 ⟨fun e he => ?_, h⟩
      rcases List.mem_cons.1 he with rfl | he
      · exact hk
      · exact String.lt_trans hk (hx e he)
    · split
      · rename_i hk
        exact List.pairwise_cons.2 ⟨fun e he => by subst hk; exact hx e he, hr⟩
      · rename_i hlt hne
        refine List.pairwise_cons.2 ⟨fun e he => ?_, ih hr⟩
        rcases mem_insert he with rfl | he
        · rcases Classical.em (x.1 < k) with h' | h'
          · exact h'
          · exact absurd (String.le_antisymm (String.not_lt.1 h') (String.not_lt.1 hlt)) hne
        · exact hx e he

theorem find?_insert (k k' : String) (v : α) (l : List (String × α)) :
    find? k' (insert k v l) = if k' = k then some v else find? k' l := by
  induction l with
  | nil => simp [insert, find?]
  | cons x rest ih =>
    unfold insert
    split
    · simp [find?]
    · split
      · rename_i h
        by_cases hk : k' = x.1 <;> simp [find?, h, hk]
      · rename_i hne
        by_cases hx : k' = x.1
        · simp [find?, hx, Ne.symm hne]
        · simp [find?, hx, ih]

theorem find?_isSome_iff {k : String} {l : List (String × α)} :
    (find? k l).isSome ↔ k ∈ l.map (·.1) := by
  induction l with
  | nil => simp [find?]
  | cons x rest ih => by_cases h : k = x.1 <;> simp [find?, h, ih]

end Entries

structure NameMap (α : Type) where
  toList : List (String × α)
  ascending : toList.Pairwise (·.1 < ·.1)

namespace NameMap

variable {α β : Type}

@[ext] theorem ext {a b : NameMap α} (h : a.toList = b.toList) : a = b := by
  cases a; cases b; cases h; rfl

instance [DecidableEq α] : DecidableEq (NameMap α) := fun a b =>
  if h : a.toList = b.toList then isTrue (ext h) else isFalse fun e => h (e ▸ rfl)

instance [Repr α] : Repr (NameMap α) := ⟨fun m => reprPrec m.toList⟩

def empty : NameMap α := ⟨[], .nil⟩

instance : EmptyCollection (NameMap α) := ⟨empty⟩
instance : Inhabited (NameMap α) := ⟨empty⟩

def insert (m : NameMap α) (k : String) (v : α) : NameMap α :=
  ⟨Entries.insert k v m.toList, Entries.pairwise_insert k v m.ascending⟩

def get? (m : NameMap α) (k : String) : Option α := Entries.find? k m.toList

def contains (m : NameMap α) (k : String) : Bool := (m.get? k).isSome

def names (m : NameMap α) : List String := m.toList.map (·.1)

def values (m : NameMap α) : List α := m.toList.map (·.2)

def size (m : NameMap α) : Nat := m.toList.length

def ofList (l : List (String × α)) : NameMap α := l.foldl (fun m e => m.insert e.1 e.2) ∅

def alter (m : NameMap α) (k : String) (f : Option α → α) : NameMap α := m.insert k (f (m.get? k))

@[simp] theorem get?_empty (k : String) : (∅ : NameMap α).get? k = none := rfl

@[grind =] theorem get?_insert (m : NameMap α) (k k' : String) (v : α) :
    (m.insert k v).get? k' = if k' = k then some v else m.get? k' :=
  Entries.find?_insert k k' v m.toList

theorem contains_iff {m : NameMap α} {k : String} : m.contains k = true ↔ k ∈ m.names :=
  Entries.find?_isSome_iff

theorem mem_names_of_get? {m : NameMap α} {k : String} {v : α} (h : m.get? k = some v) :
    k ∈ m.names := contains_iff.1 (by simp [contains, h])

end NameMap

end Lockdown

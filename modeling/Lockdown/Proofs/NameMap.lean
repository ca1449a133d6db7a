import Lockdown.NameMap
import Mathlib.Algebra.GroupWithZero.Nat
import Mathlib.Data.List.Nodup
import Mathlib.Data.List.Pairwise

/-! Membership and lookup agree in a map by name, and lookup determines the map: its entries are
kept in strict order, and no two lists in that order have the same entries. -/
namespace Lockdown

namespace Entries

variable {α : Type} {k : String} {v : α} {l l' : List (String × α)}

theorem mem_iff_find? (h : l.Pairwise (·.1 < ·.1)) : (k, v) ∈ l ↔ find? k l = some v := by
  induction l with
  | nil => simp [find?]
  | cons x rest ih =>
    obtain ⟨hx, hr⟩ := List.pairwise_cons.1 h
    by_cases hk : k = x.1
    · subst hk
      have hrest : (x.1, v) ∉ rest := fun he => String.lt_irrefl x.1 (hx (x.1, v) he)
      simp only [find?, ↓reduceIte, List.mem_cons, hrest, or_false, Option.some.injEq]
      exact ⟨fun he => congrArg Prod.snd he.symm, fun he => Prod.ext rfl he.symm⟩
    · have hne : (k, v) ≠ x := fun he => hk (congrArg Prod.fst he)
      simp only [find?, hk, ↓reduceIte, List.mem_cons, hne, false_or]
      exact ih hr

theorem nodup_of_ascending (h : l.Pairwise (·.1 < ·.1)) : l.Nodup := by
  refine h.imp ?_
  rintro a b hlt rfl
  exact String.lt_irrefl a.1 hlt

theorem eq_of_mem_iff (h : l.Pairwise (·.1 < ·.1)) (h' : l'.Pairwise (·.1 < ·.1))
    (he : ∀ e, e ∈ l ↔ e ∈ l') : l = l' := by
  have hp : l.Perm l' :=
    (List.perm_ext_iff_of_nodup (nodup_of_ascending h) (nodup_of_ascending h')).2 he
  exact List.Perm.eq_of_pairwise (fun a b _ _ hab hba => absurd hab (String.lt_asymm hba)) h h' hp

theorem sum_insert {l : List (String × Nat)} (h : l.Pairwise (·.1 < ·.1)) (n : Nat) :
    ((insert k n l).map (·.2)).sum + (find? k l).getD 0 = (l.map (·.2)).sum + n := by
  induction l with
  | nil => simp [insert, find?]
  | cons x rest ih =>
    obtain ⟨hx, hrest⟩ := List.pairwise_cons.1 h
    unfold insert find?
    by_cases hk : k = x.1
    · rw [if_neg (hk ▸ String.lt_irrefl k), if_pos hk, if_pos hk]
      simp only [List.map_cons, List.sum_cons, Option.getD_some]
      omega
    · rw [if_neg hk, if_neg hk]
      by_cases hlt : k < x.1
      · have hnone : find? k rest = none := Option.not_isSome_iff_eq_none.1 fun hsome => by
          obtain ⟨e, he, rfl⟩ := List.mem_map.1 (find?_isSome_iff.1 hsome)
          exact String.lt_asymm hlt (hx e he)
        rw [if_pos hlt, hnone]
        simp only [List.map_cons, List.sum_cons, Option.getD_none]
        omega
      · have hih := ih hrest
        rw [if_neg hlt]
        simp only [List.map_cons, List.sum_cons]
        omega

/-- An entry after all others goes to the end. -/
theorem insert_last (h : ∀ e ∈ l, e.1 < k) : insert k v l = l ++ [(k, v)] := by
  induction l with
  | nil => rfl
  | cons x rest ih =>
    obtain ⟨hx, hrest⟩ := List.forall_mem_cons.1 h
    have hne : k ≠ x.1 := fun he => String.lt_irrefl k (he ▸ hx)
    rw [insert, if_neg (String.lt_asymm hx), if_neg hne, ih hrest, List.cons_append]

end Entries

namespace NameMap

variable {α : Type} {m m' : NameMap α} {k : String} {v : α}

theorem mem_toList_iff : (k, v) ∈ m.toList ↔ m.get? k = some v := Entries.mem_iff_find? m.ascending

theorem ext_get? (h : ∀ k, m.get? k = m'.get? k) : m = m' := by
  apply ext
  apply Entries.eq_of_mem_iff m.ascending m'.ascending
  rintro ⟨k, v⟩
  rw [mem_toList_iff, mem_toList_iff, h]

theorem mem_names_iff : k ∈ m.names ↔ ∃ v, m.get? k = some v := by
  rw [← contains_iff, contains, Option.isSome_iff_exists]

theorem mem_values_iff : v ∈ m.values ↔ ∃ k, m.get? k = some v := by
  simp only [values, List.mem_map, Prod.exists, exists_eq_right, mem_toList_iff]

theorem toList_foldl_insert {l : List (String × α)} (h : (m.toList ++ l).Pairwise (·.1 < ·.1)) :
    (l.foldl (fun m e => m.insert e.1 e.2) m).toList = m.toList ++ l := by
  induction l generalizing m with
  | nil => rw [List.foldl_nil, List.append_nil]
  | cons e rest ih =>
    have hlast : (m.insert e.1 e.2).toList = m.toList ++ [e] := by
      obtain ⟨-, -, hacross⟩ := List.pairwise_append.1 h
      exact Entries.insert_last fun x hx => hacross x hx e List.mem_cons_self
    have happend : m.toList ++ e :: rest = (m.insert e.1 e.2).toList ++ rest := by
      rw [hlast, List.append_assoc, List.singleton_append]
    rw [List.foldl_cons, happend, ih (happend ▸ h)]

theorem get?_alter (m : NameMap α) (k k' : String) (f : Option α → α) :
    (m.alter k f).get? k' = if k' = k then some (f (m.get? k)) else m.get? k' :=
  get?_insert m k k' _

theorem sum_values_insert (m : NameMap Nat) (k : String) (n : Nat) :
    (m.insert k n).values.sum + (m.get? k).getD 0 = m.values.sum + n :=
  Entries.sum_insert m.ascending n

theorem ofList_toList (m : NameMap α) : ofList m.toList = m :=
  ext (toList_foldl_insert m.ascending)

theorem insert_comm (m : NameMap α) {k k' : String} (h : k ≠ k') (v v' : α) :
    (m.insert k v).insert k' v' = (m.insert k' v').insert k v := by
  apply ext_get?
  intro key
  rw [get?_insert, get?_insert, get?_insert, get?_insert]
  by_cases hk : key = k
  · subst hk
    rw [if_neg h, if_pos rfl, if_pos rfl]
  · rw [if_neg hk, if_neg hk]

theorem ofList_perm {l l' : List (String × α)} (h : l.Perm l') (hnames : (l.map (·.1)).Nodup) :
    ofList l = ofList l' := by
  refine h.foldl_eq' ?_ _
  intro x hx y hy m
  by_cases hxy : x.1 = y.1
  · rw [List.inj_on_of_nodup_map hnames hx hy hxy]
  · exact insert_comm m hxy x.2 y.2

theorem names_ascending (m : NameMap α) : m.names.Pairwise (· < ·) :=
  List.pairwise_map.2 m.ascending

end NameMap

end Lockdown

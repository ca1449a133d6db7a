import Lockdown.Store
import Lockdown.Proofs.NameMap

/-! What a list of layers defines. The last layer that has a name decides it; inside one layer a
name may stand only once, so there is nothing left to choose there. -/
namespace Lockdown

/-- The definition of a name in the last layer that has one. -/
def effective (layers : List (List Register)) (name : String) : Option Register :=
  layers.reverse.findSome? fun layer => layer.find? (·.name = name)

variable {layers : List (List Register)} {layer : List Register} {name : String} {r : Register}

theorem effective_cons (layer : List Register) (layers : List (List Register)) (name : String) :
    effective (layer :: layers) name =
      (effective layers name).or (layer.find? (·.name = name)) := by
  simp [effective, List.findSome?_append]

theorem mem_of_effective (h : effective layers name = some r) : ∃ layer ∈ layers, r ∈ layer := by
  obtain ⟨layer, hl, hf⟩ := List.exists_of_findSome?_eq_some h
  exact ⟨layer, by simpa using hl, List.mem_of_find?_eq_some hf⟩

theorem name_of_effective (h : effective layers name = some r) : r.name = name := by
  obtain ⟨layer, -, hf⟩ := List.exists_of_findSome?_eq_some h
  simpa using List.find?_some hf

theorem exists_effective_iff :
    (∃ r, effective layers name = some r) ↔ ∃ layer ∈ layers, ∃ r ∈ layer, r.name = name := by
  rw [← Option.isSome_iff_exists]
  simp [effective, List.find?_isSome]

theorem firstRepeat_eq_none_iff (seen names : List String) :
    Table.firstRepeat seen names = none ↔ names.Nodup ∧ ∀ n ∈ names, n ∉ seen := by
  induction names generalizing seen with
  | nil => simp [Table.firstRepeat]
  | cons n rest ih =>
    by_cases hn : n ∈ seen
    · simp [Table.firstRepeat, hn]
    · simp only [Table.firstRepeat, hn, ↓reduceIte, ih, List.mem_cons, not_or, List.nodup_cons,
        forall_eq_or_imp, not_false_eq_true, true_and]
      constructor
      · rintro ⟨hnd, hrest⟩
        exact ⟨⟨fun hm => (hrest n hm).1 rfl, hnd⟩, fun m hm => (hrest m hm).2⟩
      · rintro ⟨⟨hm, hnd⟩, hrest⟩
        exact ⟨hnd, fun m hmem => ⟨fun he => hm (he ▸ hmem), hrest m hmem⟩⟩

theorem checkLayer_eq_ok_iff (chipset : String) (layer : List Register) :
    Store.checkLayer chipset layer = .ok () ↔ (layer.map (·.name)).Nodup := by
  have hfirst := firstRepeat_eq_none_iff [] (layer.map (·.name))
  unfold Store.checkLayer
  cases h : Table.firstRepeat [] (layer.map (·.name)) <;> simp_all

private theorem get?_layer (h : (layer.map (·.name)).Nodup) (t : Table) (name : String) :
    (layer.foldl (fun t r => t.insert r.name r) t).get? name =
      (layer.find? (·.name = name)).or (t.get? name) := by
  induction layer generalizing t with
  | nil => simp
  | cons r rest ih =>
    rw [List.map_cons, List.nodup_cons] at h
    rw [List.foldl_cons, ih h.2, NameMap.get?_insert]
    by_cases hn : r.name = name
    · have hrest : rest.find? (·.name = name) = none := by
        rw [List.find?_eq_none]
        intro q hq hname
        exact h.1 (List.mem_map.2 ⟨q, hq, by simpa [hn] using hname⟩)
      simp [hn, hrest]
    · simp [hn, Ne.symm hn]

private theorem get?_layers (h : ∀ layer ∈ layers, (layer.map (·.name)).Nodup) (t : Table)
    (name : String) :
    (layers.flatten.foldl (fun t r => t.insert r.name r) t).get? name =
      (effective layers name).or (t.get? name) := by
  induction layers generalizing t with
  | nil => simp [effective]
  | cons layer rest ih =>
    obtain ⟨hl, hr⟩ := List.forall_mem_cons.1 h
    rw [List.flatten_cons, List.foldl_append, ih hr, get?_layer hl, effective_cons, Option.or_assoc]

theorem get?_ofLayers (h : ∀ layer ∈ layers, (layer.map (·.name)).Nodup) (name : String) :
    (Table.ofLayers layers).get? name = effective layers name := by
  simp [Table.ofLayers, get?_layers h]

end Lockdown

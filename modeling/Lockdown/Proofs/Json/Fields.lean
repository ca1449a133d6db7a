import Lockdown.Json.Decode
import Lockdown.Proofs.Sequence
import Mathlib.Data.List.Nodup

/-! What a record is read from, where its members are in another order, where it has members that
it does not know, and where one value stands in place of another. -/
namespace Lockdown.Json

namespace Fields

variable {R : String → Json → Json → Prop} {fs fs' : Fields} {key : String} {v v' : Json}

def Alike (R : String → Json → Json → Prop) (fs fs' : Fields) : Prop :=
  ∀ key, Option.Rel (R key) (fs.lookup key) (fs'.lookup key)

theorem rel_self (hrefl : ∀ key v, R key v v) (o : Option Json) : Option.Rel (R key) o o := by
  cases o with
  | none => exact .none
  | some v => exact .some (hrefl key v)

theorem lookup_eq_some_iff_mem (h : (fs.map (·.1)).Nodup) :
    fs.lookup key = some v ↔ (key, v) ∈ fs := by
  rw [List.lookup_eq_some_iff]
  constructor
  · rintro ⟨before, after, rfl, -⟩
    simp
  · intro hmem
    obtain ⟨before, after, rfl⟩ := List.append_of_mem hmem
    refine ⟨before, after, rfl, fun p hp => ?_⟩
    rw [List.map_append, List.map_cons, List.nodup_middle, List.nodup_cons, List.mem_append] at h
    rw [bne_iff_ne]
    rintro rfl
    exact h.1 (.inl (List.mem_map.2 ⟨p, hp, rfl⟩))

theorem Alike.of_perm (hrefl : ∀ key v, R key v v) (hperm : fs.Perm fs')
    (h : (fs.map (·.1)).Nodup) : Alike R fs fs' := by
  intro key
  have hlookup : fs'.lookup key = fs.lookup key := by
    have h' : (fs'.map (·.1)).Nodup := (hperm.map _).nodup_iff.1 h
    apply Option.ext
    intro v
    rw [lookup_eq_some_iff_mem h', lookup_eq_some_iff_mem h, hperm.mem_iff]
  rw [hlookup]
  exact rel_self hrefl _

theorem Alike.of_middle (hrefl : ∀ key v, R key v v) (hv : R key v v') (before after : Fields) :
    Alike R (before ++ (key, v) :: after) (before ++ (key, v') :: after) := by
  intro k
  rw [List.lookup_append, List.lookup_append, List.lookup_cons, List.lookup_cons]
  cases before.lookup k with
  | some w => exact rel_self hrefl _
  | none =>
    by_cases hk : k = key
    · subst hk
      rw [beq_self_eq_true]
      exact .some hv
    · rw [beq_eq_false_iff_ne.2 hk]
      exact rel_self hrefl _

theorem need?_eq {α : Type} {f : Json → Option α} (h : Alike R fs fs')
    (hf : ∀ v v', R key v v' → f v = f v') : fs.need? key f = fs'.need? key f :=
  bind_eq_of_rel (h key) fun v v' _ => hf v v'

theorem orElse?_eq {α : Type} {f : Json → Option α} (h : Alike R fs fs')
    (hf : ∀ v v', R key v v' → f v = f v') (default : α) :
    fs.orElse? key default f = fs'.orElse? key default f := by
  have hkey := h key
  unfold orElse?
  generalize fs.lookup key = o at hkey ⊢
  generalize fs'.lookup key = o' at hkey ⊢
  cases hkey with
  | none => rfl
  | some hv => exact hf _ _ hv

end Fields

open Fields (Alike)

variable {R : String → Json → Json → Prop} {keys : List String} {key : String} {k : Text}
  {v v' : Json} {members members' before after : List (Text × Json)}

theorem known?_perm (hrefl : ∀ key v, R key v v) {fs fs' : Fields} (h : fs.Perm fs') :
    Option.Rel (Alike R) (known? keys fs) (known? keys fs') := by
  have hfilter := h.filter fun m : String × Json => keys.contains m.1
  have hnodup := (hfilter.map (·.1)).nodup_iff
  unfold known?
  dsimp only
  split
  · rename_i hdistinct
    rw [if_pos (hnodup.1 hdistinct)]
    exact .some (.of_perm hrefl hfilter hdistinct)
  · rename_i hdistinct
    rw [if_neg (mt hnodup.2 hdistinct)]
    exact .none

theorem fields?_of_perm (hrefl : ∀ key v, R key v v) (h : members.Perm members') :
    Option.Rel (Alike R) (fields? keys (.object members)) (fields? keys (.object members')) := by
  have hkeyed : Option.Rel List.Perm (keyed? members) (keyed? members') := rel_mapM_of_perm _ h
  change Option.Rel _ ((keyed? members).bind _) ((keyed? members').bind _)
  generalize keyed? members = o at hkeyed ⊢
  generalize keyed? members' = o' at hkeyed ⊢
  cases hkeyed with
  | none => exact .none
  | some hperm => exact known?_perm hrefl hperm

theorem keyed?_middle (before after : List (Text × Json)) (k : Text) (v : Json) :
    keyed? (before ++ (k, v) :: after) = (keyed? before).bind fun fs =>
      k.bind fun key => (keyed? after).bind fun fs' => some (fs ++ (key, v) :: fs') := by
  unfold keyed?
  rw [List.mapM_append, List.mapM_cons]
  cases k <;> simp [Option.bind_assoc]

theorem known?_unknown (h : key ∉ keys) (fs fs' : Fields) (v : Json) :
    known? keys (fs ++ (key, v) :: fs') = known? keys (fs ++ fs') := by
  have hcontains : keys.contains key = false := by simpa using h
  simp [known?, h]

theorem fields?_unknown (h : key ∉ keys) (before after : List (Text × Json)) (v : Json) :
    fields? keys (.object (before ++ (some key, v) :: after)) =
      fields? keys (.object (before ++ after)) := by
  have hkeyed : keyed? (before ++ after) = (keyed? before).bind fun fs =>
      (keyed? after).bind fun fs' => some (fs ++ fs') := List.mapM_append
  change (keyed? _).bind _ = (keyed? _).bind _
  rw [keyed?_middle, hkeyed]
  cases keyed? before with
  | none => rfl
  | some fs =>
    cases keyed? after with
    | none => rfl
    | some fs' => exact known?_unknown h fs fs' v

theorem known?_middle (hrefl : ∀ key v, R key v v) (hv : key ∈ keys → R key v v')
    (fs fs' : Fields) :
    Option.Rel (Alike R) (known? keys (fs ++ (key, v) :: fs'))
      (known? keys (fs ++ (key, v') :: fs')) := by
  by_cases hkey : key ∈ keys
  · have hfilter : ∀ v, (fs ++ (key, v) :: fs').filter (fun m => keys.contains m.1) =
        fs.filter (fun m => keys.contains m.1) ++ (key, v) ::
          fs'.filter (fun m => keys.contains m.1) := by
      intro v
      simp [hkey]
    unfold known?
    dsimp only
    rw [hfilter, hfilter]
    simp only [List.map_append, List.map_cons]
    split
    · exact .some (.of_middle hrefl (hv hkey) _ _)
    · exact .none
  · rw [known?_unknown hkey, known?_unknown hkey]
    exact known?_perm hrefl (.refl _)

theorem fields?_member (hrefl : ∀ key v, R key v v)
    (hv : ∀ key ∈ keys, k = some key → R key v v') (before after : List (Text × Json)) :
    Option.Rel (Alike R) (fields? keys (.object (before ++ (k, v) :: after)))
      (fields? keys (.object (before ++ (k, v') :: after))) := by
  change Option.Rel _ ((keyed? _).bind _) ((keyed? _).bind _)
  rw [keyed?_middle, keyed?_middle]
  cases keyed? before with
  | none => exact .none
  | some fs =>
    cases k with
    | none => exact .none
    | some key =>
      cases keyed? after with
      | none => exact .none
      | some fs' => exact known?_middle hrefl (fun hkey => hv key hkey rfl) fs fs'

theorem fields?_item (hrefl : ∀ key v, R key v v) {before after : List Json}
    (hv : ∀ key, keys[before.length]? = some key → R key v v') :
    Option.Rel (Alike R) (fields? keys (.array (before ++ v :: after)))
      (fields? keys (.array (before ++ v' :: after))) := by
  unfold fields?
  simp only [List.length_append, List.length_cons]
  split
  · rename_i hlength
    have hindex : before.length < keys.length := by omega
    have hsplit : keys = keys.take before.length ++ keys[before.length] ::
        keys.drop (before.length + 1) := by simp
    have hzip : ∀ v, keys.zip (before ++ v :: after) =
        (keys.take before.length).zip before ++ (keys[before.length], v) ::
          (keys.drop (before.length + 1)).zip after := by
      intro v
      have hfront : (keys.take before.length).length = before.length := by
        simp [Nat.le_of_lt hindex]
      rw [← List.zip_cons_cons, ← List.zip_append hfront, ← hsplit]
    rw [hzip, hzip]
    exact .some (.of_middle hrefl (hv _ (List.getElem?_eq_getElem hindex)) _ _)
  · exact .none

theorem keys_of_keyed? {fs : Fields} (h : keyed? members = some fs) :
    members.map (·.1) = fs.map fun m => some m.1 := by
  rw [keyed?, mapM_eq_some_iff] at h
  induction h with
  | nil => rfl
  | @cons m f ms fs hm _ ih =>
    obtain ⟨key, hkey, rfl⟩ := Option.map_eq_some_iff.1 hm
    rw [List.map_cons, List.map_cons, ih, hkey]

theorem mem_of_keyed? {fs : Fields} (h : keyed? members = some fs) (hm : (k, v) ∈ members) :
    ∃ key, k = some key ∧ (key, v) ∈ fs := by
  obtain ⟨f, hf, hkey⟩ := exists_mem_of_mapM h hm
  obtain ⟨key, rfl, rfl⟩ := Option.map_eq_some_iff.1 hkey
  exact ⟨key, rfl, hf⟩

theorem lookup_of_fields?_object {fs : Fields} (h : fields? keys (.object members) = some fs)
    (hkey : key ∈ keys) (hm : (some key, v) ∈ members) : fs.lookup key = some v := by
  obtain ⟨all, hkeyed, hknown⟩ := Option.bind_eq_some_iff.1 h
  obtain ⟨_, ⟨⟩, hall⟩ := mem_of_keyed? hkeyed hm
  unfold known? at hknown
  dsimp only at hknown
  split at hknown
  · rename_i hdistinct
    obtain rfl := Option.some.inj hknown
    rw [Fields.lookup_eq_some_iff_mem hdistinct, List.mem_filter]
    exact ⟨hall, List.contains_iff_mem.2 hkey⟩
  · cases hknown

theorem zip_keys_sublist (keys : List String) (items : List Json) :
    ((keys.zip items).map (·.1)).Sublist keys := by
  induction keys generalizing items with
  | nil => exact .slnil
  | cons key keys ih =>
    cases items with
    | nil => exact List.nil_sublist _
    | cons x items => exact (ih items).cons_cons key

theorem lookup_of_fields?_array {fs : Fields} {items : List Json} {i : Nat}
    (h : fields? keys (.array items) = some fs) (hkeys : keys.Nodup) (hkey : keys[i]? = some key)
    (hv : items[i]? = some v) : fs.lookup key = some v := by
  simp only [fields?] at h
  split at h
  · obtain rfl := Option.some.inj h
    rw [Fields.lookup_eq_some_iff_mem (hkeys.sublist (zip_keys_sublist keys items))]
    exact List.mem_of_getElem? (List.getElem?_zip_eq_some.2 ⟨hkey, hv⟩)
  · cases h

/-- Two members are under this key. -/
def Repeats (key : String) (members : List (Text × Json)) : Prop :=
  [some key, some key].Sublist (members.map (·.1))

theorem Repeats.filter (h : Repeats key members) {p : Text → Bool} (hp : p (some key) = true) :
    Repeats key (members.filter fun m => p m.1) := by
  have htwice := List.Sublist.filter p h
  rw [List.filter_map, List.filter_cons_of_pos hp, List.filter_cons_of_pos hp] at htwice
  exact htwice

theorem fields?_of_repeats (h : Repeats key members) (hkey : key ∈ keys) :
    fields? keys (.object members) = none := by
  rw [Option.eq_none_iff_forall_ne_some]
  intro fs hfs
  obtain ⟨all, hkeyed, hknown⟩ := Option.bind_eq_some_iff.1 hfs
  rw [Repeats, keys_of_keyed? hkeyed] at h
  have htwice : [key, key].Sublist ((all.map (·.1)).filter keys.contains) := by
    have hsome := (h.filterMap id).filter keys.contains
    simpa [List.filterMap_map, hkey] using hsome
  rw [List.filter_map] at htwice
  unfold known? at hknown
  dsimp only at hknown
  split at hknown
  · rename_i hdistinct
    exact List.nodup_iff_sublist.1 hdistinct key htwice
  · cases hknown

end Lockdown.Json

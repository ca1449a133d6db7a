import Lockdown.Proofs.Register.Steady

/-! What a definition that is read consists of: every value inside it is accepted as what it is read
as, and no record that is accepted has a known key twice. -/
namespace Lockdown

open Json (Fields)

namespace Schema

variable {schema : Schema} {j : Json} {keys : List String} {α : Type}

/-- A reader of such values finds what it looks for. -/
def Accepts : Schema → Json → Prop
  | .definition, j => ∃ outer, (Register.ofJson? outer j).isSome
  | .place, j => ∃ outer, (Location.ofJson? outer j).isSome
  | .payload tag, j => (Location.ofTagged? tag j).isSome
  | .base, j => (BaseAddress.ofJson? j).isSome
  | .fields, j => (Register.fieldsOfJson? j).isSome
  | .field, j => (Field.ofJson? j).isSome
  | .other, _ => True

theorem exists_of_isSome_bind {β : Type} {o : Option β} {g : β → Option α}
    (h : (o.bind g).isSome = true) : ∃ b, o = some b ∧ (g b).isSome = true := by
  cases o with
  | none => cases h
  | some b => exact ⟨b, rfl, h⟩

theorem named_other {key : String} (h : key ∉ ["class", "base", "fields"]) :
    named key = .other := by
  unfold named
  split <;> simp_all

def ReadsFields (keys : List String) (j : Json) : Prop :=
  ∃ fs, Json.fields? keys j = some fs ∧
    ∀ key ∈ keys, ∀ v, fs.lookup key = some v → (named key).Accepts v

theorem readsFields_plain (hplain : ∀ key ∈ keys, key ∉ ["class", "base", "fields"])
    {g : Fields → Option α} (h : ((Json.fields? keys j).bind g).isSome = true) :
    ReadsFields keys j := by
  obtain ⟨fs, hfs, -⟩ := exists_of_isSome_bind h
  refine ⟨fs, hfs, fun key hkey v _ => ?_⟩
  rw [named_other (hplain key hkey)]
  trivial

theorem readsFields_definition {outer : Nat} (h : (Register.ofJson? outer j).isSome = true) :
    ReadsFields ["name", "class", "width", "desc", "fields"] j := by
  obtain ⟨d, hd⟩ := Option.isSome_iff_exists.1 h
  simp only [Register.ofJson?, Option.bind_eq_bind, Option.bind_eq_some_iff] at hd
  obtain ⟨fs, hfs, _, -, place, hplace, _, -, _, -, map, hmap, -⟩ := hd
  refine ⟨fs, hfs, fun key hkey v hv => ?_⟩
  simp only [List.mem_cons, List.not_mem_nil, or_false] at hkey
  rcases hkey with rfl | rfl | rfl | rfl | rfl
  · trivial
  · rw [Fields.need?, hv] at hplace
    exact ⟨outer + 1, Option.isSome_iff_exists.2 ⟨place, hplace⟩⟩
  · trivial
  · trivial
  · rw [Fields.orElse?, hv] at hmap
    exact Option.isSome_iff_exists.2 ⟨map, hmap⟩

theorem readsFields_mmio (h : (Location.ofTagged? "mmio" j).isSome = true) :
    ReadsFields ["base", "offset"] j := by
  obtain ⟨place, hplace⟩ := Option.isSome_iff_exists.1 h
  change ((Json.fields? ["base", "offset"] j).bind _) = _ at hplace
  simp only [Option.bind_eq_bind, Option.bind_eq_some_iff] at hplace
  obtain ⟨fs, hfs, base, hbase, -⟩ := hplace
  refine ⟨fs, hfs, fun key hkey v hv => ?_⟩
  simp only [List.mem_cons, List.not_mem_nil, or_false] at hkey
  rcases hkey with rfl | rfl
  · rw [Fields.need?, hv] at hbase
    exact Option.isSome_iff_exists.2 ⟨base, hbase⟩
  · trivial

theorem readsFields_payload {tag : String} (h : (Location.ofTagged? tag j).isSome = true) :
    ReadsFields (Location.keysOf tag) j := by
  have hcopy := h
  unfold Location.ofTagged? at h
  split_ifs at h with hpci hmmio hmemory hmsr hio hcsr
  · subst hpci
    exact readsFields_plain (by decide) h
  · subst hmmio
    exact readsFields_mmio hcopy
  · subst hmemory
    exact readsFields_plain (by decide) h
  · subst hmsr
    exact readsFields_plain (by decide) h
  · subst hio
    exact readsFields_plain (by decide) h
  · subst hcsr
    exact readsFields_plain (by decide) h
  · cases h

theorem Accepts.readsFields (h : schema.Accepts j) (hkeys : ∀ j, schema.keys? j = some keys) :
    ReadsFields keys j := by
  have hnull := hkeys .null
  cases schema with
  | definition =>
    obtain rfl := Option.some.inj hnull
    obtain ⟨outer, h⟩ := h
    exact readsFields_definition h
  | payload tag =>
    obtain rfl := Option.some.inj hnull
    exact readsFields_payload h
  | base =>
    obtain rfl := Option.some.inj hnull
    exact readsFields_plain (by decide) h
  | field =>
    obtain rfl := Option.some.inj hnull
    exact readsFields_plain (by decide) h
  | place | fields | other => cases hnull

theorem Accepts.payload (h : Accepts .place j) :
    ∃ tag rest, Location.splitTag? j = some (tag, rest) ∧ Accepts (.payload tag) rest := by
  obtain ⟨outer, h⟩ := h
  unfold Location.ofJson? at h
  split at h
  · obtain ⟨⟨tag, rest⟩, hsplit, hrest⟩ := exists_of_isSome_bind h
    exact ⟨tag, rest, hsplit, hrest⟩
  · cases h

variable {members : List (Json.Text × Json)} {k : Json.Text} {v : Json}

theorem nodup_keys (hkeys : ∀ j, schema.keys? j = some keys) : keys.Nodup := by
  have hnull := hkeys .null
  cases schema with
  | definition | base | field =>
    obtain rfl := Option.some.inj hnull
    decide
  | payload tag =>
    obtain rfl := Option.some.inj hnull
    unfold Location.keysOf
    split_ifs <;> decide
  | place | fields | other => cases hnull

theorem Accepts.member_of_record (h : schema.Accepts (.object members))
    (hkeys : ∀ j, schema.keys? j = some keys) (hm : (k, v) ∈ members) :
    (schema.member (.object members) k).Accepts v := by
  obtain ⟨fs, hfs, hread⟩ := h.readsFields hkeys
  cases k with
  | none => trivial
  | some key =>
    rw [Schema.member_of_record hkeys]
    split
    · rename_i hkey
      exact hread key hkey v (Json.lookup_of_fields?_object hfs hkey hm)
    · trivial

theorem Accepts.item_of_record {items : List Json} {i : Nat} (h : schema.Accepts (.array items))
    (hkeys : ∀ j, schema.keys? j = some keys) (hv : items[i]? = some v) :
    (schema.item (.array items) i).Accepts v := by
  obtain ⟨fs, hfs, hread⟩ := h.readsFields hkeys
  rw [Schema.item_of_record hkeys]
  cases hkey : keys[i]? with
  | none => trivial
  | some key =>
    exact hread key (List.mem_of_getElem? hkey) v
      (Json.lookup_of_fields?_array hfs (nodup_keys hkeys) hkey hv)

theorem member_tag (whole : Json) : member .place whole (some "type") = .other := by
  simp only [member, reduceCtorEq, if_false]
  split <;> rfl

theorem item_tag (x : Json) (items : List Json) : item .place (.array (x :: items)) 0 = .other := by
  rw [item, keys?, splitTag?_array]
  cases x.string? <;> rfl

theorem member_other (whole : Json) (k : Json.Text) : member .other whole k = .other := by
  cases k <;> rfl

/-- What is inside a value that is accepted is accepted as what it is read as. -/
theorem Accepts.member (h : schema.Accepts (.object members)) (hm : (k, v) ∈ members) :
    (schema.member (.object members) k).Accepts v := by
  cases schema with
  | definition | payload tag | base | field => exact h.member_of_record (fun _ => rfl) hm
  | place =>
    obtain ⟨tag, rest, hsplit, hrest⟩ := h.payload
    by_cases hk : k = some "type"
    · rw [hk, member_tag]
      trivial
    · rw [member_payload hsplit hk rest]
      rw [splitTag?_object] at hsplit
      obtain ⟨_, -, heq⟩ := Option.map_eq_some_iff.1 hsplit
      obtain ⟨rfl, rfl⟩ := Prod.mk.inj heq
      exact hrest.member_of_record (fun _ => rfl) (List.mem_filter.2 ⟨hm, by simp [hk]⟩)
  | fields =>
    obtain ⟨fs, hkeyed, hmap⟩ := exists_of_isSome_bind h
    obtain ⟨key, rfl, hentry⟩ := Json.mem_of_keyed? hkeyed hm
    obtain ⟨entries, hentries, -⟩ := exists_of_isSome_bind hmap
    obtain ⟨e, -, he⟩ := exists_mem_of_mapM hentries hentry
    obtain ⟨field, hfield, -⟩ := Option.map_eq_some_iff.1 he
    exact Option.isSome_iff_exists.2 ⟨field, hfield⟩
  | other =>
    rw [member_other]
    trivial

theorem Accepts.item {items : List Json} {i : Nat} (h : schema.Accepts (.array items))
    (hv : items[i]? = some v) : (schema.item (.array items) i).Accepts v := by
  cases schema with
  | definition | payload tag | base | field => exact h.item_of_record (fun _ => rfl) hv
  | place =>
    obtain ⟨tag, rest, hsplit, hrest⟩ := h.payload
    cases items with
    | nil => cases hv
    | cons x items =>
      cases i with
      | zero =>
        rw [item_tag]
        trivial
      | succ i =>
        rw [item_payload hsplit i rest]
        rw [splitTag?_array] at hsplit
        obtain ⟨_, -, heq⟩ := Option.map_eq_some_iff.1 hsplit
        obtain ⟨rfl, rfl⟩ := Prod.mk.inj heq
        exact hrest.item_of_record (fun _ => rfl) hv
  | fields => cases h
  | other => trivial

theorem Within.accepts {inner : Schema} {x : Json} (h : Within schema j inner x)
    (hj : schema.Accepts j) : inner.Accepts x := by
  induction h with
  | self => exact hj
  | member mem _ ih => exact ih (hj.member mem)
  | item at_ _ ih => exact ih (hj.item at_)

theorem not_accepts_record {key : String} (hkeys : ∀ j, schema.keys? j = some keys)
    (hkey : key ∈ keys) (h : Json.Repeats key members) : ¬ schema.Accepts (.object members) := by
  intro haccepts
  obtain ⟨fs, hfs, -⟩ := haccepts.readsFields hkeys
  rw [Json.fields?_of_repeats h hkey] at hfs
  cases hfs

theorem not_accepts_of_repeats {key : String} (hkeys : schema.keys? (.object members) = some keys)
    (hkey : key ∈ keys) (h : Json.Repeats key members) : ¬ schema.Accepts (.object members) := by
  cases schema with
  | definition | payload tag | base | field =>
    obtain rfl := Option.some.inj hkeys
    exact not_accepts_record (fun _ => rfl) hkey h
  | place =>
    intro haccepts
    obtain ⟨tag, rest, hsplit, hrest⟩ := haccepts.payload
    rw [keys?, hsplit] at hkeys
    obtain rfl := Option.some.inj hkeys
    rw [splitTag?_object] at hsplit
    obtain ⟨_, htag, heq⟩ := Option.map_eq_some_iff.1 hsplit
    obtain ⟨rfl, rfl⟩ := Prod.mk.inj heq
    by_cases htype : key = "type"
    · subst htype
      -- The tag of a place is the text of the only member under that key.
      have htwice : Json.Repeats "type" (tags members) :=
        h.filter (p := fun k => k = some "type") (by decide)
      have hlength := htwice.length_le
      rw [List.length_map] at hlength
      have honly : (tags members).length = 1 := length_of_onlyText? htag
      rw [honly] at hlength
      exact absurd hlength (by decide)
    · have hrepeats : Json.Repeats key (untagged members) :=
        h.filter (p := fun k => k ≠ some "type") (by simp [htype])
      exact not_accepts_record (fun _ => rfl)
        ((List.mem_cons.1 hkey).resolve_left htype) hrepeats hrest
  | fields => cases hkeys
  | other => cases hkeys

end Schema

end Lockdown

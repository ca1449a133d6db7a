import Lockdown.Proofs.Json.Fields
import Lockdown.Proofs.NameMap
import Lockdown.Proofs.Register.Schema
import Mathlib.Logic.Relation

/-! Reading a definition does not see the order of the members in it, nor members that its records
do not know. Each reader of a value is steady under such changes inside that value, and a record is
as steady as the readers of its fields. -/
namespace Lockdown

open Json (Fields)
open Json.Fields (Alike need?_eq orElse?_eq)
open Relation (ReflGen ReflTransGen)

namespace Schema

variable {schema : Schema} {j j' : Json} {keys : List String} {α : Type}

def Settled (key : String) : Json → Json → Prop := ReflGen (Rearranged (named key))

theorem Settled.refl (key : String) (v : Json) : Settled key v v := ReflGen.refl

theorem member_of_record (hkeys : ∀ j, schema.keys? j = some keys) (whole : Json) (key : String) :
    schema.member whole (some key) = if key ∈ keys then named key else .other := by
  have hfields : schema ≠ .fields := by
    rintro rfl
    cases hkeys whole
  simp only [member, if_neg hfields, hkeys, Option.getD_some]

theorem item_of_record (hkeys : ∀ j, schema.keys? j = some keys) (whole : Json) (i : Nat) :
    schema.item whole i = keys[i]?.elim .other named := by
  simp only [item, hkeys, Option.getD_some]

theorem Rearranged.fields? (h : Rearranged schema j j') (hkeys : ∀ j, schema.keys? j = some keys) :
    Option.Rel (Alike Settled) (Json.fields? keys j) (Json.fields? keys j') := by
  cases h with
  | permuted _ perm => exact Json.fields?_of_perm Settled.refl perm
  | extended record unknown =>
    obtain rfl := Option.some.inj ((hkeys _).symm.trans record)
    rw [Json.ofString, Json.fields?_unknown unknown]
    exact Json.fields?_of_perm Settled.refl (.refl _)
  | member inside =>
    refine Json.fields?_member Settled.refl ?_ _ _
    rintro key hkey rfl
    rw [member_of_record hkeys, if_pos hkey] at inside
    exact .single inside
  | item inside =>
    refine Json.fields?_item Settled.refl ?_
    intro key hkey
    rw [item_of_record hkeys, hkey] at inside
    exact .single inside

/-- A reader that sees no change inside what it reads. -/
def Steady (schema : Schema) (f : Json → Option α) : Prop :=
  ∀ j j', Rearranged schema j j' → f j = f j'

theorem Steady.settled {key : String} {f : Json → Option α} (hf : Steady (named key) f) :
    ∀ v v', Settled key v v' → f v = f v' := by
  rintro v v' (_ | h)
  · rfl
  · exact hf v v' h

/-- A record is as steady as what is made of its fields. -/
theorem Steady.record (hkeys : ∀ j, schema.keys? j = some keys) {g : Fields → Option α}
    (hg : ∀ fs fs', Alike Settled fs fs' → g fs = g fs') :
    Steady schema fun j => (Json.fields? keys j).bind g :=
  fun _ _ h => bind_eq_of_rel (h.fields? hkeys) fun fs fs' _ => hg fs fs'

theorem Steady.eq_of_rearranged {f : Json → Option α} (hf : Steady schema f)
    (h : ReflTransGen (Rearranged schema) j j') : f j' = f j := by
  induction h with
  | refl => rfl
  | tail _ hstep ih => rw [← ih, hf _ _ hstep]

theorem steady_string? (schema : Schema) : Steady schema Json.string? := by
  rintro _ _ (_ | _ | _ | _) <;> rfl

theorem steady_below? (schema : Schema) (bound : Nat) : Steady schema (Json.below? bound) := by
  rintro _ _ (_ | _ | _ | _) <;> rfl

theorem Steady.map {β : Type} {f : Json → Option α} (hf : Steady schema f) (g : α → β) :
    Steady schema fun j => (f j).map g :=
  fun j j' h => congrArg (Option.map g) (hf j j' h)

theorem steady_uint16? (schema : Schema) : Steady schema Json.uint16? :=
  (steady_below? schema _).map _

theorem steady_uint32? (schema : Schema) : Steady schema Json.uint32? :=
  (steady_below? schema _).map _

theorem steady_uint64? (schema : Schema) : Steady schema Json.uint64? :=
  (steady_below? schema _).map _

theorem steady_nullable? {f : Json → Option α} (hf : Steady schema f) :
    Steady schema (Json.nullable? f) := by
  intro j j' h
  have hsame := congrArg (Option.map some) (hf j j' h)
  cases h <;> exact hsame

theorem steady_width (schema : Schema) : Steady schema AccessWidth.ofJson? :=
  fun j j' h => congrArg (Option.bind · _) (steady_below? schema _ j j' h)

theorem steady_field : Steady .field Field.ofJson? := by
  refine Steady.record (fun _ => rfl) fun fs fs' h => ?_
  rw [need?_eq h (steady_uint32? _).settled, need?_eq h (steady_uint32? _).settled,
    orElse?_eq h (steady_string? _).settled]

theorem steady_base : Steady .base BaseAddress.ofJson? := by
  refine Steady.record (fun _ => rfl) fun fs fs' h => ?_
  rw [need?_eq h (steady_string? _).settled,
    orElse?_eq h (steady_nullable? (steady_string? _)).settled,
    orElse?_eq h (steady_nullable? (steady_string? _)).settled]

theorem steady_payload (tag : String) : Steady (.payload tag) (Location.ofTagged? tag) := by
  unfold Location.ofTagged?
  split_ifs with hpci hmmio hmemory hmsr hio hcsr
  · subst hpci
    refine Steady.record (fun _ => rfl) fun fs fs' h => ?_
    simp only [PciLocation.ofFields?, need?_eq h (steady_uint32? _).settled]
  · subst hmmio
    have hbase : Steady (named "base") BaseAddress.ofJson? := steady_base
    refine Steady.record (fun _ => rfl) fun fs fs' h => ?_
    rw [need?_eq h hbase.settled,
      need?_eq h (steady_uint64? _).settled]
  · subst hmemory
    refine Steady.record (fun _ => rfl) fun fs fs' h => ?_
    rw [need?_eq h (steady_uint64? _).settled]
  · subst hmsr
    refine Steady.record (fun _ => rfl) fun fs fs' h => ?_
    rw [need?_eq h (steady_uint32? _).settled]
  · subst hio
    refine Steady.record (fun _ => rfl) fun fs fs' h => ?_
    rw [need?_eq h (steady_uint16? _).settled]
  · subst hcsr
    refine Steady.record (fun _ => rfl) fun fs fs' h => ?_
    rw [need?_eq h (steady_uint32? _).settled]
  · exact fun _ _ _ => rfl

def onlyText? : List (Json.Text × Json) → Option String
  | [m] => m.2.string?
  | _ => none

def tags (members : List (Json.Text × Json)) : List (Json.Text × Json) :=
  members.filter fun m => m.1 = some "type"

def untagged (members : List (Json.Text × Json)) : List (Json.Text × Json) :=
  members.filter fun m => m.1 ≠ some "type"

theorem splitTag?_object (members : List (Json.Text × Json)) :
    Location.splitTag? (.object members) =
      (onlyText? (tags members)).map fun tag => (tag, Json.object (untagged members)) := by
  have htags : members.filter (fun m => m.1 = some "type") = tags members := rfl
  rw [Location.splitTag?, htags]
  rcases tags members with - | ⟨⟨k, tag⟩, - | ⟨second, rest⟩⟩
  · rfl
  · change tag.string?.bind _ = tag.string?.map _
    cases tag.string? <;> rfl
  · rfl

theorem splitTag?_array (x : Json) (items : List Json) :
    Location.splitTag? (.array (x :: items)) =
      x.string?.map fun tag => (tag, Json.array items) := by
  change (do some (← x.string?, Json.array items)) = _
  cases x.string? <;> rfl

theorem length_of_onlyText? {l : List (Json.Text × Json)} {tag : String}
    (h : onlyText? l = some tag) : l.length = 1 := by
  match l with
  | [_] => rfl
  | [] | _ :: _ :: _ => cases h

theorem onlyText?_perm {l l' : List (Json.Text × Json)} (h : l.Perm l') :
    onlyText? l = onlyText? l' := by
  have hlength := h.length_eq
  match l, l' with
  | [], [] => rfl
  | [m], [m'] => rw [List.singleton_perm_singleton.1 h]
  | _ :: _ :: _, _ :: _ :: _ => rfl

theorem onlyText?_middle {v v' : Json} (h : v.string? = v'.string?)
    (before after : List (Json.Text × Json)) (k : Json.Text) :
    onlyText? (before ++ (k, v) :: after) = onlyText? (before ++ (k, v') :: after) := by
  match before, after with
  | [], [] => exact h
  | [], _ :: _ => rfl
  | _ :: [], _ => rfl
  | _ :: _ :: _, _ => rfl

section

variable {before after : List (Json.Text × Json)} {k : Json.Text} {v : Json}

theorem tags_of_ne (h : k ≠ some "type") :
    tags (before ++ (k, v) :: after) = tags (before ++ after) := by
  simp [tags, h]

theorem untagged_of_ne (h : k ≠ some "type") :
    untagged (before ++ (k, v) :: after) = untagged before ++ (k, v) :: untagged after := by
  simp [untagged, h]

theorem tags_of_tag : tags (before ++ (some "type", v) :: after) =
    tags before ++ (some "type", v) :: tags after := by
  simp [tags]

theorem untagged_of_tag : untagged (before ++ (some "type", v) :: after) =
    untagged before ++ untagged after := by
  simp [untagged]

end

theorem member_payload {whole rest : Json} {tag : String} {k : Json.Text}
    (h : Location.splitTag? whole = some (tag, rest)) (hk : k ≠ some "type") (rest' : Json) :
    member .place whole k = member (.payload tag) rest' k := by
  cases k with
  | none => rfl
  | some key =>
    have hkey : key ≠ "type" := fun h => hk (congrArg some h)
    have hmem : key ∈ "type" :: Location.keysOf tag ↔ key ∈ Location.keysOf tag := by simp [hkey]
    simp only [member, keys?, h, Option.map_some, Option.getD_some, reduceCtorEq, if_false]
    exact if_congr hmem rfl rfl

theorem item_payload {whole rest : Json} {tag : String}
    (h : Location.splitTag? whole = some (tag, rest)) (i : Nat) (rest' : Json) :
    item .place whole (i + 1) = item (.payload tag) rest' i := by
  simp [item, keys?, h]

def Untagged (p p' : String × Json) : Prop :=
  p.1 = p'.1 ∧ ReflGen (Rearranged (.payload p.1)) p.2 p'.2

theorem Untagged.map {o o' : Option String} (ho : o = o')
    (h : ∀ tag, o = some tag → ReflGen (Rearranged (.payload tag)) j j') :
    Option.Rel Untagged (o.map fun tag => (tag, j)) (o'.map fun tag => (tag, j')) := by
  subst ho
  cases o with
  | none => exact .none
  | some tag => exact .some ⟨rfl, h tag rfl⟩

theorem Rearranged.splitTag? (h : Rearranged .place j j') :
    Option.Rel Untagged (Location.splitTag? j) (Location.splitTag? j') := by
  cases h with
  | permuted distinct perm =>
    rw [splitTag?_object, splitTag?_object]
    refine Untagged.map (onlyText?_perm (perm.filter _)) fun tag _ => .single ?_
    exact .permuted (distinct.sublist (List.filter_sublist.filterMap _)) (perm.filter _)
  | @extended _ before after keys key text record unknown =>
    rw [keys?, splitTag?_object] at record
    obtain ⟨_, hsplit, rfl⟩ := Option.map_eq_some_iff.1 record
    obtain ⟨tag, htag, rfl⟩ := Option.map_eq_some_iff.1 hsplit
    obtain ⟨hkey, hunknown⟩ := not_or.1 (mt List.mem_cons.2 unknown)
    have hne : (some key : Json.Text) ≠ some "type" := fun h => hkey (Option.some.inj h)
    rw [splitTag?_object, splitTag?_object, tags_of_ne hne, untagged_of_ne hne]
    refine Untagged.map rfl fun tag' htag' => .single ?_
    obtain rfl := Option.some.inj (htag.symm.trans htag')
    have hrest : untagged (before ++ after) = untagged before ++ untagged after := by
      simp [untagged]
    rw [hrest]
    exact .extended rfl hunknown
  | @member _ before after k v v' inside =>
    have hstring := steady_string? _ v v' inside
    rw [splitTag?_object, splitTag?_object]
    by_cases hk : k = some "type"
    · subst hk
      rw [tags_of_tag, tags_of_tag, untagged_of_tag, untagged_of_tag]
      exact Untagged.map (onlyText?_middle hstring _ _ _) fun _ _ => .refl
    · rw [tags_of_ne hk, tags_of_ne hk, untagged_of_ne hk, untagged_of_ne hk]
      refine Untagged.map rfl fun tag htag => .single ?_
      have hsplit : Location.splitTag? (.object (before ++ (k, v) :: after)) =
          some (tag, .object (untagged before ++ (k, v) :: untagged after)) := by
        rw [splitTag?_object, tags_of_ne hk, htag, untagged_of_ne hk, Option.map_some]
      rw [member_payload hsplit hk] at inside
      exact .member inside
  | @item _ before after v v' inside =>
    cases before with
    | nil =>
      rw [List.nil_append, List.nil_append, splitTag?_array, splitTag?_array]
      exact Untagged.map (steady_string? _ v v' inside) fun _ _ => .refl
    | cons first before =>
      rw [List.cons_append, List.cons_append, splitTag?_array, splitTag?_array]
      refine Untagged.map rfl fun tag htag => .single ?_
      have hsplit : Location.splitTag? (.array (first :: (before ++ v :: after))) =
          some (tag, .array (before ++ v :: after)) := by
        rw [splitTag?_array, htag, Option.map_some]
      rw [List.cons_append, List.length_cons, item_payload hsplit] at inside
      exact .item inside

theorem steady_place (outer : Nat) : Steady .place (Location.ofJson? outer) := by
  intro j j' h
  unfold Location.ofJson?
  rw [h.sound_eq, h.depth_eq]
  split
  · refine bind_eq_of_rel h.splitTag? ?_
    rintro ⟨tag, rest⟩ ⟨tag', rest'⟩ - ⟨rfl, hrest⟩
    cases hrest with
    | refl => rfl
    | single hrest => exact steady_payload tag _ _ hrest
  · rfl

def entry? (m : String × Json) : Option (String × Field) := (Field.ofJson? m.2).map (m.1, ·)

theorem names_of_entries {fs : Fields} {entries : List (String × Field)}
    (h : fs.mapM entry? = some entries) : entries.map (·.1) = fs.map (·.1) := by
  rw [mapM_eq_some_iff] at h
  induction h with
  | nil => rfl
  | @cons m e ms es hm _ ih =>
    obtain ⟨field, -, rfl⟩ := Option.map_eq_some_iff.1 hm
    rw [List.map_cons, List.map_cons, ih]

def mapOf? (fs : Fields) : Option (NameMap Field) :=
  (fs.mapM entry?).bind fun entries => some (.ofList entries)

theorem fieldsOfJson?_object (members : List (Json.Text × Json)) :
    Register.fieldsOfJson? (.object members) = (Json.keyed? members).bind mapOf? := rfl

theorem mapOf?_perm {fs fs' : Fields} (h : fs.Perm fs') (hnames : (fs.map (·.1)).Nodup) :
    mapOf? fs = mapOf? fs' := by
  refine bind_eq_of_rel (rel_mapM_of_perm entry? h) fun entries entries' hentries hperm => ?_
  rw [← names_of_entries hentries] at hnames
  rw [NameMap.ofList_perm hperm hnames]

theorem mapOf?_middle {v v' : Json} (h : Field.ofJson? v = Field.ofJson? v') (fs fs' : Fields)
    (name : String) : mapOf? (fs ++ (name, v) :: fs') = mapOf? (fs ++ (name, v') :: fs') := by
  have hentry : entry? (name, v) = entry? (name, v') := congrArg (Option.map (name, ·)) h
  simp only [mapOf?, List.mapM_append, List.mapM_cons, hentry]

theorem steady_fields : Steady .fields Register.fieldsOfJson? := by
  intro j j' h
  cases h with
  | @permuted _ members _ distinct perm =>
    rw [fieldsOfJson?_object, fieldsOfJson?_object]
    -- Every key is the name of a field here, so the last member under a name would win if there
    -- were two of them.
    refine bind_eq_of_rel (rel_mapM_of_perm _ perm) fun fs fs' hfs hperm => ?_
    have hnames : members.filterMap (·.1) = fs.map (·.1) := by
      have hkeys := congrArg (List.filterMap id) (Json.keys_of_keyed? hfs)
      simpa [List.filterMap_map] using hkeys
    exact mapOf?_perm hperm (hnames ▸ distinct)
  | extended record => cases record
  | @member _ before after k v v' inside =>
    rw [fieldsOfJson?_object, fieldsOfJson?_object, Json.keyed?_middle, Json.keyed?_middle]
    cases k with
    | none => cases Json.keyed? before <;> rfl
    | some name =>
      simp only [Option.bind_assoc, Option.bind_some]
      simp only [mapOf?_middle (steady_field v v' inside)]
  | item => rfl

theorem steady_definition (outer : Nat) : Steady .definition (Register.ofJson? outer) := by
  have hclass : Steady (named "class") (Location.ofJson? (outer + 1)) := steady_place (outer + 1)
  have hfields : Steady (named "fields") Register.fieldsOfJson? := steady_fields
  refine Steady.record (fun _ => rfl) fun fs fs' h => ?_
  rw [need?_eq h (steady_string? _).settled, need?_eq h hclass.settled,
    need?_eq h (steady_width _).settled, orElse?_eq h (steady_string? _).settled,
    orElse?_eq h hfields.settled]

end Schema

end Lockdown

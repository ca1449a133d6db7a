import Lockdown.Proofs.Sequence
import Lockdown.Register.Json
import Mathlib.Data.List.Perm.Basic

/-! What the values inside a definition are read as, and changes to them that no reader of a
definition sees: the members of an object in another order, and a further member with a text under
a key that is not one of the record. -/
namespace Lockdown

namespace Location

def keysOf (tag : String) : List String :=
  if tag = "pci" then ["bus", "device", "function", "offset"]
  else if tag = "mmio" then ["base", "offset"]
  else if tag = "memory_mapped" then ["address"]
  else if tag = "msr" then ["address"]
  else if tag = "io" then ["port"]
  else if tag = "csr" then ["address"]
  else []

end Location

inductive Schema where
  | definition
  | place
  /-- What is left of a place once its tag is split off. -/
  | payload (tag : String)
  | base
  | fields
  | field
  /-- No record and no map. -/
  | other
  deriving DecidableEq

namespace Schema

/-- The keys of a record, in the order of their declaration; those of a place depend on its tag. -/
def keys? : Schema → Json → Option (List String)
  | .definition, _ => some ["name", "class", "width", "desc", "fields"]
  | .place, j => (Location.splitTag? j).map fun (tag, _) => "type" :: Location.keysOf tag
  | .payload tag, _ => some (Location.keysOf tag)
  | .base, _ => some ["register", "field", "upper"]
  | .field, _ => some ["bit", "size", "desc"]
  | .fields, _ | .other, _ => none

def named : String → Schema
  | "class" => .place
  | "base" => .base
  | "fields" => .fields
  | _ => .other

def member (schema : Schema) (whole : Json) : Json.Text → Schema
  | none => .other
  | some key =>
    if schema = .fields then .field
    else if key ∈ (schema.keys? whole).getD [] then named key else .other

def item (schema : Schema) (whole : Json) (i : Nat) : Schema :=
  (((schema.keys? whole).getD [])[i]?).elim .other named

/-- One object, at whatever depth, has its members in another order, no two of them under one key;
or one record has a further member, somewhere among the others. -/
inductive Rearranged : Schema → Json → Json → Prop
  | permuted {schema : Schema} {members members' : List (Json.Text × Json)}
      (distinct : (members.filterMap (·.1)).Nodup) (perm : members.Perm members') :
      Rearranged schema (.object members) (.object members')
  | extended {schema : Schema} {before after : List (Json.Text × Json)} {keys : List String}
      {key text : String} (record : schema.keys? (.object (before ++ after)) = some keys)
      (unknown : key ∉ keys) :
      Rearranged schema (.object (before ++ after))
        (.object (before ++ (some key, Json.ofString text) :: after))
  | member {schema : Schema} {before after : List (Json.Text × Json)} {k : Json.Text} {v v' : Json}
      (inside : Rearranged (schema.member (.object (before ++ (k, v) :: after)) k) v v') :
      Rearranged schema (.object (before ++ (k, v) :: after)) (.object (before ++ (k, v') :: after))
  | item {schema : Schema} {before after : List Json} {v v' : Json}
      (inside : Rearranged (schema.item (.array (before ++ v :: after)) before.length) v v') :
      Rearranged schema (.array (before ++ v :: after)) (.array (before ++ v' :: after))

/-- A value, or what is at some place inside it, and what that is read as. -/
inductive Within : Schema → Json → Schema → Json → Prop
  | self (schema : Schema) (j : Json) : Within schema j schema j
  | member {schema inner : Schema} {members : List (Json.Text × Json)} {k : Json.Text} {v x : Json}
      (mem : (k, v) ∈ members) (inside : Within (schema.member (.object members) k) v inner x) :
      Within schema (.object members) inner x
  | item {schema inner : Schema} {items : List Json} {i : Nat} {v x : Json}
      (at_ : items[i]? = some v) (inside : Within (schema.item (.array items) i) v inner x) :
      Within schema (.array items) inner x

end Schema

namespace Json

theorem membersSound_eq_all (members : List (Text × Json)) :
    membersSound members = members.all fun m => m.1.isSome && m.2.sound := by
  induction members with
  | nil => rfl
  | cons m ms ih => rw [membersSound, ih, List.all_cons]

theorem itemsSound_eq_all (items : List Json) : itemsSound items = items.all sound := by
  induction items with
  | nil => rfl
  | cons x xs ih => rw [itemsSound, ih, List.all_cons]

theorem memberDepth_eq_foldr (members : List (Text × Json)) :
    memberDepth members = members.foldr (fun m n => max m.2.depth n) 0 := by
  induction members with
  | nil => rfl
  | cons m ms ih => rw [memberDepth, ih, List.foldr_cons]

theorem itemDepth_eq_foldr (items : List Json) :
    itemDepth items = items.foldr (fun x n => max x.depth n) 0 := by
  induction items with
  | nil => rfl
  | cons x xs ih => rw [itemDepth, ih, List.foldr_cons]

end Json

namespace Schema.Rearranged

open Json

variable {schema : Schema} {j j' : Json}

theorem sound_eq (h : Rearranged schema j j') : j.sound = j'.sound := by
  induction h with
  | permuted _ perm => simp only [sound, membersSound_eq_all, perm.all_eq]
  | extended => simp [sound, membersSound_eq_all, ofString]
  | member _ ih => simp [sound, membersSound_eq_all, ih]
  | item _ ih => simp [sound, itemsSound_eq_all, ih]

theorem depth_eq (h : Rearranged schema j j') : j.depth = j'.depth := by
  induction h with
  | permuted _ perm =>
    have hcomm : LeftCommutative fun (m : Text × Json) n => max m.2.depth n :=
      ⟨fun a b n => Nat.max_left_comm ..⟩
    simp only [depth, memberDepth_eq_foldr, perm.foldr_eq]
  | extended => simp [depth, memberDepth_eq_foldr, ofString]
  | member _ ih => simp [depth, memberDepth_eq_foldr, ih]
  | item _ ih => simp [depth, itemDepth_eq_foldr, ih]

end Schema.Rearranged

end Lockdown

import Lockdown.Proofs.Json.Scanned
import Lockdown.Proofs.Register.Accepted
import Lockdown.Proofs.Register.Json

/-! A definition is read from its text whatever the order of the members in it and whatever further
members its records have, and from no text in which a record says a thing twice. -/
namespace Lockdown

namespace Register

open Relation (ReflTransGen)
open Schema (Rearranged Within)

theorem read?_layout (w : Json.Layout) : read? w.text = ofJson? 0 w.value := by
  rw [read?, w.read?_text, Option.bind_some]

theorem read?_of_rearranged (w w' : Json.Layout)
    (h : ReflTransGen (Rearranged .definition) w.value w'.value) :
    read? w'.text = read? w.text := by
  rw [read?_layout, read?_layout, (Schema.steady_definition 0).eq_of_rearranged h]

theorem read?_of_toJson (d : Register) (w : Json.Layout)
    (h : ReflTransGen (Rearranged .definition) d.toJson w.value) : read? w.text = some d := by
  rw [read?_layout, (Schema.steady_definition 0).eq_of_rearranged h, ofJson?_toJson (by decide)]

theorem read?_of_repeats {w : Json.Layout} {schema : Schema} {members : List (Json.Text × Json)}
    {keys : List String} {key : String}
    (hwithin : Within .definition w.value schema (.object members))
    (hkeys : schema.keys? (.object members) = some keys) (hkey : key ∈ keys)
    (hrepeats : Json.Repeats key members) : read? w.text = none := by
  by_contra hsome
  rw [read?_layout] at hsome
  have haccepts : Schema.Accepts .definition w.value := ⟨0, Option.isSome_iff_ne_none.2 hsome⟩
  exact Schema.not_accepts_of_repeats hkeys hkey hrepeats (hwithin.accepts haccepts)

/-- Permuting members of objects, and adding members that their records do not know, changes nothing
about the definition that is read, or about there being one; what a definition is written as is read
as this definition after any such changes; and a definition is not read where a record in it, itself
or another, has a known key twice. The texts of values are the texts of layouts, so to permute the
members of an object in a text is to permute a list of them. -/
theorem member_order_exact :
    (∀ t j, Json.read? t = some j ↔ ∃ w : Json.Layout, w.text = t ∧ w.value = j) ∧
    (∀ w w' : Json.Layout, ReflTransGen (Rearranged .definition) w.value w'.value →
      read? w'.text = read? w.text) ∧
    (∀ (d : Register) (w : Json.Layout), ReflTransGen (Rearranged .definition) d.toJson w.value →
      read? w.text = some d) ∧
    ∀ (w : Json.Layout) schema members keys key,
      Within .definition w.value schema (.object members) →
      schema.keys? (.object members) = some keys → key ∈ keys → Json.Repeats key members →
      read? w.text = none := by
  refine ⟨fun t j => ⟨Json.Layout.exists_layout, ?_⟩, read?_of_rearranged, read?_of_toJson, ?_⟩
  · rintro ⟨w, rfl, rfl⟩
    exact w.read?_text
  · intro w schema members keys key hwithin hkeys hkey hrepeats
    exact read?_of_repeats hwithin hkeys hkey hrepeats

/-- The tag stands behind the address and the name behind the rest, with a member that is not known
between them; and a width that is given twice is none. -/
example :
    (read? ("\x7b\"width\": 8, \"class\": \x7b\"address\": 58, \"see\": \"SDM\", " ++
      "\"type\": \"msr\"\x7d, \"name\": \"A\"\x7d")).map (·.location) = some (.msr 58) ∧
    read? ("\x7b\"width\": 8, \"width\": 8, \"class\": \x7b\"type\": \"msr\", " ++
      "\"address\": 58\x7d, \"name\": \"A\"\x7d") = none := by
  decide +kernel

end Register

end Lockdown

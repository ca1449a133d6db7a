import Lockdown.Proofs.Json.Reading
import Lockdown.Proofs.Json.Record
import Lockdown.Proofs.NameMap
import Lockdown.Register.Json

/-! A register definition comes back from its text as it was: its place with every option of it,
its width, and its fields under whatever names. The tag of a place shares the object with the
fields of the place and is split off before they are read. -/
namespace Lockdown

open Json

theorem AccessWidth.ofJson?_toJson (w : AccessWidth) : ofJson? w.toJson = some w := by
  cases w <;> rfl

theorem Field.ofJson?_toJson (f : Field) : ofJson? f.toJson = some f := by
  rw [ofJson?, toJson, fields?_record]
  · simp [Fields.need?, Fields.orElse?, List.lookup_cons, uint32?_ofNat, string?_ofString]
  · rfl
  · decide

theorem BaseAddress.ofJson?_toJson (b : BaseAddress) : ofJson? b.toJson = some b := by
  rw [ofJson?, toJson, fields?_record]
  · simp [Fields.need?, Fields.orElse?, List.lookup_cons, string?_ofString, nullable?_ofOption]
  · rfl
  · decide

namespace Location

theorem splitTag?_toJson (l : Location) :
    splitTag? l.toJson = some (l.tag, record l.members) := by
  cases l <;> simp [splitTag?, toJson, record, members, PciLocation.members, string?, ofString]

theorem ofTagged?_members (l : Location) : ofTagged? l.tag (record l.members) = some l := by
  cases l with
  | pci l =>
    simp [ofTagged?, tag, members, PciLocation.members, PciLocation.ofFields?, fields?_record,
      Fields.need?, List.lookup_cons, uint32?_ofNat]
  | mmio base offset =>
    simp [ofTagged?, tag, members, fields?_record, Fields.need?, List.lookup_cons, uint64?_ofNat,
      BaseAddress.ofJson?_toJson]
  | _ =>
    simp [ofTagged?, tag, members, fields?_record, Fields.need?, uint16?_ofNat, uint32?_ofNat,
      uint64?_ofNat]

theorem sound_toJson (l : Location) : l.toJson.sound = true := by
  have h16 (v : UInt16) : (ofNat v.toNat).sound = true :=
    finite_ofNat (Nat.lt_trans v.toNat_lt (by decide))
  have h32 (v : UInt32) : (ofNat v.toNat).sound = true :=
    finite_ofNat (Nat.lt_trans v.toNat_lt (by decide))
  have h64 (v : UInt64) : (ofNat v.toNat).sound = true := finite_ofNat v.toNat_lt
  cases l <;> simp [toJson, record, members, PciLocation.members, BaseAddress.toJson, sound,
    membersSound, ofString, h16, h32, h64, sound_ofOption]

theorem depth_toJson (l : Location) : l.toJson.depth ≤ 2 := by
  cases l <;> simp [toJson, record, members, PciLocation.members, BaseAddress.toJson, depth,
    memberDepth, ofString, ofNat, depth_ofOption]

theorem ofJson?_toJson {outer : Nat} (h : outer + 2 ≤ depthLimit) (l : Location) :
    ofJson? outer l.toJson = some l := by
  have hdepth := l.depth_toJson
  have hheld : (l.toJson.sound && decide (l.toJson.depth + outer ≤ depthLimit)) = true := by
    rw [l.sound_toJson, Bool.true_and, decide_eq_true_iff]
    omega
  simp only [ofJson?, hheld, ↓reduceIte, splitTag?_toJson, Option.bind_eq_bind, Option.bind_some,
    ofTagged?_members]

end Location

namespace Register

theorem fieldsOfJson?_fieldsJson (m : NameMap Field) : fieldsOfJson? (fieldsJson m) = some m := by
  have hentry (e : String × Field) :
      (Field.ofJson? e.2.toJson).map (fun field => (e.1, field)) = some e := by
    rw [e.2.ofJson?_toJson]
    rfl
  have hentries : (m.toList.map fun e => (e.1, e.2.toJson)).mapM
      (fun e => (Field.ofJson? e.2).map fun field => (e.1, field)) = some m.toList :=
    mapM_map_of_inverse hentry m.toList
  change (keyed? _).bind _ = _
  rw [keyed?_record, Option.bind_some]
  refine (congrArg (Option.bind · fun l => some (NameMap.ofList l)) hentries).trans ?_
  exact congrArg some m.ofList_toList

theorem ofJson?_toJson {outer : Nat} (h : outer + 3 ≤ Location.depthLimit) (r : Register) :
    ofJson? outer r.toJson = some r := by
  rw [ofJson?, toJson, fields?_record]
  · simp [Fields.need?, Fields.orElse?, List.lookup_cons, string?_ofString,
      fieldsOfJson?_fieldsJson, AccessWidth.ofJson?_toJson,
      Location.ofJson?_toJson (show outer + 1 + 2 ≤ _ from h)]
  · rfl
  · decide

theorem read?_text (r : Register) : read? r.text = some r := by
  rw [read?, text, Json.read?_text, Option.bind_some, ofJson?_toJson (by decide)]

/-- The text that a definition is written with, from any text of it. -/
def canonical? (t : String) : Option String := (read? t).map text

/-- Reading undoes writing, for every definition. So what is read from any text survives being
written, and a text that was written once is written the same again. -/
theorem text_roundtrip :
    (∀ r : Register, read? r.text = some r) ∧
    (∀ t d, read? t = some d → read? d.text = some d) ∧
    ∀ t, (canonical? t).bind canonical? = canonical? t := by
  refine ⟨read?_text, fun _ d _ => read?_text d, fun t => ?_⟩
  unfold canonical?
  cases read? t with
  | none => rfl
  | some d => rw [Option.map_some, Option.bind_some, read?_text, Option.map_some]

end Register

end Lockdown

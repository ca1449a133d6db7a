import Lockdown.Proofs.Json.Layout

/-! Compact text is read as the value it was written for, whatever the value is: numbers keep their
digits and their exponent, members their order and repetitions, and half a pair stays without a
value. It is a layout of the value that has no blanks. -/
namespace Lockdown.Json

theorem exists_quoted (t : Text) :
    ∃ token : StringToken, token.value = t ∧ '"' :: token.body = quoted t := by
  obtain ⟨body, hbody, -⟩ := scanString_quoted t []
  refine ⟨⟨body, t, fun rest => ?_⟩, rfl, hbody.symm⟩
  obtain ⟨body', hbody', hscan⟩ := scanString_quoted t rest
  obtain rfl := (List.cons_eq_cons.1 (hbody.symm.trans hbody')).2
  exact hscan

theorem itemChars_cons_cons (x y : Json) (xs : List Json) :
    itemChars (x :: y :: xs) = chars x ++ ',' :: itemChars (y :: xs) := by
  rw [itemChars]
  rintro ⟨⟩

theorem memberChars_cons_cons (k : Text) (v : Json) (m : Text × Json) (ms : List (Text × Json)) :
    memberChars ((k, v) :: m :: ms) =
      quoted k ++ ':' :: chars v ++ ',' :: memberChars (m :: ms) := by
  rw [memberChars]
  rintro ⟨⟩

-- Along the value, its items and its members.
mutual

theorem exists_layout_chars (j : Json) : ∃ w : Layout, w.value = j ∧ w.chars = j.chars := by
  match j with
  | .null => exact ⟨.null, rfl, rfl⟩
  | .bool true => exact ⟨.bool true, rfl, rfl⟩
  | .bool false => exact ⟨.bool false, rfl, rfl⟩
  | .number n => exact ⟨.number ⟨n.chars, n, fun _ h => scanNumber_chars n h⟩, rfl, rfl⟩
  | .string t =>
    obtain ⟨token, rfl, hbody⟩ := exists_quoted t
    exact ⟨.string token, rfl, by rw [Layout.chars, chars, hbody]⟩
  | .array items =>
    obtain ⟨ws, hvalues, hchars⟩ := exists_layout_itemChars items
    refine ⟨.array .none ws, by rw [Layout.value, hvalues], ?_⟩
    rw [Layout.chars, chars, hchars]
    rfl
  | .object members =>
    obtain ⟨ws, hvalues, hchars⟩ := exists_layout_memberChars members
    refine ⟨.object .none ws, by rw [Layout.value, hvalues], ?_⟩
    rw [Layout.chars, chars, hchars]
    rfl

theorem exists_layout_itemChars (items : List Json) :
    ∃ ws, Layout.itemValues ws = items ∧ Layout.itemChars ws = itemChars items := by
  match items with
  | [] => exact ⟨[], rfl, rfl⟩
  | [x] =>
    obtain ⟨w, rfl, hw⟩ := exists_layout_chars x
    exact ⟨[w], rfl, by rw [Layout.itemChars, itemChars, hw]⟩
  | x :: y :: ys =>
    obtain ⟨w, rfl, hw⟩ := exists_layout_chars x
    obtain ⟨ws, hvalues, hws⟩ := exists_layout_itemChars (y :: ys)
    have hne : ws ≠ [] := by
      rintro rfl
      cases hvalues
    refine ⟨w :: ws, by rw [Layout.itemValues, hvalues], ?_⟩
    rw [Layout.itemChars_cons w hne, hw, hws, itemChars_cons_cons]

theorem exists_layout_memberChars (members : List (Text × Json)) :
    ∃ ws, Layout.memberValues ws = members ∧ Layout.memberChars ws = memberChars members := by
  match members with
  | [] => exact ⟨[], rfl, rfl⟩
  | [(k, v)] =>
    obtain ⟨token, rfl, hbody⟩ := exists_quoted k
    obtain ⟨w, rfl, hw⟩ := exists_layout_chars v
    refine ⟨[(⟨.none, token, .none⟩, w)], rfl, ?_⟩
    rw [Layout.memberChars, memberChars, hw, ← hbody]
    simp [Key.chars, Blanks.none]
  | (k, v) :: m :: ms =>
    obtain ⟨token, rfl, hbody⟩ := exists_quoted k
    obtain ⟨w, rfl, hw⟩ := exists_layout_chars v
    obtain ⟨ws, hvalues, hws⟩ := exists_layout_memberChars (m :: ms)
    have hne : ws ≠ [] := by
      rintro rfl
      cases hvalues
    refine ⟨(⟨.none, token, .none⟩, w) :: ws, by rw [Layout.memberValues, hvalues], ?_⟩
    rw [Layout.memberChars_cons _ w hne, hw, hws, memberChars_cons_cons, ← hbody]
    simp [Key.chars, Blanks.none]

end

/-- Writing loses nothing. -/
theorem read?_text (j : Json) : read? j.text = some j := by
  obtain ⟨w, rfl, hchars⟩ := exists_layout_chars j
  rw [text, ← hchars]
  exact w.read?_text

end Lockdown.Json

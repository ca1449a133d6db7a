import Lockdown.Proofs.Json.Layout

/-! Every text that is read is the text of a layout. What a scanner takes from the front of a text
is laid out there, and so are the items and members in it, each with the blanks around it. -/
namespace Lockdown.Json

variable {fuel : Nat} {s r rest : List Char}

namespace Layout

theorem exists_padded {w : Layout} {c : Char} (h : s = w.chars ++ r)
    (hr : skipBlank r = c :: rest) :
    ∃ w' : Layout, w'.value = w.value ∧ s = w'.chars ++ c :: rest := by
  obtain ⟨after, hafter⟩ := exists_blanks r
  refine ⟨.padded .none w after, by rw [value], ?_⟩
  rw [h, hafter, hr, chars]
  simp [Blanks.none]

/-- The scanned items are laid out in what was read of the text. -/
def ItemsLaidOut (fuel : Nat) : Prop :=
  ∀ s xs r, scanItems fuel s = some (xs, r) →
    ∃ items, items ≠ [] ∧ itemValues items = xs ∧ s = itemChars items ++ ']' :: r

def MembersLaidOut (fuel : Nat) : Prop :=
  ∀ s ms r, scanMembers fuel s = some (ms, r) →
    ∃ members, members ≠ [] ∧ memberValues members = ms ∧ s = memberChars members ++ '\x7d' :: r

def ValueLaidOut (fuel : Nat) : Prop :=
  ∀ s j r, scanValue fuel s = some (j, r) → ∃ w : Layout, w.value = j ∧ s = w.chars ++ r

theorem itemsLaidOut_succ (hvalue : ValueLaidOut fuel) (hitems : ItemsLaidOut fuel) :
    ItemsLaidOut (fuel + 1) := by
  intro s xs r h
  simp only [scanItems, Option.bind_eq_bind, Option.bind_eq_some_iff] at h
  obtain ⟨⟨x, r'⟩, hx, h⟩ := h
  obtain ⟨w, rfl, hs⟩ := hvalue s x r' hx
  dsimp only at h
  split at h
  · rename_i hr
    obtain ⟨rfl, rfl⟩ := Prod.mk.inj (Option.some.inj h)
    obtain ⟨w', hw', hs'⟩ := exists_padded hs hr
    exact ⟨[w'], List.cons_ne_nil _ _, by rw [itemValues, itemValues, hw'], by rw [itemChars, hs']⟩
  · rename_i t hr
    simp only [Option.bind_eq_some_iff] at h
    obtain ⟨⟨ys, r''⟩, hys, h⟩ := h
    obtain ⟨rfl, rfl⟩ := Prod.mk.inj (Option.some.inj h)
    obtain ⟨items, hne, rfl, ht⟩ := hitems t ys r'' hys
    obtain ⟨w', hw', hs'⟩ := exists_padded hs hr
    refine ⟨w' :: items, List.cons_ne_nil _ _, by rw [itemValues, hw'], ?_⟩
    rw [itemChars_cons w' hne, hs', ht, List.append_assoc, List.cons_append]
  · cases h

theorem exists_key {k : Text} {t : List Char} (hquote : skipBlank s = '"' :: t)
    (hk : scanString t = some (k, r)) (hcolon : skipBlank r = ':' :: rest) :
    ∃ key : Key, key.token.value = k ∧ s = key.chars ++ ':' :: rest := by
  obtain ⟨before, hbefore⟩ := exists_blanks s
  obtain ⟨token, rfl, ht⟩ := exists_stringToken hk
  obtain ⟨after, hafter⟩ := exists_blanks r
  refine ⟨⟨before, token, after⟩, rfl, ?_⟩
  rw [chars_append, hbefore, hquote, ht, hafter, hcolon]

theorem membersLaidOut_succ (hvalue : ValueLaidOut fuel) (hmembers : MembersLaidOut fuel) :
    MembersLaidOut (fuel + 1) := by
  intro s ms r h
  rw [scanMembers] at h
  split at h
  · rename_i t hquote
    simp only [Option.bind_eq_bind, Option.bind_eq_some_iff] at h
    obtain ⟨⟨k, r'⟩, hk, h⟩ := h
    dsimp only at h
    split at h
    · rename_i r'' hcolon
      obtain ⟨key, rfl, rfl⟩ := exists_key hquote hk hcolon
      simp only [Option.bind_eq_some_iff] at h
      obtain ⟨⟨v, r3⟩, hv, h⟩ := h
      obtain ⟨w, rfl, hs⟩ := hvalue r'' v r3 hv
      dsimp only at h
      split at h
      · rename_i hr
        obtain ⟨rfl, rfl⟩ := Prod.mk.inj (Option.some.inj h)
        obtain ⟨w', hw', hs'⟩ := exists_padded hs hr
        refine ⟨[(key, w')], List.cons_ne_nil _ _, by rw [memberValues, memberValues, hw'], ?_⟩
        rw [memberChars, hs', List.append_assoc, List.cons_append]
      · rename_i u hr
        simp only [Option.bind_eq_some_iff] at h
        obtain ⟨⟨ns, r4⟩, hns, h⟩ := h
        obtain ⟨rfl, rfl⟩ := Prod.mk.inj (Option.some.inj h)
        obtain ⟨members, hne, rfl, hu⟩ := hmembers u ns r4 hns
        obtain ⟨w', hw', hs'⟩ := exists_padded hs hr
        refine ⟨(key, w') :: members, List.cons_ne_nil _ _, by rw [memberValues, hw'], ?_⟩
        rw [memberChars_cons key w' hne, hs', hu]
        simp only [List.append_assoc, List.cons_append]
      · cases h
    · cases h
  · cases h

theorem valueLaidOut_succ (hitems : ItemsLaidOut fuel) (hmembers : MembersLaidOut fuel) :
    ValueLaidOut (fuel + 1) := by
  intro s j r h
  have hpadded : ∀ w : Layout, w.value = j → skipBlank s = w.chars ++ r →
      ∃ w : Layout, w.value = j ∧ s = w.chars ++ r := by
    intro w hw hs
    obtain ⟨before, hbefore⟩ := exists_blanks s
    refine ⟨.padded before w .none, by rw [value, hw], ?_⟩
    rw [hbefore, hs, chars]
    simp [Blanks.none]
  rw [scanValue] at h
  split at h
  · rename_i hs
    obtain ⟨rfl, rfl⟩ := Prod.mk.inj (Option.some.inj h)
    exact hpadded .null rfl hs
  · rename_i hs
    obtain ⟨rfl, rfl⟩ := Prod.mk.inj (Option.some.inj h)
    exact hpadded (.bool true) rfl hs
  · rename_i hs
    obtain ⟨rfl, rfl⟩ := Prod.mk.inj (Option.some.inj h)
    exact hpadded (.bool false) rfl hs
  · rename_i t hs
    obtain ⟨⟨text, r'⟩, hscan, h⟩ := Option.map_eq_some_iff.1 h
    obtain ⟨rfl, rfl⟩ := Prod.mk.inj h
    obtain ⟨token, rfl, rfl⟩ := exists_stringToken hscan
    exact hpadded (.string token) rfl hs
  · rename_i t hs
    obtain ⟨inside, ht⟩ := exists_blanks t
    split at h
    · rename_i hclosed
      obtain ⟨rfl, rfl⟩ := Prod.mk.inj (Option.some.inj h)
      refine hpadded (.array inside []) rfl ?_
      rw [hs, ht, hclosed]
      simp [chars, itemChars]
    · obtain ⟨⟨xs, r'⟩, hscan, h⟩ := Option.map_eq_some_iff.1 h
      obtain ⟨rfl, rfl⟩ := Prod.mk.inj h
      obtain ⟨items, -, rfl, hitems⟩ := hitems _ xs r' hscan
      refine hpadded (.array inside items) rfl ?_
      rw [hs, ht, hitems]
      simp [chars]
  · rename_i t hs
    obtain ⟨inside, ht⟩ := exists_blanks t
    split at h
    · rename_i hclosed
      obtain ⟨rfl, rfl⟩ := Prod.mk.inj (Option.some.inj h)
      refine hpadded (.object inside []) rfl ?_
      rw [hs, ht, hclosed]
      simp [chars, memberChars]
    · obtain ⟨⟨ms, r'⟩, hscan, h⟩ := Option.map_eq_some_iff.1 h
      obtain ⟨rfl, rfl⟩ := Prod.mk.inj h
      obtain ⟨members, -, rfl, hmembers⟩ := hmembers _ ms r' hscan
      refine hpadded (.object inside members) rfl ?_
      rw [hs, ht, hmembers]
      simp [chars]
  · obtain ⟨⟨n, r'⟩, hscan, h⟩ := Option.map_eq_some_iff.1 h
    obtain ⟨rfl, rfl⟩ := Prod.mk.inj h
    obtain ⟨token, rfl, hs⟩ := exists_numberToken hscan
    exact hpadded (.number token) rfl hs

theorem laidOut (fuel : Nat) : ValueLaidOut fuel ∧ ItemsLaidOut fuel ∧ MembersLaidOut fuel := by
  induction fuel with
  | zero =>
    refine ⟨?_, ?_, ?_⟩
    · intro s j r h
      cases h
    · intro s xs r h
      cases h
    · intro s ms r h
      cases h
  | succ fuel ih =>
    obtain ⟨hvalue, hitems, hmembers⟩ := ih
    exact ⟨valueLaidOut_succ hitems hmembers, itemsLaidOut_succ hvalue hitems,
      membersLaidOut_succ hvalue hmembers⟩

/-- Every text that is read is the text of a layout. -/
theorem exists_layout {t : String} {j : Json} (h : read? t = some j) :
    ∃ w : Layout, w.text = t ∧ w.value = j := by
  simp only [read?, readFirst?, Option.bind_eq_bind, Option.bind_eq_some_iff] at h
  obtain ⟨⟨j', r⟩, hscan, h⟩ := h
  dsimp only at h
  split at h
  · rename_i hend
    obtain rfl := Option.some.inj h
    obtain ⟨w, rfl, hs⟩ := (laidOut _).1 _ _ _ hscan
    obtain ⟨after, hafter⟩ := exists_blanks r
    rw [List.isEmpty_iff.1 hend] at hafter
    refine ⟨.padded .none w after, ?_, by rw [value]⟩
    rw [text, chars, ← String.ofList_toList (s := t), hs, hafter]
    simp [Blanks.none]
  · cases h

end Layout

end Lockdown.Json

import Lockdown.Proofs.Json.Token

/-! Values as they are laid out in a text: with blanks around each, and with each string and number
in one of its spellings. Every layout is read as the value it is a layout of. What is done to the
members of an object in a text is done to a list here. -/
namespace Lockdown.Json

structure Blanks where
  chars : List Char
  blank : ∀ c ∈ chars, isBlank c = true

def Blanks.none : Blanks := ⟨[], fun _ hc => nomatch hc⟩

structure Key where
  before : Blanks
  token : StringToken
  after : Blanks

inductive Layout where
  | null
  | bool (b : Bool)
  | number (token : NumberToken)
  | string (token : StringToken)
  | array (inside : Blanks) (items : List Layout)
  | object (inside : Blanks) (members : List (Key × Layout))
  | padded (before : Blanks) (value : Layout) (after : Blanks)

def Key.chars (k : Key) : List Char := k.before.chars ++ '"' :: k.token.body ++ k.after.chars

namespace Layout

mutual

def chars : Layout → List Char
  | .null => ['n', 'u', 'l', 'l']
  | .bool true => ['t', 'r', 'u', 'e']
  | .bool false => ['f', 'a', 'l', 's', 'e']
  | .number token => token.chars
  | .string token => '"' :: token.body
  | .array inside items => '[' :: inside.chars ++ itemChars items ++ [']']
  | .object inside members => '\x7b' :: inside.chars ++ memberChars members ++ ['\x7d']
  | .padded before w after => before.chars ++ chars w ++ after.chars

def itemChars : List Layout → List Char
  | [] => []
  | [x] => chars x
  | x :: xs => chars x ++ ',' :: itemChars xs

def memberChars : List (Key × Layout) → List Char
  | [] => []
  | [(k, v)] => k.chars ++ ':' :: chars v
  | (k, v) :: ms => k.chars ++ ':' :: chars v ++ ',' :: memberChars ms

end

mutual

def value : Layout → Json
  | .null => .null
  | .bool b => .bool b
  | .number token => .number token.value
  | .string token => .string token.value
  | .array _ items => .array (itemValues items)
  | .object _ members => .object (memberValues members)
  | .padded _ w _ => value w

def itemValues : List Layout → List Json
  | [] => []
  | x :: xs => value x :: itemValues xs

def memberValues : List (Key × Layout) → List (Text × Json)
  | [] => []
  | (k, v) :: ms => (k.token.value, value v) :: memberValues ms

end

def text (w : Layout) : String := String.ofList w.chars

end Layout

variable {fuel : Nat} {c : Char} {s s' r rest : List Char}

theorem skipBlank_cons (h : isBlank c = false) (s : List Char) : skipBlank (c :: s) = c :: s :=
  List.dropWhile_cons_of_neg (by simp [h])

theorem isBlank_of_isDigit (h : c.isDigit = true) : isBlank c = false := by
  simp only [isBlank, ne_of_isDigit h (c := ' ') rfl, ne_of_isDigit h (c := '\n') rfl,
    ne_of_isDigit h (c := '\r') rfl, ne_of_isDigit h (c := '\t') rfl]
  rfl

theorem skipBlank_blanks (b : Blanks) (s : List Char) : skipBlank (b.chars ++ s) = skipBlank s :=
  List.dropWhile_append_of_pos b.blank

theorem exists_blanks (s : List Char) : ∃ b : Blanks, s = b.chars ++ skipBlank s :=
  ⟨⟨s.takeWhile isBlank, fun _ hc => List.mem_takeWhile_imp hc⟩,
    List.takeWhile_append_dropWhile.symm⟩

theorem scanValue_congr (h : skipBlank s = skipBlank s') :
    scanValue fuel s = scanValue fuel s' := by
  cases fuel with
  | zero => rw [scanValue, scanValue]
  | succ fuel => rw [scanValue, scanValue, h]

theorem scanItems_congr (h : skipBlank s = skipBlank s') :
    scanItems fuel s = scanItems fuel s' := by
  cases fuel with
  | zero => rw [scanItems, scanItems]
  | succ fuel => rw [scanItems, scanItems, scanValue_congr h]

theorem scanMembers_congr (h : skipBlank s = skipBlank s') :
    scanMembers fuel s = scanMembers fuel s' := by
  cases fuel with
  | zero => rw [scanMembers, scanMembers]
  | succ fuel => rw [scanMembers, scanMembers, h]

theorem skipBlank_skipBlank (s : List Char) : skipBlank (skipBlank s) = skipBlank s := by
  obtain ⟨b, hb⟩ := exists_blanks s
  rw [← skipBlank_blanks b, ← hb]

theorem scanValue_closing : scanValue fuel (']' :: s) = none := by
  cases fuel with
  | zero => rfl
  | succ fuel =>
    rw [scanValue, skipBlank_cons rfl]
    rfl

theorem scanItems_closing (h : skipBlank s = ']' :: r) : scanItems fuel s = none := by
  cases fuel with
  | zero => rfl
  | succ fuel =>
    have hvalue : scanValue fuel s = none := by
      rw [scanValue_congr (h.trans (skipBlank_cons rfl r).symm), scanValue_closing]
    rw [scanItems, hvalue]
    rfl

theorem scanMembers_closing (h : skipBlank s = '\x7d' :: r) : scanMembers fuel s = none := by
  cases fuel with
  | zero => rfl
  | succ fuel => rw [scanMembers, h]; rfl

theorem scanValue_number (hblank : isBlank c = false) (hdigit : c.isDigit = true ∨ c = '-') :
    scanValue (fuel + 1) (c :: s) = (scanNumber (c :: s)).map fun (x, r) => (.number x, r) := by
  rw [scanValue, skipBlank_cons hblank]
  split <;> simp_all

theorem scanValue_string {t : Text} (h : scanString s = some (t, rest)) :
    scanValue (fuel + 1) ('"' :: s) = some (.string t, rest) := by
  rw [scanValue, skipBlank_cons rfl]
  simp only [h, Option.map_some]

theorem scanValue_bracket (s : List Char) :
    scanValue (fuel + 1) ('[' :: s) = match skipBlank s with
      | ']' :: r => some (.array [], r)
      | r => (scanItems fuel r).map fun (xs, r) => (.array xs, r) := by
  rw [scanValue, skipBlank_cons rfl]
  rfl

theorem scanValue_brace (s : List Char) :
    scanValue (fuel + 1) ('\x7b' :: s) = match skipBlank s with
      | '\x7d' :: r => some (.object [], r)
      | r => (scanMembers fuel r).map fun (ms, r) => (.object ms, r) := by
  rw [scanValue, skipBlank_cons rfl]
  rfl

theorem scanValue_items {items : List Json} (h : scanItems fuel s = some (items, rest)) :
    scanValue (fuel + 1) ('[' :: s) = some (.array items, rest) := by
  rw [← scanItems_congr (skipBlank_skipBlank s)] at h
  rw [scanValue_bracket]
  split
  · rename_i hclosed
    rw [hclosed, scanItems_closing (skipBlank_cons rfl _)] at h
    cases h
  · rw [h, Option.map_some]

variable {members : List (Text × Json)} {x v : Json} {xs : List Json}

theorem scanValue_members (h : scanMembers fuel s = some (members, rest)) :
    scanValue (fuel + 1) ('\x7b' :: s) = some (.object members, rest) := by
  rw [← scanMembers_congr (skipBlank_skipBlank s)] at h
  rw [scanValue_brace]
  split
  · rename_i hclosed
    rw [hclosed, scanMembers_closing (skipBlank_cons rfl _)] at h
    cases h
  · rw [h, Option.map_some]

theorem scanItems_close (hx : scanValue fuel s = some (x, r)) (hr : skipBlank r = ']' :: rest) :
    scanItems (fuel + 1) s = some ([x], rest) := by
  rw [scanItems, hx]
  simp only [Option.bind_eq_bind, Option.bind_some, hr]

theorem scanItems_comma {t : List Char} (hx : scanValue fuel s = some (x, r))
    (hr : skipBlank r = ',' :: t) (hxs : scanItems fuel t = some (xs, rest)) :
    scanItems (fuel + 1) s = some (x :: xs, rest) := by
  rw [scanItems, hx]
  simp only [Option.bind_eq_bind, Option.bind_some, hr, hxs]

theorem chars_append (k : Key) (s : List Char) :
    k.chars ++ s = k.before.chars ++ '"' :: (k.token.body ++ (k.after.chars ++ s)) := by
  simp [Key.chars]

theorem scanMembers_close (k : Key) (hv : scanValue fuel s = some (v, r))
    (hr : skipBlank r = '\x7d' :: rest) :
    scanMembers (fuel + 1) (k.chars ++ ':' :: s) = some ([(k.token.value, v)], rest) := by
  rw [chars_append, scanMembers, skipBlank_blanks, skipBlank_cons rfl]
  simp only [k.token.reads, Option.bind_eq_bind, Option.bind_some, skipBlank_blanks,
    skipBlank_cons (c := ':') rfl, hv, hr]

theorem scanMembers_comma (k : Key) {t : List Char} (hv : scanValue fuel s = some (v, r))
    (hr : skipBlank r = ',' :: t) (hms : scanMembers fuel t = some (members, rest)) :
    scanMembers (fuel + 1) (k.chars ++ ':' :: s) = some ((k.token.value, v) :: members, rest) := by
  rw [chars_append, scanMembers, skipBlank_blanks, skipBlank_cons rfl]
  simp only [k.token.reads, Option.bind_eq_bind, Option.bind_some, skipBlank_blanks,
    skipBlank_cons (c := ':') rfl, hv, hr, hms]

theorem scanValue_numberToken (t : NumberToken) (hrest : Stops rest) :
    scanValue (fuel + 1) (t.chars ++ rest) = some (.number t.value, rest) := by
  obtain ⟨c, s, hchars, hbegin⟩ := t.begins
  have hblank : isBlank c = false := by
    rcases hbegin with hd | rfl
    · exact isBlank_of_isDigit hd
    · rfl
  have hread := t.reads rest hrest
  rw [hchars, List.cons_append] at hread ⊢
  rw [scanValue_number hblank hbegin, hread, Option.map_some]

namespace Layout

theorem itemChars_cons (x : Layout) {xs : List Layout} (h : xs ≠ []) :
    itemChars (x :: xs) = x.chars ++ ',' :: itemChars xs := by
  rw [itemChars]
  exact h

theorem memberChars_cons (k : Key) (v : Layout) {ms : List (Key × Layout)} (h : ms ≠ []) :
    memberChars ((k, v) :: ms) = k.chars ++ ':' :: v.chars ++ ',' :: memberChars ms := by
  rw [memberChars]
  exact h

theorem stops_cons (h : c = ',' ∨ c = ']' ∨ c = '\x7d') (rest : List Char) : Stops (c :: rest) := by
  intro d hd
  obtain rfl : c = d := Option.some.inj hd
  rcases h with rfl | rfl | rfl <;> decide

theorem stops_blanks (b : Blanks) (h : Stops rest) : Stops (b.chars ++ rest) := by
  obtain ⟨cs, hblank⟩ := b
  cases cs with
  | nil => exact h
  | cons c cs =>
    intro d hd
    obtain rfl : c = d := Option.some.inj hd
    have hc := hblank c List.mem_cons_self
    simp only [isBlank, Bool.or_eq_true, decide_eq_true_eq] at hc
    rcases hc with ((rfl | rfl) | rfl) | rfl <;> decide

-- Along the layout, its items and its members; each call leaves the fuel above what is still to
-- read. Blanks behind a value are not taken with it, and make no difference to what is read next.
mutual

theorem scanValue_chars (w : Layout) {fuel : Nat} {rest : List Char} (hrest : Stops rest)
    (hfuel : w.chars.length < fuel) :
    ∃ r, scanValue fuel (w.chars ++ rest) = some (w.value, r) ∧ skipBlank r = skipBlank rest := by
  obtain ⟨fuel, rfl⟩ : ∃ k, fuel = k + 1 := ⟨fuel - 1, by omega⟩
  match w with
  | .null =>
    refine ⟨rest, ?_, rfl⟩
    rw [scanValue, chars, List.cons_append, skipBlank_cons rfl]
    rfl
  | .bool true =>
    refine ⟨rest, ?_, rfl⟩
    rw [scanValue, chars, List.cons_append, skipBlank_cons rfl]
    rfl
  | .bool false =>
    refine ⟨rest, ?_, rfl⟩
    rw [scanValue, chars, List.cons_append, skipBlank_cons rfl]
    rfl
  | .number token =>
    refine ⟨rest, ?_, rfl⟩
    rw [chars, value]
    exact scanValue_numberToken token hrest
  | .string token =>
    refine ⟨rest, ?_, rfl⟩
    rw [chars, value, List.cons_append]
    exact scanValue_string (token.reads rest)
  | .array inside [] =>
    refine ⟨rest, ?_, rfl⟩
    rw [chars, value, itemChars, itemValues, List.append_nil, List.append_assoc, List.cons_append,
      scanValue_bracket, skipBlank_blanks, List.singleton_append, skipBlank_cons rfl]
    rfl
  | .array inside (x :: xs) =>
    refine ⟨rest, ?_, rfl⟩
    rw [chars] at hfuel ⊢
    simp only [List.length_append, List.length_cons, List.length_nil] at hfuel
    have hscan := scanItems_itemChars (x :: xs) (List.cons_ne_nil x xs) rest
      (show (itemChars (x :: xs)).length + 1 < fuel by omega)
    rw [← scanItems_congr (skipBlank_blanks inside _)] at hscan
    rw [value, List.append_assoc, List.append_assoc, List.cons_append, List.singleton_append]
    exact scanValue_items hscan
  | .object inside [] =>
    refine ⟨rest, ?_, rfl⟩
    rw [chars, value, memberChars, memberValues, List.append_nil, List.append_assoc,
      List.cons_append, scanValue_brace, skipBlank_blanks, List.singleton_append,
      skipBlank_cons rfl]
    rfl
  | .object inside (m :: ms) =>
    refine ⟨rest, ?_, rfl⟩
    rw [chars] at hfuel ⊢
    simp only [List.length_append, List.length_cons, List.length_nil] at hfuel
    have hscan := scanMembers_memberChars (m :: ms) (List.cons_ne_nil m ms) rest
      (show (memberChars (m :: ms)).length + 1 < fuel by omega)
    rw [← scanMembers_congr (skipBlank_blanks inside _)] at hscan
    rw [value, List.append_assoc, List.append_assoc, List.cons_append, List.singleton_append]
    exact scanValue_members hscan
  | .padded before w after =>
    rw [chars] at hfuel ⊢
    simp only [List.length_append] at hfuel
    obtain ⟨r, hscan, hr⟩ := scanValue_chars w (stops_blanks after hrest)
      (show w.chars.length < fuel + 1 by omega)
    refine ⟨r, ?_, hr.trans (skipBlank_blanks after rest)⟩
    rw [List.append_assoc, List.append_assoc, scanValue_congr (skipBlank_blanks before _), value]
    exact hscan

theorem scanItems_itemChars (items : List Layout) (hne : items ≠ []) {fuel : Nat}
    (rest : List Char) (hfuel : (itemChars items).length + 1 < fuel) :
    scanItems fuel (itemChars items ++ ']' :: rest) = some (itemValues items, rest) := by
  obtain ⟨fuel, rfl⟩ : ∃ k, fuel = k + 1 := ⟨fuel - 1, by omega⟩
  match items with
  | [] => exact absurd rfl hne
  | [x] =>
    rw [itemChars] at hfuel ⊢
    obtain ⟨r, hx, hr⟩ := scanValue_chars x (stops_cons (.inr (.inl rfl)) rest)
      (show x.chars.length < fuel by omega)
    exact scanItems_close hx (hr.trans (skipBlank_cons rfl rest))
  | x :: y :: ys =>
    rw [itemChars_cons x (List.cons_ne_nil y ys)] at hfuel ⊢
    rw [List.length_append, List.length_cons] at hfuel
    rw [List.append_assoc, List.cons_append]
    obtain ⟨r, hx, hr⟩ := scanValue_chars x (stops_cons (.inl rfl) _)
      (show x.chars.length < fuel by omega)
    exact scanItems_comma hx (hr.trans (skipBlank_cons rfl _))
      (scanItems_itemChars (y :: ys) (List.cons_ne_nil y ys) rest (by omega))

theorem scanMembers_memberChars (members : List (Key × Layout)) (hne : members ≠ []) {fuel : Nat}
    (rest : List Char) (hfuel : (memberChars members).length + 1 < fuel) :
    scanMembers fuel (memberChars members ++ '\x7d' :: rest) =
      some (memberValues members, rest) := by
  obtain ⟨fuel, rfl⟩ : ∃ k, fuel = k + 1 := ⟨fuel - 1, by omega⟩
  match members with
  | [] => exact absurd rfl hne
  | [(k, v)] =>
    rw [memberChars] at hfuel ⊢
    simp only [List.length_append, List.length_cons] at hfuel
    rw [List.append_assoc, List.cons_append]
    obtain ⟨r, hv, hr⟩ := scanValue_chars v (stops_cons (.inr (.inr rfl)) rest)
      (show v.chars.length < fuel by omega)
    exact scanMembers_close k hv (hr.trans (skipBlank_cons rfl rest))
  | (k, v) :: m :: ms =>
    rw [memberChars_cons k v (List.cons_ne_nil m ms)] at hfuel ⊢
    simp only [List.length_append, List.length_cons] at hfuel
    simp only [List.append_assoc, List.cons_append]
    obtain ⟨r, hv, hr⟩ := scanValue_chars v (stops_cons (.inl rfl) _)
      (show v.chars.length < fuel by omega)
    exact scanMembers_comma k hv (hr.trans (skipBlank_cons rfl _))
      (scanMembers_memberChars (m :: ms) (List.cons_ne_nil m ms) rest (by omega))

end

/-- A layout is read as what it is a layout of. -/
theorem read?_text (w : Layout) : read? w.text = some w.value := by
  obtain ⟨r, hscan, hr⟩ := scanValue_chars w stops_nil (Nat.lt_succ_self _)
  rw [List.append_nil] at hscan
  simp only [read?, readFirst?, text, String.toList_ofList, hscan, Option.bind_eq_bind,
    Option.bind_some, hr]
  rfl

end Layout

end Lockdown.Json

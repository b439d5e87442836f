import Courier.Proofs.Json.Numbers

/-!
Both forms of the text of a value, the compact and the indented one, are read back as the value, but
for its binary64 numbers: each of them is read as its own text is.  The forms differ only in the
blanks between tokens, and a reader passes those over; so what is shown here of a form holds of any
in which arrays and objects are written item by item with blanks between.  A value in which no
binary64 number stands is read back exactly.
-/

namespace Courier.Json

open Text (Bytes)
open Text.Utf8 (encode encode_cons encode_append ofString)

variable {depth level n : Nat} {v : Json} {bs blanks rest : Bytes}

/-! ### Forms -/

/-- What stands behind the first of some texts: each of the others behind a comma and a gap. -/
def behindFirst (gap : List Char) (texts : List (List Char)) : List Char :=
  texts.flatMap fun t => ',' :: (gap ++ t)

/-- A form of text, by the blanks that stand before an item at a level, and behind a colon. -/
structure Form where
  text : Nat → Json → List Char
  gap : Nat → List Char
  space : List Char
  blank_gap : ∀ level, Blank (encode (gap level))
  blank_space : Blank (encode space)
  leaf : ∀ level v, Canonical 0 v → text level v = leafText v
  empty_arr : ∀ level, text level (.arr []) = ['[', ']']
  arr : ∀ level v vs, text level (.arr (v :: vs)) = '[' :: (gap (level + 1) ++
    (text (level + 1) v ++ (behindFirst (gap (level + 1)) (vs.map (text (level + 1))) ++
      (gap level ++ [']']))))
  empty_obj : ∀ level, text level (.obj []) = ['{', '}']
  obj : ∀ level m ms, text level (.obj (m :: ms)) = '{' :: (gap (level + 1) ++
    (quoted m.1 ++ ':' :: (space ++ text (level + 1) m.2) ++
      (behindFirst (gap (level + 1)) (ms.map fun m : String × Json =>
        quoted m.1 ++ ':' :: (space ++ text (level + 1) m.2)) ++ (gap level ++ ['}']))))

lemma prettyItems_cons (level : Nat) (v : Json) (vs : List Json) :
    prettyItems level (v :: vs) = newline level ++
      (prettyChars level v ++ behindFirst (newline level) (vs.map (prettyChars level))) := by
  induction vs generalizing v with
  | nil => simp [prettyItems, behindFirst]
  | cons w vs ih => simp [prettyItems, behindFirst, ih w]

lemma prettyMembers_cons (level : Nat) (m : String × Json) (ms : Members) :
    prettyMembers level (m :: ms) = newline level ++
      (quoted m.1 ++ ':' :: ([' '] ++ prettyChars level m.2) ++
        behindFirst (newline level) (ms.map fun m : String × Json =>
          quoted m.1 ++ ':' :: ([' '] ++ prettyChars level m.2))) := by
  induction ms generalizing m with
  | nil => simp [prettyMembers, behindFirst]
  | cons m' ms ih => simp [prettyMembers, behindFirst, ih m']

lemma compactItems_cons (v : Json) (vs : List Json) :
    compactItems (v :: vs) = compactChars v ++ behindFirst [] (vs.map compactChars) := by
  induction vs generalizing v with
  | nil => simp [compactItems, behindFirst]
  | cons w vs ih => simp [compactItems, behindFirst, ih w]

lemma compactMembers_cons (m : String × Json) (ms : Members) :
    compactMembers (m :: ms) = quoted m.1 ++ ':' :: ([] ++ compactChars m.2) ++
      behindFirst [] (ms.map fun m : String × Json =>
        quoted m.1 ++ ':' :: ([] ++ compactChars m.2)) := by
  induction ms generalizing m with
  | nil => simp [compactMembers, behindFirst]
  | cons m' ms ih => simp [compactMembers, behindFirst, ih m']

lemma blank_nil : Blank [] := fun _ hb => absurd hb List.not_mem_nil

/-- The indented form. -/
def indented : Form where
  text := prettyChars
  gap := newline
  space := [' ']
  blank_gap := blank_newline
  blank_space := fun b hb => by rw [List.mem_singleton.mp hb]; rfl
  leaf := fun level v h => by cases h <;> simp [prettyChars]
  empty_arr := fun level => by simp [prettyChars]
  arr := fun level v vs => by simp [prettyChars, prettyItems_cons]
  empty_obj := fun level => by simp [prettyChars]
  obj := fun level m ms => by simp [prettyChars, prettyMembers_cons]

/-- The form without blanks. -/
def dense : Form where
  text := fun _ => compactChars
  gap := fun _ => []
  space := []
  blank_gap := fun _ => blank_nil
  blank_space := blank_nil
  leaf := fun level v h => by cases h <;> simp [compactChars]
  empty_arr := fun level => by simp [compactChars, compactItems]
  arr := fun level v vs => by simp [compactChars, compactItems_cons]
  empty_obj := fun level => by simp [compactChars, compactMembers]
  obj := fun level m ms => by simp [compactChars, compactMembers_cons]

/-! ### Leaves -/

/-- A text begins with a byte that is neither a blank nor the end of an array. -/
def Begins (text : List Char) : Prop :=
  ∃ b bs, encode text = b :: bs ∧ isBlank b = false ∧ b ≠ closeBracket

/-- A reader finds the value in a text, whatever blanks stand before it and whatever follows that a
number does not go on with. -/
def FoundIn (scan : Scan Json) (text : List Char) (v : Json) : Prop :=
  ∀ blanks rest, Blank blanks → Fenced rest →
    scan (blanks ++ (encode text ++ rest)) = .ok (v, rest)

lemma value_of_first {b : UInt8} (hblanks : Blank blanks) (hb : isBlank b = false)
    (hbracket : b ≠ openBracket) (hbrace : b ≠ openBrace) :
    value depth (blanks ++ b :: rest) = leaf b rest :=
  value_of_leaf (by rw [skipBlanks_append hblanks, skipBlanks_of_not hb]) hbracket hbrace

lemma encode_integer (i : Int) : encode (integerText i) =
    if i < 0 then minus :: encode (Number.digitsOf i.natAbs)
    else encode (Number.digitsOf i.natAbs) := by
  unfold integerText
  split <;> rfl

lemma begins_integer (i : Int) : Begins (integerText i) := by
  unfold Begins
  rw [encode_integer]
  split
  · exact ⟨_, _, rfl, rfl, by decide⟩
  · obtain ⟨b, bs, hbs, hb, -⟩ := encode_digitsOf_cons i.natAbs
    exact ⟨b, bs, hbs, (of_isDigit hb).1, ne_of_isDigit hb rfl⟩

/-- **Every integer** of 64 bits is read as it was written. -/
theorem value_integer {i : Int} (hi : (Numeral.int i).Sized) :
    FoundIn (value depth) (integerText i) (.int i) := by
  intro blanks rest hblanks hrest
  obtain ⟨hlow, hhigh⟩ := hi
  rw [encode_integer]
  split
  next hneg =>
    have hread := numeral_negative (n := i.natAbs) (by omega) (by omega) hrest
    rw [List.cons_append, value_of_first hblanks rfl (by decide) (by decide)]
    unfold leaf
    rw [if_neg (by decide), if_neg (by decide), if_neg (by decide), if_pos rfl, hread]
    show Except.ok (Json.num (.int (-(i.natAbs : Int))), rest) = .ok (.num (.int i), rest)
    rw [show -(i.natAbs : Int) = i by omega]
  next hpos =>
    have hread := numeral_digitsOf (n := i.natAbs)
      (show i.natAbs ≤ 18446744073709551615 by omega) hrest
    obtain ⟨b, bs, hbs, hb, -⟩ := encode_digitsOf_cons i.natAbs
    have hblank := (of_isDigit hb).1
    rw [hbs, List.cons_append] at hread ⊢
    rw [value_of_isDigit (by rw [skipBlanks_append hblanks, skipBlanks_of_not hblank]) hb, hread]
    show Except.ok (Json.num (.int (i.natAbs : Int)), rest) = .ok (.num (.int i), rest)
    rw [show (i.natAbs : Int) = i by omega]

/-- A binary64 number is read wherever its text stands as its text alone is read. -/
theorem value_real {x : Number.Binary64} {n : Numeral} (h : ReadAs x n) :
    Begins (leafText (.num (.real x))) ∧
      FoundIn (value depth) (leafText (.num (.real x))) (.num n) := by
  have htext : ofString (compact (.num (.real x))) = encode (leafText (.num (.real x))) := by
    unfold ofString compact
    rw [String.toList_ofList]
    simp [compactChars]
  unfold ReadAs at h
  rw [htext] at h
  obtain ⟨b, bs, hbs, hb, hleaf⟩ := leaf_of_parse (numeric_text numberLayout x) h
  obtain ⟨hbracket, hbrace, hclose⟩ := hb.not_bracket
  have hbs : encode (leafText (.num (.real x))) = b :: bs := hbs
  refine ⟨⟨b, bs, hbs, hb.not_blank, hclose⟩, fun blanks rest hblanks hrest => ?_⟩
  rw [hbs, List.cons_append, value_of_first hblanks hb.not_blank hbracket hbrace]
  exact (leaf_num hleaf).2 rest hrest

lemma value_str (s : String) : FoundIn (value depth) (quoted s) (.str s) := by
  intro blanks rest hblanks _
  rw [encode_quoted, List.cons_append, value_of_first hblanks rfl (by decide) (by decide),
    List.append_assoc, List.singleton_append]
  unfold leaf
  rw [if_neg (by decide), if_neg (by decide), if_neg (by decide), if_neg (by decide),
    if_neg (by decide), if_pos rfl, string_quoted]
  rfl

lemma value_null : FoundIn (value depth) (leafText .null) .null := by
  intro blanks rest hblanks _
  show value depth (blanks ++ 110 :: (nullTail ++ rest)) = _
  rw [value_of_first hblanks rfl (by decide) (by decide)]
  rfl

lemma value_bool (b : Bool) : FoundIn (value depth) (leafText (.bool b)) (.bool b) := by
  intro blanks rest hblanks _
  cases b with
  | true =>
    show value depth (blanks ++ 116 :: (trueTail ++ rest)) = _
    rw [value_of_first hblanks rfl (by decide) (by decide)]
    rfl
  | false =>
    show value depth (blanks ++ 102 :: (falseTail ++ rest)) = _
    rw [value_of_first hblanks rfl (by decide) (by decide)]
    rfl

/-! ### Items and members -/

/-- A blank is nothing with which a number would go on. -/
lemma not_digit_of_isBlank {b : UInt8} (hb : isBlank b = true) :
    isDigit b = false ∧ b ≠ point ∧ isExponentMark b = false := by
  unfold isBlank at hb
  simp only [Bool.or_eq_true, beq_iff_eq] at hb
  rcases hb with ((rfl | rfl) | rfl) | rfl <;> exact ⟨rfl, by decide, rfl⟩

lemma fenced_of_blank {b : UInt8} (hblanks : Blank blanks)
    (hb : isDigit b = false ∧ b ≠ point ∧ isExponentMark b = false) :
    Fenced (blanks ++ b :: rest) := by
  cases blanks with
  | nil => exact fenced_cons hb
  | cons c blanks => exact fenced_cons (not_digit_of_isBlank (hblanks c List.mem_cons_self))

lemma encode_behindFirst_cons (gap : List Char) (t : List Char) (ts : List (List Char)) :
    encode (behindFirst gap (t :: ts)) =
      comma :: (encode gap ++ (encode t ++ encode (behindFirst gap ts))) := by
  unfold behindFirst
  rw [List.flatMap_cons, List.cons_append, encode_cons, List.append_assoc, encode_append,
    encode_append]
  rfl

/-- Each text takes a byte at least. -/
lemma length_le_behindFirst (gap : List Char) (ts : List (List Char)) :
    ts.length ≤ (encode (behindFirst gap ts)).length := by
  induction ts with
  | nil => exact Nat.zero_le _
  | cons t ts ih =>
    rw [encode_behindFirst_cons]
    simp only [List.length_cons, List.length_append]
    omega

variable {gap : List Char} {text : Json → List Char} {back : Json → Json}

lemma skipBlanks_begins {t : List Char} (hblanks : Blank blanks) (ht : Begins t) (rest : Bytes) :
    ∃ b bs, skipBlanks (blanks ++ (encode t ++ rest)) = b :: bs ∧ b :: bs = encode t ++ rest ∧
      b ≠ closeBracket := by
  obtain ⟨b, bs, hbs, hb, hne⟩ := ht
  refine ⟨b, bs ++ rest, ?_, ?_, hne⟩
  · rw [skipBlanks_append hblanks, hbs, List.cons_append, skipBlanks_of_not hb]
  · rw [hbs, List.cons_append]

/-- **The items of an array** are read from their texts. -/
theorem more_items {item : Scan Json} (hgap : Blank (encode gap)) (hblanks : Blank blanks)
    (v : Json) (vs : List Json)
    (hall : ∀ w ∈ v :: vs, Begins (text w) ∧ FoundIn item (text w) (back w)) {fuel : Nat}
    (hfuel : vs.length < fuel) :
    items.more item fuel (encode (text v) ++ (encode (behindFirst gap (vs.map text)) ++
      (blanks ++ closeBracket :: rest))) = .ok ((v :: vs).map back, rest) := by
  induction vs generalizing v fuel with
  | nil =>
    obtain ⟨fuel, rfl⟩ := Nat.exists_eq_succ_of_ne_zero (Nat.ne_of_gt hfuel)
    have hfence : Fenced (blanks ++ closeBracket :: rest) :=
      fenced_of_blank hblanks ⟨rfl, by decide, rfl⟩
    have hread := (hall v List.mem_cons_self).2 [] _ blank_nil hfence
    have hend : items item (fuel + 1) false (blanks ++ closeBracket :: rest) = .ok ([], rest) := by
      unfold items
      rw [skipBlanks_append hblanks, skipBlanks_of_not rfl]
      exact if_pos rfl
    show items.more item (fuel + 1) (encode (text v) ++ (blanks ++ closeBracket :: rest)) = _
    unfold items.more
    rw [List.nil_append] at hread
    rw [hread]
    dsimp only
    rw [hend]
    rfl
  | cons w vs ih =>
    obtain ⟨fuel, rfl⟩ := Nat.exists_eq_succ_of_ne_zero (Nat.ne_of_gt (Nat.zero_lt_of_lt hfuel))
    have hrest := ih w (fun x hx => hall x (List.mem_cons_of_mem _ hx))
      (Nat.lt_of_succ_lt_succ hfuel)
    have hw := hall w (List.mem_cons_of_mem _ List.mem_cons_self)
    rw [List.map_cons, encode_behindFirst_cons, List.cons_append, List.append_assoc,
      List.append_assoc]
    obtain ⟨b, bs, hskip, hbs, hne⟩ := skipBlanks_begins hgap hw.1
      (encode (behindFirst gap (vs.map text)) ++ (blanks ++ closeBracket :: rest))
    have hread := (hall v List.mem_cons_self).2 [] (comma :: (encode gap ++ (encode (text w) ++
      (encode (behindFirst gap (vs.map text)) ++ (blanks ++ closeBracket :: rest))))) blank_nil
      (fenced_cons ⟨rfl, by decide, rfl⟩)
    have hnext : items item (fuel + 1) false (comma :: (encode gap ++ (encode (text w) ++
        (encode (behindFirst gap (vs.map text)) ++ (blanks ++ closeBracket :: rest))))) =
        .ok ((w :: vs).map back, rest) := by
      unfold items
      rw [skipBlanks_of_not rfl]
      dsimp only
      rw [if_neg (by decide), if_neg Bool.false_ne_true, if_pos rfl, hskip]
      dsimp only
      rw [if_neg hne, hbs]
      exact hrest
    unfold items.more
    rw [List.nil_append] at hread
    rw [hread]
    dsimp only
    rw [hnext]
    rfl

/-- **The members of an object** are read from their texts, from behind the first quote on. -/
theorem more_members {value : Scan Json} {space : List Char} (hgap : Blank (encode gap))
    (hspace : Blank (encode space)) (hblanks : Blank blanks) (m : String × Json) (ms : Members)
    (hall : ∀ m' ∈ m :: ms, FoundIn value (text m'.2) (back m'.2)) {fuel : Nat}
    (hfuel : ms.length < fuel) :
    members.more value fuel (encode (m.1.toList.flatMap escapeChar) ++
      quote :: colon :: (encode space ++ (encode (text m.2) ++
        (encode (behindFirst gap (ms.map fun m : String × Json =>
          quoted m.1 ++ ':' :: (space ++ text m.2))) ++ (blanks ++ closeBrace :: rest))))) =
      .ok ((m :: ms).map fun m => (m.1, back m.2), rest) := by
  have hkey : ∀ (m : String × Json) (rest : Bytes),
      encode (quoted m.1 ++ ':' :: (space ++ text m.2)) ++ rest =
        quote :: (encode (m.1.toList.flatMap escapeChar) ++
          quote :: colon :: (encode space ++ (encode (text m.2) ++ rest))) := by
    intro m rest
    rw [encode_append, encode_quoted, encode_cons, encode_append]
    simp
    rfl
  have hstep : ∀ {fuel : Nat} {m : String × Json} {ms : Members} {bs : Bytes},
      FoundIn value (text m.2) (back m.2) → Fenced bs →
      members value fuel false bs = .ok (ms, rest) →
      members.more value fuel (encode (m.1.toList.flatMap escapeChar) ++
        quote :: colon :: (encode space ++ (encode (text m.2) ++ bs))) =
          .ok ((m.1, back m.2) :: ms, rest) := by
    intro fuel m ms bs hm hbs hnext
    have hcolon : afterColon (colon :: (encode space ++ (encode (text m.2) ++ bs))) =
        .ok (encode space ++ (encode (text m.2) ++ bs)) := by
      unfold afterColon
      rw [skipBlanks_of_not rfl]
      exact if_pos rfl
    unfold members.more
    rw [string_quoted]
    dsimp only
    rw [hcolon]
    dsimp only
    rw [hm _ _ hspace hbs]
    dsimp only
    rw [hnext]
  induction ms generalizing m fuel with
  | nil =>
    obtain ⟨fuel, rfl⟩ := Nat.exists_eq_succ_of_ne_zero (Nat.ne_of_gt hfuel)
    refine hstep (hall m List.mem_cons_self) ?_ ?_
    · exact fenced_of_blank hblanks ⟨rfl, by decide, rfl⟩
    · show members value (fuel + 1) false (blanks ++ closeBrace :: rest) = _
      unfold members
      rw [skipBlanks_append hblanks, skipBlanks_of_not rfl]
      exact if_pos rfl
  | cons m' ms ih =>
    obtain ⟨fuel, rfl⟩ := Nat.exists_eq_succ_of_ne_zero (Nat.ne_of_gt (Nat.zero_lt_of_lt hfuel))
    have hrest := ih m' (fun x hx => hall x (List.mem_cons_of_mem _ hx))
      (Nat.lt_of_succ_lt_succ hfuel)
    rw [List.map_cons, encode_behindFirst_cons, List.cons_append, List.append_assoc,
      List.append_assoc]
    refine hstep (hall m List.mem_cons_self) (fenced_cons ⟨rfl, by decide, rfl⟩) ?_
    unfold members
    rw [skipBlanks_of_not rfl]
    dsimp only
    rw [if_neg (by decide), if_neg Bool.false_ne_true, if_pos rfl, skipBlanks_append hgap, hkey,
      skipBlanks_of_not rfl]
    dsimp only
    rw [if_pos rfl]
    exact hrest

/-! ### Values -/

lemma value_empty_arr : FoundIn (value (depth + 1)) ['[', ']'] (.arr []) := by
  intro blanks rest hblanks _
  show value (depth + 1) (blanks ++ openBracket :: closeBracket :: rest) = _
  unfold value
  rw [skipBlanks_append hblanks, skipBlanks_of_not rfl]
  dsimp only
  rw [if_pos rfl]
  unfold items
  rw [skipBlanks_of_not rfl]
  dsimp only
  rw [if_pos rfl]
  rfl

lemma value_empty_obj : FoundIn (value (depth + 1)) ['{', '}'] (.obj []) := by
  intro blanks rest hblanks _
  show value (depth + 1) (blanks ++ openBrace :: closeBrace :: rest) = _
  unfold value
  rw [skipBlanks_append hblanks, skipBlanks_of_not rfl]
  dsimp only
  rw [if_neg (by decide), if_pos rfl]
  unfold members
  rw [skipBlanks_of_not rfl]
  dsimp only
  rw [if_pos rfl]
  rfl

namespace Form

variable (form : Form)

/-- An array is read from its text, if its items are. -/
lemma found_arr {vs : List Json} (hvs : vs ≠ [])
    (hall : ∀ w ∈ vs, Begins (form.text (level + 1) w) ∧
      FoundIn (value depth) (form.text (level + 1) w) (back w)) :
    FoundIn (value (depth + 1)) (form.text level (.arr vs)) (.arr (vs.map back)) := by
  obtain ⟨v, vs, rfl⟩ := List.exists_cons_of_ne_nil hvs
  intro blanks rest hblanks _
  have htext : encode (form.text level (.arr (v :: vs))) ++ rest =
      openBracket :: (encode (form.gap (level + 1)) ++ (encode (form.text (level + 1) v) ++
        (encode (behindFirst (form.gap (level + 1)) (vs.map (form.text (level + 1)))) ++
          (encode (form.gap level) ++ closeBracket :: rest)))) := by
    rw [form.arr, encode_cons]
    simp only [encode_append, List.append_assoc]
    rfl
  obtain ⟨b, bs, hskip, hbs, hne⟩ := skipBlanks_begins (form.blank_gap (level + 1))
    (hall v List.mem_cons_self).1
    (encode (behindFirst (form.gap (level + 1)) (vs.map (form.text (level + 1)))) ++
      (encode (form.gap level) ++ closeBracket :: rest))
  have hlength := length_le_behindFirst (form.gap (level + 1)) (vs.map (form.text (level + 1)))
  rw [List.length_map] at hlength
  rw [htext]
  unfold value
  rw [skipBlanks_append hblanks, skipBlanks_of_not rfl]
  dsimp only
  rw [if_pos rfl]
  unfold items
  rw [hskip]
  dsimp only
  rw [if_neg hne, if_pos rfl, hbs, more_items (form.blank_gap _) (form.blank_gap _) v vs hall]
  · rfl
  · simp only [List.length_append, List.length_cons]
    omega

/-- An object is read from its text, if the values of its members are. -/
lemma found_obj {ms : Members} (hms : ms ≠ []) (hordered : ms.Ordered)
    (hall : ∀ m ∈ ms, FoundIn (value depth) (form.text (level + 1) m.2) (back m.2)) :
    FoundIn (value (depth + 1)) (form.text level (.obj ms))
      (.obj (ms.map fun m => (m.1, back m.2))) := by
  obtain ⟨m, ms, rfl⟩ := List.exists_cons_of_ne_nil hms
  intro blanks rest hblanks _
  have htext : encode (form.text level (.obj (m :: ms))) ++ rest =
      openBrace :: (encode (form.gap (level + 1)) ++
        quote :: (encode (m.1.toList.flatMap escapeChar) ++
          quote :: colon :: (encode form.space ++ (encode (form.text (level + 1) m.2) ++
            (encode (behindFirst (form.gap (level + 1)) (ms.map fun m : String × Json =>
              quoted m.1 ++ ':' :: (form.space ++ form.text (level + 1) m.2))) ++
                (encode (form.gap level) ++ closeBrace :: rest)))))) := by
    rw [form.obj, encode_cons]
    simp only [encode_append, encode_cons, encode_quoted, List.append_assoc, List.cons_append]
    rfl
  have hlength := length_le_behindFirst (form.gap (level + 1)) (ms.map fun m : String × Json =>
    quoted m.1 ++ ':' :: (form.space ++ form.text (level + 1) m.2))
  rw [List.length_map] at hlength
  rw [htext]
  unfold value
  rw [skipBlanks_append hblanks, skipBlanks_of_not rfl]
  dsimp only
  rw [if_neg (by decide), if_pos rfl]
  unfold members
  rw [skipBlanks_append (form.blank_gap _), skipBlanks_of_not rfl]
  dsimp only
  rw [if_neg (by decide), if_pos rfl, if_pos rfl,
    more_members (form.blank_gap _) form.blank_space (form.blank_gap _) m ms hall]
  · have hkeys : Members.Ordered ((m :: ms).map fun m => (m.1, back m.2)) :=
      List.pairwise_map.mpr hordered
    show Except.ok (object ((m :: ms).map fun m => (m.1, back m.2)), rest) = _
    unfold object
    rw [ofList_of_ordered hkeys]
  · simp only [List.length_append, List.length_cons]
    omega

/-- **Every value** is read from its text in any form, its binary64 numbers as their texts are. -/
theorem found {f : Number.Binary64 → Numeral} (h : Canonical depth v)
    (hreal : ∀ x, Holds (.num (.real x)) v → ReadAs x (f x)) (level : Nat) :
    Begins (form.text level v) ∧ FoundIn (value depth) (form.text level v) (mapReals f v) := by
  induction h generalizing level with
  | null =>
    rw [form.leaf level _ .null]
    exact ⟨⟨_, _, rfl, rfl, by decide⟩, value_null⟩
  | bool b =>
    rw [form.leaf level _ (.bool b)]
    refine ⟨?_, value_bool b⟩
    cases b <;> exact ⟨_, _, rfl, rfl, by decide⟩
  | @num depth n sized =>
    rw [form.leaf level _ (.num sized)]
    cases n with
    | int i => exact ⟨begins_integer i, value_integer sized⟩
    | real x => exact value_real (hreal x .self)
  | str s =>
    rw [form.leaf level _ (.str s)]
    exact ⟨⟨_, _, encode_quoted s, rfl, by decide⟩, value_str s⟩
  | @arr depth vs items ih =>
    have hall : ∀ w ∈ vs, Begins (form.text (level + 1) w) ∧
        FoundIn (value depth) (form.text (level + 1) w) (mapReals f w) :=
      fun w hw => ih w hw (fun x hx => hreal x (.item hw hx)) (level + 1)
    rw [mapReals, mapRealsItems_eq]
    cases vs with
    | nil =>
      rw [form.empty_arr]
      exact ⟨⟨_, _, rfl, rfl, by decide⟩, value_empty_arr⟩
    | cons w ws =>
      refine ⟨?_, form.found_arr (List.cons_ne_nil w ws) hall⟩
      rw [form.arr]
      exact ⟨_, _, encode_cons _ _, rfl, by decide⟩
  | @obj depth ms ordered members ih =>
    have hall : ∀ m ∈ ms, FoundIn (value depth) (form.text (level + 1) m.2) (mapReals f m.2) :=
      fun m hm => (ih m hm (fun x hx => hreal x (.member hm hx)) (level + 1)).2
    rw [mapReals, mapRealsMembers_eq]
    cases ms with
    | nil =>
      rw [form.empty_obj]
      exact ⟨⟨_, _, rfl, rfl, by decide⟩, value_empty_obj⟩
    | cons m ms =>
      refine ⟨?_, form.found_obj (List.cons_ne_nil m ms) ordered hall⟩
      rw [form.obj]
      exact ⟨_, _, encode_cons _ _, rfl, by decide⟩

/-- A text alone, but for blanks behind it, is read as the value. -/
theorem parse_text {f : Number.Binary64 → Numeral} (h : Canonical maxDepth v)
    (hreal : ∀ x, Holds (.num (.real x)) v → ReadAs x (f x)) (hblanks : Blank blanks) :
    parse (encode (form.text 0 v) ++ blanks) = .ok (mapReals f v) := by
  have hfence : Fenced blanks := by
    cases blanks with
    | nil => exact fun b hb => by cases hb
    | cons b blanks =>
      exact fenced_of_blank blank_nil (not_digit_of_isBlank (hblanks b List.mem_cons_self))
  have hend : skipBlanks blanks = [] := by
    rw [← List.append_nil blanks, skipBlanks_append hblanks]
    rfl
  have hread := (form.found h hreal 0).2 [] blanks blank_nil hfence
  exact parse_eq_ok_iff.mpr ⟨blanks, hread, hend⟩

/-- A text alone is read as the value whose text it is, if its binary64 numbers are legible. -/
theorem parse_text_of_legible (h : Canonical maxDepth v) (legible : Legible v)
    (hblanks : Blank blanks) : parse (encode (form.text 0 v) ++ blanks) = .ok v := by
  have hread := form.parse_text h legible hblanks
  rwa [(mapReals_eq_self_iff h).mpr fun _ _ => rfl] at hread

end Form

lemma Exact.legible (hexact : Exact v) : Legible v := fun x hx => absurd hx (hexact x)

/-- The indented text of a value, with a line end behind it. -/
theorem parse_pretty (h : Canonical maxDepth v) (hexact : Exact v) :
    parse (ofString (pretty v ++ "\n")) = .ok v := by
  have htext : ofString (pretty v ++ "\n") = encode (indented.text 0 v) ++ [10] := by
    unfold ofString pretty
    rw [String.toList_append, String.toList_ofList, encode_append]
    rfl
  rw [htext]
  exact indented.parse_text_of_legible h hexact.legible fun b hb => by
    rw [List.mem_singleton.mp hb]
    rfl

lemma ofString_compact (v : Json) : ofString (compact v) = encode (dense.text 0 v) ++ [] := by
  unfold ofString compact
  rw [String.toList_ofList, List.append_nil]
  rfl

/-- **The compact text** of a value is read as the value with its binary64 numbers as their texts
are read. -/
theorem parse_compact_reals {f : Number.Binary64 → Numeral} (h : Canonical maxDepth v)
    (hreal : ∀ x, Holds (.num (.real x)) v → ReadAs x (f x)) :
    parse (ofString (compact v)) = .ok (mapReals f v) := by
  rw [ofString_compact]
  exact dense.parse_text h hreal blank_nil

theorem parse_compact_of_legible (h : Canonical maxDepth v) (legible : Legible v) :
    parse (ofString (compact v)) = .ok v := by
  rw [ofString_compact]
  exact dense.parse_text_of_legible h legible blank_nil

theorem parse_compact (h : Canonical maxDepth v) (hexact : Exact v) :
    parse (ofString (compact v)) = .ok v := parse_compact_of_legible h hexact.legible

end Courier.Json

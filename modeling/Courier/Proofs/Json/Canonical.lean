import Courier.Json.Reader
import Courier.Proofs.Failing
import Mathlib.Data.List.Induction
import Mathlib.Tactic.Lemma

/-!
Values in the form in which reading gives them: the keys of an object ascend, so that each stands
there once, integers have 64 bits, and arrays and objects are nested no deeper than a reader goes.
Whatever was read is in this form.
-/

namespace Courier.Json

open Text (Bytes)

/-! ### Members by ascending keys -/

section Members

variable {k k' : String} {v : Json} {m : String × Json} {ms ps : Members}

lemma mem_insert (h : m ∈ Members.insert k v ms) : m = (k, v) ∨ m ∈ ms := by
  induction ms with
  | nil => exact .inl (List.mem_singleton.mp h)
  | cons m' ms ih =>
    unfold Members.insert at h
    split at h
    · exact List.mem_cons.mp h
    split at h
    · exact (List.mem_cons.mp h).imp_right (List.mem_cons_of_mem _)
    · rcases List.mem_cons.mp h with rfl | h
      · exact .inr List.mem_cons_self
      · exact (ih h).imp_right (List.mem_cons_of_mem _)

lemma mem_insert_self : (k, v) ∈ Members.insert k v ms := by
  induction ms with
  | nil => exact List.mem_singleton_self _
  | cons m' ms ih =>
    unfold Members.insert
    split
    · exact List.mem_cons_self
    split
    · exact List.mem_cons_self
    · exact List.mem_cons_of_mem _ ih

lemma mem_insert_of_mem (h : m ∈ ms) (hne : m.1 ≠ k) : m ∈ Members.insert k v ms := by
  induction ms with
  | nil => cases h
  | cons m' ms ih =>
    unfold Members.insert
    split
    · exact List.mem_cons_of_mem _ h
    rcases List.mem_cons.mp h with rfl | h
    · rw [if_neg (Ne.symm hne)]
      exact List.mem_cons_self
    · split
      · exact List.mem_cons_of_mem _ h
      · exact List.mem_cons_of_mem _ (ih h)

/-- A member is put at its place. -/
lemma ordered_insert (h : ms.Ordered) : (Members.insert k v ms).Ordered := by
  induction ms with
  | nil => exact List.pairwise_singleton _ _
  | cons m' ms ih =>
    obtain ⟨hm', hms⟩ := List.pairwise_cons.mp h
    unfold Members.insert
    split
    next hlt =>
      refine List.pairwise_cons.mpr ⟨fun m hm => ?_, h⟩
      rcases List.mem_cons.mp hm with rfl | hm
      · exact hlt
      · exact String.lt_trans hlt (hm' m hm)
    next hnot =>
      split
      next heq => exact List.pairwise_cons.mpr ⟨fun m hm => heq ▸ hm' m hm, hms⟩
      next hne =>
        refine List.pairwise_cons.mpr ⟨fun m hm => ?_, ih hms⟩
        rcases mem_insert hm with rfl | hm
        · exact Std.lt_of_le_of_ne (String.not_lt.mp hnot) (Ne.symm hne)
        · exact hm' m hm

/-- A member whose key comes after all others is put at the end. -/
lemma insert_eq_append (h : ∀ m ∈ ms, m.1 < k) : Members.insert k v ms = ms ++ [(k, v)] := by
  induction ms with
  | nil => rfl
  | cons m' ms ih =>
    have hlt := h m' List.mem_cons_self
    have hne : k ≠ m'.1 := fun he => String.lt_irrefl _ (he ▸ hlt)
    unfold Members.insert
    rw [if_neg (String.lt_asymm hlt), if_neg hne, ih fun m hm => h m (List.mem_cons_of_mem _ hm)]
    rfl

lemma ofList_append (ps : List (String × Json)) (p : String × Json) :
    Members.ofList (ps ++ [p]) = Members.insert p.1 p.2 (Members.ofList ps) := by
  unfold Members.ofList
  rw [List.foldl_append]
  rfl

theorem ordered_ofList (ps : List (String × Json)) : (Members.ofList ps).Ordered := by
  induction ps using List.reverseRecOn with
  | nil => exact List.Pairwise.nil
  | append_singleton ps p ih =>
    rw [ofList_append]
    exact ordered_insert ih

lemma mem_of_mem_ofList (h : m ∈ Members.ofList ps) : m ∈ ps := by
  induction ps using List.reverseRecOn with
  | nil => exact absurd h List.not_mem_nil
  | append_singleton ps p ih =>
    rw [ofList_append] at h
    rcases mem_insert h with rfl | h
    · exact List.mem_append_right _ (List.mem_singleton_self _)
    · exact List.mem_append_left _ (ih h)

/-- No member is lost if each key is given once. -/
lemma subset_ofList (h : (ps.map Prod.fst).Nodup) : ps ⊆ Members.ofList ps := by
  induction ps using List.reverseRecOn with
  | nil => exact List.nil_subset _
  | append_singleton ps p ih =>
    rw [List.map_append, List.nodup_append] at h
    obtain ⟨hps, -, hdisjoint⟩ := h
    rw [ofList_append]
    intro m hm
    rcases List.mem_append.mp hm with hm | hm
    · refine mem_insert_of_mem (ih hps hm) ?_
      exact hdisjoint _ (List.mem_map_of_mem hm) _ (List.mem_singleton_self _)
    · rw [List.mem_singleton.mp hm]
      exact mem_insert_self

/-- Members by ascending keys are at their places. -/
theorem ofList_of_ordered (h : ms.Ordered) : Members.ofList ms = ms := by
  induction ms using List.reverseRecOn with
  | nil => rfl
  | append_singleton ms m ih =>
    obtain ⟨hms, -, hlt⟩ := List.pairwise_append.mp h
    rw [ofList_append, ih hms]
    exact insert_eq_append fun m' hm' => hlt m' hm' m (List.mem_singleton_self _)

lemma nodup_of_ordered (h : ms.Ordered) : (ms.map Prod.fst).Nodup := by
  refine List.Pairwise.map _ (fun a b hlt heq => ?_) h
  exact String.lt_irrefl _ (heq ▸ hlt)

lemma mem_of_get? (h : ms.get? k = some v) : (k, v) ∈ ms := by
  obtain ⟨m, hm, rfl⟩ := Option.map_eq_some_iff.mp h
  obtain rfl : m.1 = k := by simpa using List.find?_some hm
  exact List.mem_of_find?_eq_some hm

lemma get?_cons (m : String × Json) : Members.get? (m :: ms) k =
    if m.1 = k then some m.2 else ms.get? k := by
  unfold Members.get?
  by_cases h : m.1 = k <;> simp [h]

lemma get?_insert : (Members.insert k v ms).get? k' = if k = k' then some v else ms.get? k' := by
  induction ms with
  | nil => exact get?_cons _
  | cons m ms ih =>
    unfold Members.insert
    split
    next => exact get?_cons _
    next =>
      split
      next heq =>
        rw [get?_cons, get?_cons, ← heq]
        by_cases hk : k = k' <;> simp [hk]
      next hne =>
        rw [get?_cons, get?_cons, ih]
        by_cases hk : m.1 = k'
        · rw [if_pos hk, if_pos hk, if_neg (hk ▸ hne)]
        · rw [if_neg hk, if_neg hk]

/-- The last member of a key is the one that counts. -/
lemma get?_ofList (ps : Members) : (Members.ofList ps).get? k = Members.get? ps.reverse k := by
  induction ps using List.reverseRecOn with
  | nil => rfl
  | append_singleton ps p ih =>
    rw [ofList_append, get?_insert, ih, List.reverse_append, List.reverse_singleton,
      List.singleton_append, get?_cons]

end Members

/-! ### The form of what is read -/

/-- An integer has 64 bits, with a sign or without. -/
def Numeral.Sized : Numeral → Prop
  | .int i => -9223372036854775808 ≤ i ∧ i ≤ 18446744073709551615
  | .real _ => True

/-- A value in the form that reading gives, nested at most `depth` deep. -/
inductive Canonical : (depth : Nat) → Json → Prop
  | null {depth : Nat} : Canonical depth .null
  | bool {depth : Nat} (b : Bool) : Canonical depth (.bool b)
  | num {depth : Nat} {n : Numeral} (sized : n.Sized) : Canonical depth (.num n)
  | str {depth : Nat} (s : String) : Canonical depth (.str s)
  | arr {depth : Nat} {vs : List Json} (items : ∀ v ∈ vs, Canonical depth v) :
      Canonical (depth + 1) (.arr vs)
  | obj {depth : Nat} {ms : Members} (ordered : ms.Ordered)
      (members : ∀ m ∈ ms, Canonical depth m.2) : Canonical (depth + 1) (.obj ms)

/-- The value `x` stands somewhere in a value. -/
inductive Holds (x : Json) : Json → Prop
  | self : Holds x x
  | item {v : Json} {vs : List Json} (mem : v ∈ vs) (holds : Holds x v) : Holds x (.arr vs)
  | member {m : String × Json} {ms : Members} (mem : m ∈ ms) (holds : Holds x m.2) :
      Holds x (.obj ms)

/-- No binary64 number stands in a value. -/
def Exact (v : Json) : Prop := ∀ x, ¬Holds (.num (.real x)) v

/-! ### Depth -/

lemma depthItems_le_iff {vs : List Json} {n : Nat} :
    depth.depthItems vs ≤ n ↔ ∀ v ∈ vs, v.depth ≤ n := by
  induction vs with
  | nil => exact iff_of_true (Nat.zero_le n) fun _ => nofun
  | cons v vs ih => rw [depth.depthItems, Nat.max_le, ih, List.forall_mem_cons]

lemma depthMembers_le_iff {ms : Members} {n : Nat} :
    depth.depthMembers ms ≤ n ↔ ∀ m ∈ ms, m.2.depth ≤ n := by
  induction ms with
  | nil => exact iff_of_true (Nat.zero_le n) fun _ => nofun
  | cons m ms ih => rw [depth.depthMembers, Nat.max_le, ih, List.forall_mem_cons]

lemma Canonical.depth_le {n : Nat} {v : Json} (h : Canonical n v) : v.depth ≤ n := by
  induction h with
  | null | bool | num | str => exact Nat.zero_le _
  | arr items ih =>
    rw [depth, Nat.add_comm]
    exact Nat.succ_le_succ (depthItems_le_iff.mpr ih)
  | obj ordered members ih =>
    rw [depth, Nat.add_comm]
    exact Nat.succ_le_succ (depthMembers_le_iff.mpr ih)

/-- The form is the same at every bound: the depth alone tells which bounds hold. -/
lemma Canonical.of_depth_le {d n : Nat} {v : Json} (h : Canonical d v) (hn : v.depth ≤ n) :
    Canonical n v := by
  induction h generalizing n with
  | null => exact .null
  | bool b => exact .bool b
  | num sized => exact .num sized
  | str s => exact .str s
  | arr items ih =>
    rw [depth, Nat.add_comm] at hn
    obtain ⟨k, rfl⟩ := Nat.exists_eq_succ_of_ne_zero (Nat.ne_of_gt (Nat.zero_lt_of_lt hn))
    exact .arr fun v hv => ih v hv (depthItems_le_iff.mp (Nat.le_of_succ_le_succ hn) v hv)
  | obj ordered members ih =>
    rw [depth, Nat.add_comm] at hn
    obtain ⟨k, rfl⟩ := Nat.exists_eq_succ_of_ne_zero (Nat.ne_of_gt (Nat.zero_lt_of_lt hn))
    exact .obj ordered fun m hm =>
      ih m hm (depthMembers_le_iff.mp (Nat.le_of_succ_le_succ hn) m hm)

/-! ### Values without binary64 numbers -/

/-- A value of the form in which no binary64 number stands. -/
def Plain (depth : Nat) (v : Json) : Prop := Canonical depth v ∧ Exact v

section Plain

variable {depth n : Nat}

lemma plain_null : Plain depth .null := ⟨.null, nofun⟩

lemma plain_str (s : String) : Plain depth (.str s) := ⟨.str s, nofun⟩

lemma plain_nat (h : n < 18446744073709551616) : Plain depth (.nat n) :=
  ⟨.num ⟨by omega, by omega⟩, nofun⟩

lemma plain_arr {vs : List Json} (h : ∀ v ∈ vs, Plain depth v) : Plain (depth + 1) (.arr vs) := by
  refine ⟨.arr fun v hv => (h v hv).1, ?_⟩
  rintro x (_ | ⟨hv, hx⟩)
  exact (h _ hv).2 x hx

lemma plain_object {ps : List (String × Json)} (h : ∀ m ∈ ps, Plain depth m.2) :
    Plain (depth + 1) (object ps) := by
  refine ⟨.obj (ordered_ofList ps) fun m hm => (h m (mem_of_mem_ofList hm)).1, ?_⟩
  rintro x (_ | _ | ⟨hm, hx⟩)
  exact (h _ (mem_of_mem_ofList hm)).2 x hx

end Plain

/-! ### Reading -/

variable {α : Type} {depth fuel n : Nat} {first : Bool} {bs rest : Bytes} {v : Json}

lemma gather_le {n : Nat} (ds : List Nat) (h : n ≤ maxUnsigned) : (gather n ds).1 ≤ maxUnsigned := by
  induction ds generalizing n with
  | nil => exact h
  | cons d ds ih =>
    unfold gather
    split
    next => exact h
    next hle => exact ih (Nat.not_lt.mp hle)

lemma sized_of_numeral? {d : Digits} {n : Numeral} (h : d.numeral? = some n) : n.Sized := by
  have hreal : ∀ {o : Option Number.Binary64}, o.map Numeral.real = some n → n.Sized := by
    intro o ho
    obtain ⟨x, -, rfl⟩ := Option.map_eq_some_iff.mp ho
    trivial
  have hle : (gather 0 d.whole).1 ≤ 18446744073709551615 := gather_le d.whole (Nat.zero_le _)
  unfold Digits.numeral? at h
  dsimp only at h
  split at h
  · split at h
    · obtain rfl := Option.some.inj h
      exact ⟨by omega, by omega⟩
    split at h
    · exact hreal h
    next hsmall =>
      obtain rfl := Option.some.inj h
      have hpow : Nat.pow 2 63 = 9223372036854775808 := rfl
      rw [hpow] at hsmall
      exact ⟨by omega, by omega⟩
  · exact hreal h

lemma sized_of_numeral {negative : Bool} {n : Numeral} (h : numeral negative bs = .ok (n, rest)) :
    n.Sized := by
  unfold numeral at h
  cases hd : digits negative bs with
  | error s =>
    rw [hd] at h
    cases h
  | ok p =>
    rw [hd] at h
    dsimp only [bind, Except.bind] at h
    cases hn : p.1.numeral? with
    | none =>
      rw [hn] at h
      cases h
    | some n' =>
      rw [hn] at h
      cases h
      exact sized_of_numeral? hn

/-- What a wrapped reader finds is what the reader finds, wrapped. -/
lemma wrap_eq_ok {f : α → Json} {r : Except Stop (α × Bytes)} (h : wrap f r = .ok (v, rest)) :
    ∃ a, r = .ok (a, rest) ∧ v = f a := by
  cases r with
  | error s => cases h
  | ok p =>
    cases h
    exact ⟨p.1, rfl, rfl⟩

lemma wordValue_eq_ok {w : Json} {tail : List UInt8} (h : wordValue w tail bs = .ok (v, rest)) :
    v = w := by
  unfold wordValue at h
  split at h <;> cases h
  rfl

lemma canonical_leaf {b : UInt8} (h : leaf b bs = .ok (v, rest)) : Canonical depth v := by
  unfold leaf at h
  split at h
  · exact wordValue_eq_ok h ▸ .null
  split at h
  · exact wordValue_eq_ok h ▸ .bool true
  split at h
  · exact wordValue_eq_ok h ▸ .bool false
  split at h
  · obtain ⟨n, hn, rfl⟩ := wrap_eq_ok h
    exact .num (sized_of_numeral hn)
  split at h
  · obtain ⟨n, hn, rfl⟩ := wrap_eq_ok h
    exact .num (sized_of_numeral hn)
  split at h
  · obtain ⟨s, -, rfl⟩ := wrap_eq_ok h
    exact .str s
  · cases h

/-- What stands before an item: nothing before the first, else a comma. -/
def Led (first : Bool) (bs item : Bytes) : Prop :=
  if first then skipBlanks bs = item else ∃ r, skipBlanks bs = comma :: r ∧ skipBlanks r = item

/-- An array ends, or it goes on with an item. -/
lemma items_cases {item : Scan Json} {vs : List Json}
    (h : items item (fuel + 1) first bs = .ok (vs, rest)) :
    vs = [] ∧ skipBlanks bs = closeBracket :: rest ∨
      ∃ b t v r vs', Led first bs (b :: t) ∧ b ≠ closeBracket ∧ item (b :: t) = .ok (v, r) ∧
        items item fuel false r = .ok (vs', rest) ∧ vs = v :: vs' := by
  have hmore : ∀ {bs : Bytes}, items.more item fuel bs = .ok (vs, rest) →
      ∃ v r vs', item bs = .ok (v, r) ∧ items item fuel false r = .ok (vs', rest) ∧
        vs = v :: vs' := by
    intro bs hm
    unfold items.more at hm
    split at hm
    next => cases hm
    next hv =>
      split at hm
      next => cases hm
      next hvs =>
        cases hm
        exact ⟨_, _, _, hv, hvs, rfl⟩
  unfold items at h
  split at h
  next => cases h
  next b t hbs =>
    split at h
    next hb =>
      cases h
      exact .inl ⟨rfl, hb ▸ hbs⟩
    next hb =>
      right
      cases first with
      | true =>
        obtain ⟨v, r, vs', hv, hvs, rfl⟩ := hmore h
        exact ⟨b, t, v, r, vs', hbs, hb, hv, hvs, rfl⟩
      | false =>
        rw [if_neg Bool.false_ne_true] at h
        split at h
        next hcomma =>
          split at h
          next => cases h
          next c t' ht =>
            split at h
            next => cases h
            next hc =>
              obtain ⟨v, r, vs', hv, hvs, rfl⟩ := hmore h
              exact ⟨c, t', v, r, vs', ⟨t, hcomma ▸ hbs, ht⟩, hc, hv, hvs, rfl⟩
        next => cases h

/-- What is done at the end of an object, or with what follows the quote of its next key. -/
def keyed (first : Bool) (done more : Bytes → Except Stop α) (bs : Bytes) : Except Stop α :=
  match skipBlanks bs with
  | [] => stopAt .endInObject []
  | b :: rest =>
    if b = closeBrace then done rest
    else if first then
      if b = quote then more rest else stopAt .keyNotString (b :: rest)
    else if b = comma then
      match skipBlanks rest with
      | [] => stopAt .endInValue []
      | c :: rest =>
        if c = quote then more rest
        else if c = closeBrace then stopAt .trailingComma (c :: rest)
        else stopAt .keyNotString (c :: rest)
    else stopAt .objectCommaOrEndExpected (b :: rest)

lemma keyed_eq_ok {done more : Bytes → Except Stop α} {a : α}
    (h : keyed first done more bs = .ok a) :
    (∃ r, skipBlanks bs = closeBrace :: r ∧ done r = .ok a) ∨
      ∃ t, Led first bs (quote :: t) ∧ more t = .ok a := by
  unfold keyed at h
  split at h
  next => cases h
  next b t hbs =>
    split at h
    next hb => exact .inl ⟨t, hb ▸ hbs, h⟩
    next =>
      right
      cases first with
      | true =>
        rw [if_pos rfl] at h
        split at h
        next hb => exact ⟨t, hb ▸ hbs, h⟩
        next => cases h
      | false =>
        rw [if_neg Bool.false_ne_true] at h
        split at h
        next hcomma =>
          split at h
          next => cases h
          next c t' ht =>
            split at h
            next hc => exact ⟨t', ⟨t, hcomma ▸ hbs, hc ▸ ht⟩, h⟩
            next => split at h <;> cases h
        next => cases h

/-- An object ends, or it goes on with a member. -/
lemma members_cases {value : Scan Json} {ms : Members}
    (h : members value (fuel + 1) first bs = .ok (ms, rest)) :
    ms = [] ∧ skipBlanks bs = closeBrace :: rest ∨
      ∃ t k t' t'' v r ms', Led first bs (quote :: t) ∧ string t = .ok (k, t') ∧
        afterColon t' = .ok t'' ∧ value t'' = .ok (v, r) ∧
        members value fuel false r = .ok (ms', rest) ∧ ms = (k, v) :: ms' := by
  unfold members at h
  obtain ⟨r, hend, h⟩ | ⟨t, hled, h⟩ := keyed_eq_ok h
  · cases h
    exact .inl ⟨rfl, hend⟩
  · right
    unfold members.more at h
    split at h
    next => cases h
    next hk =>
      split at h
      next => cases h
      next hcolon =>
        split at h
        next => cases h
        next hv =>
          split at h
          next => cases h
          next hms =>
            cases h
            exact ⟨t, _, _, _, _, _, _, hled, hk, hcolon, hv, hms, rfl⟩

/-- All items of an array are such as their reader finds. -/
lemma items_forall {P : Json → Prop} {item : Scan Json}
    (hitem : ∀ bs v rest, item bs = .ok (v, rest) → P v) {vs : List Json}
    (h : items item fuel first bs = .ok (vs, rest)) : ∀ v ∈ vs, P v := by
  induction fuel generalizing first bs vs with
  | zero =>
    unfold items stop at h
    cases h
  | succ fuel ih =>
    obtain ⟨rfl, -⟩ | ⟨b, t, v, r, vs', -, -, hv, hvs, rfl⟩ := items_cases h
    · exact List.forall_mem_nil _
    · exact List.forall_mem_cons.mpr ⟨hitem _ _ _ hv, ih hvs⟩

/-- All members of an object are such as their reader finds. -/
lemma members_forall {P : Json → Prop} {value : Scan Json}
    (hvalue : ∀ bs v rest, value bs = .ok (v, rest) → P v) {ms : Members}
    (h : members value fuel first bs = .ok (ms, rest)) : ∀ m ∈ ms, P m.2 := by
  induction fuel generalizing first bs ms with
  | zero =>
    unfold members stop at h
    cases h
  | succ fuel ih =>
    obtain ⟨rfl, -⟩ | ⟨t, k, t', t'', v, r, ms', -, -, -, hv, hms, rfl⟩ := members_cases h
    · exact List.forall_mem_nil _
    · exact List.forall_mem_cons.mpr ⟨hvalue _ _ _ hv, ih hms⟩

lemma value_of_leaf {b : UInt8} {r : Bytes} (hbs : skipBlanks bs = b :: r)
    (hbracket : b ≠ openBracket) (hbrace : b ≠ openBrace) : value depth bs = leaf b r := by
  unfold value
  rw [hbs]
  dsimp only
  rw [if_neg hbracket, if_neg hbrace]

lemma ne_of_isDigit {b c : UInt8} (hb : isDigit b = true) (hc : isDigit c = false) : b ≠ c := by
  rintro rfl
  exact Bool.false_ne_true (hc.symm.trans hb)

lemma value_of_isDigit {b : UInt8} {r : Bytes} (hbs : skipBlanks bs = b :: r)
    (hb : isDigit b = true) : value depth bs = wrap .num (numeral false (b :: r)) := by
  rw [value_of_leaf hbs (ne_of_isDigit hb rfl) (ne_of_isDigit hb rfl)]
  unfold leaf
  rw [if_neg (ne_of_isDigit hb rfl), if_neg (ne_of_isDigit hb rfl), if_neg (ne_of_isDigit hb rfl),
    if_neg (ne_of_isDigit hb rfl), if_pos hb]

/-- A value is neither array nor object, or its items or members are nested less deep. -/
lemma value_cases (h : value depth bs = .ok (v, rest)) :
    (∃ b r, skipBlanks bs = b :: r ∧ b ≠ openBracket ∧ b ≠ openBrace ∧
      leaf b r = .ok (v, rest)) ∨
    ∃ d r, depth = d + 1 ∧
      ((∃ vs, skipBlanks bs = openBracket :: r ∧
        items (value d) (r.length + 1) true r = .ok (vs, rest) ∧ v = .arr vs) ∨
      ∃ ms, skipBlanks bs = openBrace :: r ∧
        members (value d) (r.length + 1) true r = .ok (ms, rest) ∧ v = object ms) := by
  unfold value at h
  split at h
  next => cases h
  next b r hbs =>
    split at h
    next hb =>
      cases depth with
      | zero => cases h
      | succ d =>
        obtain ⟨vs, hvs, rfl⟩ := wrap_eq_ok h
        exact .inr ⟨d, r, rfl, .inl ⟨vs, hb ▸ hbs, hvs, rfl⟩⟩
    next hbracket =>
      split at h
      next hb =>
        cases depth with
        | zero => cases h
        | succ d =>
          obtain ⟨ms, hms, rfl⟩ := wrap_eq_ok h
          exact .inr ⟨d, r, rfl, .inr ⟨ms, hb ▸ hbs, hms, rfl⟩⟩
      next hbrace => exact .inl ⟨b, r, hbs, hbracket, hbrace, h⟩

/-- **What is read** is in the form that reading gives. -/
theorem canonical_of_value (h : value depth bs = .ok (v, rest)) : Canonical depth v := by
  induction depth generalizing bs v rest with
  | zero =>
    obtain ⟨b, r, -, -, -, hleaf⟩ | ⟨d, r, hd, -⟩ := value_cases h
    · exact canonical_leaf hleaf
    · cases hd
  | succ depth ih =>
    obtain ⟨b, r, -, -, -, hleaf⟩ | ⟨d, r, hd, ⟨vs, -, hvs, rfl⟩ | ⟨ms, -, hms, rfl⟩⟩ :=
      value_cases h
    · exact canonical_leaf hleaf
    · cases hd
      exact .arr (items_forall (fun _ _ _ hv => ih hv) hvs)
    · cases hd
      have hall := members_forall (P := Canonical depth) (fun _ _ _ hv => ih hv) hms
      exact .obj (ordered_ofList ms) fun m hm => hall m (mem_of_mem_ofList hm)

lemma readWith_eq_ok {scan : Scan α} {a : α} (h : readWith scan bs = .ok a) :
    ∃ rest, scan bs = .ok (a, rest) := by
  obtain ⟨⟨a', rest⟩, hscan, h⟩ := bind_eq_ok_iff.mp (mapError_eq_ok_iff.mp h)
  dsimp only at h
  split at h
  next =>
    cases h
    exact ⟨rest, hscan⟩
  next => cases h

/-- **A text** is read as a value of the form. -/
theorem canonical_of_parse (h : parse bs = .ok v) : Canonical maxDepth v := by
  obtain ⟨rest, hv⟩ := readWith_eq_ok h
  exact canonical_of_value hv

end Courier.Json

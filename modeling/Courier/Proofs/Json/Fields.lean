import Courier.Proofs.Json.Fits
import Courier.Proofs.Json.Passing

/-!
Records read straight from text.  Where a text can also be read as a value, such a reader finds what
stands there: it takes the members that have a field, as they are, and skips the others as far as
reading them would have gone.
-/

namespace Courier.Json

open Text (Bytes)

variable {depth fuel : Nat} {first : Bool} {bs rest rest' : Bytes} {v w : Json} {b : UInt8}

/-! ### Single values -/

/-- A reader that finds the value that stands in a text, if it finds one, and one of some kind. -/
def Verbatim (depth : Nat) (scan : Scan Json) (P : Json → Prop) : Prop :=
  ∀ ⦃bs v rest w rest'⦄, value depth bs = .ok (v, rest) → scan bs = .ok (w, rest') →
    rest' = rest ∧ w = v ∧ P v

variable {P : Json → Prop}

lemma Verbatim.mono {Q : Json → Prop} {scan : Scan Json} (h : Verbatim depth scan P)
    (hP : ∀ v, P v → Q v) : Verbatim depth scan Q := by
  intro bs v rest w rest' hv hw
  obtain ⟨hrest, hwv, hPv⟩ := h hv hw
  exact ⟨hrest, hwv, hP v hPv⟩

lemma wrongType_ne_ok {α : Type} {wanted : String} {a : α} {r : Bytes} :
    Direct.wrongType wanted b r ≠ .ok (a, rest) := by
  unfold Direct.wrongType Direct.misfit
  split
  next => nofun
  next =>
    split
    next => nofun
    next =>
      split
      next => nofun
      next => nofun

lemma misfitInside_ne_ok {α : Type} {m : Mismatch} {a : α} {close : UInt8} {r : Bytes} :
    Direct.misfitInside m close r ≠ .ok (a, rest) := by
  unfold Direct.misfitInside Direct.misfit
  split
  next => split <;> nofun
  next => nofun

lemma onFirst_eq_ok {α : Type} {read : UInt8 → Bytes → Except Stop (α × Bytes)} {a : α}
    (h : Direct.onFirst read bs = .ok (a, rest)) :
    ∃ b r, skipBlanks bs = b :: r ∧ read b r = .ok (a, rest) := by
  unfold Direct.onFirst at h
  split at h
  next => cases h
  next b r hbs => exact ⟨b, r, hbs, h⟩

lemma verbatim_text : Verbatim depth Shape.text.scan (fun v => ∃ s, v = .str s) := by
  intro bs v rest w rest' hv hw
  obtain ⟨s, hs, rfl⟩ := wrap_eq_ok (f := .str) hw
  obtain ⟨b, r, hbs, hs⟩ := onFirst_eq_ok hs
  split at hs
  next hb =>
    rw [value_of_leaf hbs (by rw [hb]; decide) (by rw [hb]; decide), hb] at hv
    have hleaf : leaf quote r = wrap .str (string r) := rfl
    rw [hleaf, hs] at hv
    cases hv
    exact ⟨rfl, rfl, s, rfl⟩
  next => exact absurd hs wrongType_ne_ok

lemma bounded_eq_ok {low high : Int} {wanted : String} {n : Numeral}
    (h : Shape.bounded low high wanted n = .ok v) :
    v = .num n ∧ ∃ i, low ≤ i ∧ i ≤ high ∧ n = .int i := by
  unfold Shape.bounded at h
  split at h
  next i =>
    split at h
    next hi =>
      cases h
      exact ⟨rfl, i, hi.1, hi.2, rfl⟩
    next => cases h
  next => cases h

/-- A number is read as any value is, and then fitted. -/
lemma number_eq_ok {fit : Numeral → Except Mismatch Json} {wanted : String}
    (h : Direct.number fit wanted bs = .ok (w, rest)) :
    ∃ n, value depth bs = .ok (.num n, rest) ∧ fit n = .ok w := by
  obtain ⟨b, r, hbs, h⟩ := onFirst_eq_ok h
  dsimp only at h
  split at h
  next hb =>
    have hv : value depth bs = wrap .num (numeral true r) := by
      rw [value_of_leaf hbs (by rw [hb]; decide) (by rw [hb]; decide), hb]
      rfl
    split at h
    next => cases h
    next n r' hn =>
      split at h
      next hfit =>
        cases h
        exact ⟨n, by rw [hv, hn]; rfl, hfit⟩
      next => cases h
  next =>
    split at h
    next hb =>
      split at h
      next => cases h
      next n r' hn =>
        split at h
        next hfit =>
          cases h
          exact ⟨n, by rw [value_of_isDigit hbs hb, hn]; rfl, hfit⟩
        next => cases h
    next => exact absurd h wrongType_ne_ok

lemma verbatim_integer {low high : Int} {wanted : String} :
    Verbatim depth (Shape.integer low high wanted).scan
      (fun v => ∃ i, low ≤ i ∧ i ≤ high ∧ v = .int i) := by
  intro bs v rest w rest' hv hw
  obtain ⟨n, hn, hfit⟩ := number_eq_ok hw
  cases hv.symm.trans hn
  obtain ⟨rfl, i, hlow, hhigh, rfl⟩ := bounded_eq_ok hfit
  exact ⟨rfl, rfl, i, hlow, hhigh, rfl⟩

lemma Verbatim.optional {shape : Shape} (h : Verbatim depth shape.scan P) :
    Verbatim depth (Shape.optional shape).scan (fun v => v = .null ∨ P v) := by
  intro bs v rest w rest' hv hw
  have hscan : (Shape.optional shape).scan bs = Direct.optional shape.scan bs := rfl
  rw [hscan] at hw
  unfold Direct.optional at hw
  split at hw
  next b r hbs =>
    split at hw
    next hb =>
      rw [value_of_leaf hbs (by rw [hb]; decide) (by rw [hb]; decide), hb] at hv
      have hleaf : leaf 110 r = wordValue .null nullTail r := rfl
      rw [hleaf, hw] at hv
      cases hv
      exact ⟨rfl, rfl, .inl (wordValue_eq_ok hw)⟩
    next =>
      rw [← value_skipBlanks, hbs] at hv
      obtain ⟨hrest, hwv, hPv⟩ := h hv hw
      exact ⟨hrest, hwv, .inr hPv⟩
  next hbs =>
    unfold value at hv
    rw [hbs] at hv
    cases hv

/-! ### Members -/

section Members

variable {fields : List Direct.FieldScan} {seen : List String} {ms fs : Members}
variable {P : String → Json → Prop}

/-- A field has the name. -/
def named (fields : List Direct.FieldScan) (k : String) : Bool :=
  (fields.find? (·.name == k)).isSome

/-- What follows a key is of a field, or it is skipped. -/
lemma fieldMembers_cases
    (h : Direct.fieldMembers fields (fuel + 1) first seen bs = .ok (fs, rest)) :
    fs = [] ∧ skipBlanks bs = closeBrace :: rest ∨
      ∃ t k t' t'', Led first bs (quote :: t) ∧ string t = .ok (k, t') ∧ afterColon t' = .ok t'' ∧
        ((fields.find? (·.name == k) = none ∧ ∃ r, Direct.skipValue t'' = .ok r ∧
          Direct.fieldMembers fields fuel false seen r = .ok (fs, rest)) ∨
        ∃ f v r fs', fields.find? (·.name == k) = some f ∧ k ∉ seen ∧ f.scan t'' = .ok (v, r) ∧
          Direct.fieldMembers fields fuel false (k :: seen) r = .ok (fs', rest) ∧
          fs = (k, v) :: fs') := by
  unfold Direct.fieldMembers at h
  obtain ⟨r, hend, h⟩ | ⟨t, hled, h⟩ := keyed_eq_ok h
  · cases h
    exact .inl ⟨rfl, hend⟩
  · right
    unfold Direct.fieldMembers.more at h
    split at h
    next => cases h
    next k t' hk =>
      split at h
      next hnone =>
        split at h
        next => cases h
        next r hr =>
          obtain ⟨t'', hcolon, hskip⟩ := bind_eq_ok_iff.mp hr
          exact ⟨t, k, t', t'', hled, hk, hcolon, .inl ⟨hnone, r, hskip, h⟩⟩
      next f hf =>
        split at h
        next => exact absurd h misfitInside_ne_ok
        next hnew =>
          split at h
          next => cases h
          next v r hr =>
            split at h
            next => cases h
            next fs' rest' hfs =>
              cases h
              obtain ⟨t'', hcolon, hscan⟩ := bind_eq_ok_iff.mp hr
              exact ⟨t, k, t', t'', hled, hk, hcolon,
                .inr ⟨f, v, r, fs', hf, by simpa using hnew, hscan, hfs, rfl⟩⟩

lemma Led.unique {c : UInt8} {t u : Bytes} (h : Led first bs (b :: t)) (h' : Led first bs (c :: u)) :
    b :: t = c :: u := by
  cases first with
  | true => exact Eq.trans (Eq.symm h) h'
  | false =>
    obtain ⟨r, hr, ht⟩ : ∃ r, skipBlanks bs = comma :: r ∧ skipBlanks r = b :: t := h
    obtain ⟨r', hr', hu⟩ : ∃ r, skipBlanks bs = comma :: r ∧ skipBlanks r = c :: u := h'
    cases hr.symm.trans hr'
    exact ht.symm.trans hu

lemma Led.not_end {t r : Bytes} (h : Led first bs (quote :: t)) :
    skipBlanks bs ≠ closeBrace :: r := by
  intro hend
  cases first with
  | true =>
    have hbs : skipBlanks bs = quote :: t := h
    cases hbs.symm.trans hend
  | false =>
    obtain ⟨r', hr', -⟩ : ∃ r, skipBlanks bs = comma :: r ∧ skipBlanks r = quote :: t := h
    cases hr'.symm.trans hend

/-- **The members that are read** straight from a text are those of the text that have a field, as
they are, and each field is there once. -/
theorem fieldMembers_of_members (hfields : ∀ f ∈ fields, Verbatim depth f.scan (P f.name))
    (hms : members (value depth) fuel first bs = .ok (ms, rest))
    (hfs : Direct.fieldMembers fields fuel first seen bs = .ok (fs, rest')) :
    rest' = rest ∧ fs = ms.filter (fun m => named fields m.1) ∧
      (fs.map Prod.fst).Nodup ∧ ∀ m ∈ fs, m.1 ∉ seen ∧ P m.1 m.2 := by
  induction fuel generalizing first seen bs ms fs with
  | zero =>
    unfold members stop at hms
    cases hms
  | succ fuel ih =>
    obtain ⟨rfl, hend⟩ | ⟨t, k, t', t'', v, r, ms', hled, hk, hcolon, hv, hms', rfl⟩ :=
      members_cases hms
    · obtain ⟨rfl, hend'⟩ | ⟨_, _, _, _, hled, -⟩ := fieldMembers_cases hfs
      · cases hend.symm.trans hend'
        exact ⟨rfl, rfl, List.nodup_nil, List.forall_mem_nil _⟩
      · exact absurd hend hled.not_end
    obtain ⟨-, hend⟩ | ⟨u, k', u', u'', hled', hk', hcolon', hmember⟩ := fieldMembers_cases hfs
    · exact absurd hend hled.not_end
    -- both read the same key before the same value
    cases hled.unique hled'
    cases hk.symm.trans hk'
    cases hcolon.symm.trans hcolon'
    obtain ⟨hnone, s, hskip, hfs'⟩ | ⟨f, w, s, fs', hf, hnew, hscan, hfs', rfl⟩ := hmember
    · cases (skipValue_of_value hv).symm.trans hskip
      rw [List.filter_cons_of_neg (by simp [named, hnone])]
      exact ih hms' hfs'
    · obtain ⟨rfl, rfl, hP⟩ := hfields f (List.mem_of_find?_eq_some hf) hv hscan
      obtain ⟨hrest, rfl, hnodup, hall⟩ := ih hms' hfs'
      have hname : f.name = k := by simpa using List.find?_some hf
      refine ⟨hrest, ?_, ?_, ?_⟩
      · rw [List.filter_cons_of_pos (by simp [named, hf])]
      · refine List.nodup_cons.mpr ⟨fun hmem => ?_, hnodup⟩
        obtain ⟨m, hm, hmk⟩ := List.mem_map.mp hmem
        exact (hall m hm).1 (hmk ▸ List.mem_cons_self)
      · refine List.forall_mem_cons.mpr ⟨⟨hnew, hname ▸ hP⟩, fun m hm => ?_⟩
        exact ⟨fun hmem => (hall m hm).1 (List.mem_cons_of_mem _ hmem), (hall m hm).2⟩

end Members

/-! ### Looking members up -/

section LookUp

variable {k : String} {ms fs : Members}

/-- Members of which each key is there once are looked up in whatever order. -/
lemma get?_reverse (h : (fs.map Prod.fst).Nodup) : Members.get? fs.reverse k = fs.get? k := by
  cases hk : fs.get? k with
  | some v =>
    refine get_of_mem ?_ (List.mem_reverse.mpr (mem_of_get? hk))
    rw [List.map_reverse]
    exact (List.reverse_perm _).nodup_iff.mpr h
  | none =>
    unfold Members.get? at hk ⊢
    simpa using hk

lemma get?_filter {p : String → Bool} (hk : p k = true) :
    Members.get? (ms.filter fun m => p m.1) k = ms.get? k := by
  unfold Members.get?
  rw [List.find?_filter]
  congr 2
  funext m
  by_cases hm : m.1 = k
  · simp [hm, hk]
  · simp [hm]

/-- Those members of an object that have a name are looked up as all are, if each is there once. -/
lemma get?_object {p : String → Bool} (hnodup : ((ms.filter fun m => p m.1).map Prod.fst).Nodup)
    (hk : p k = true) :
    Members.get? (ms.filter fun m => p m.1) k = (Members.ofList ms).get? k := by
  rw [get?_ofList, ← get?_reverse hnodup, ← List.filter_reverse, get?_filter hk]

end LookUp

/-! ### Records -/

section Record

variable {fields : List Direct.FieldScan} {defaults ms : Members} {type : String}
variable {P : String → Json → Prop}

/-- An object is read as its members are, of which the last of each key counts. -/
lemma object_of_value (h : value (depth + 1) bs = .ok (.obj ms, rest)) :
    ∃ r ps, skipBlanks bs = openBrace :: r ∧
      members (value depth) (r.length + 1) true r = .ok (ps, rest) ∧ ms = Members.ofList ps := by
  obtain ⟨b, r, -, -, -, hleaf⟩ | ⟨d, r, hd, ⟨vs, -, -, hvs⟩ | ⟨ps, hbs, hps, hobject⟩⟩ :=
    value_cases h
  · have hcanonical : Canonical 0 (.obj ms) := canonical_leaf hleaf
    cases hcanonical
  · cases hvs
  · cases hd
    exact ⟨r, ps, hbs, hps, Json.obj.inj hobject⟩

/-- **A record** of which every field may be missing is read from the text of an object as the
members of the object that have a field, and what stands for the others. -/
theorem record_of_object (hfields : ∀ f ∈ fields, Verbatim depth f.scan (P f.name))
    (hdefaults : fields.map (fun f => (f.name, f.absence.member?)) =
      defaults.map fun m => (m.1, some m.2))
    (hv : value (depth + 1) bs = .ok (.obj ms, rest))
    (hw : Direct.record type fields bs = .ok (w, rest')) :
    rest' = rest ∧ (∀ m ∈ defaults, ∀ v ∈ ms.get? m.1, P m.1 v) ∧
      w = .obj (defaults.map fun m => (m.1, (ms.get? m.1).getD m.2)) := by
  obtain ⟨r, ps, hbs, hps, rfl⟩ := object_of_value hv
  obtain ⟨b, r', hbs', hw⟩ := onFirst_eq_ok hw
  cases hbs.symm.trans hbs'
  rw [if_neg (by decide), if_pos rfl] at hw
  split at hw
  next => cases hw
  next fs s hfs =>
    obtain ⟨rfl, rfl, hnodup, hall⟩ := fieldMembers_of_members hfields hps hfs
    have hget : ∀ m ∈ defaults, Members.get? (ps.filter fun m => named fields m.1) m.1 =
        (Members.ofList ps).get? m.1 := by
      intro m hm
      refine get?_object hnodup ?_
      have hmem : (m.1, some m.2) ∈ fields.map fun f => (f.name, f.absence.member?) :=
        hdefaults ▸ List.mem_map_of_mem (f := fun m : String × Json => (m.1, some m.2)) hm
      obtain ⟨f, hf, hname⟩ := List.mem_map.mp hmem
      simpa [named] using ⟨f, hf, congrArg Prod.fst hname⟩
    rw [Shape.complete_of_defaults defaults _ (by rw [List.map_map]; exact hdefaults)] at hw
    cases hw
    refine ⟨rfl, fun m hm v hv => ?_, ?_⟩
    · rw [← hget m hm] at hv
      exact (hall _ (mem_of_get? hv)).2
    · refine congrArg Json.obj (List.map_congr_left fun m hm => ?_)
      rw [hget m hm]

end Record

end Courier.Json

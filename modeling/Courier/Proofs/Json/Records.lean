import Courier.Json.Direct
import Courier.Proofs.Json.Canonical
import Courier.Proofs.Json.Tokens
import Mathlib.Data.List.Forall2

/-!
Records are read as they were written.  The indented text of an object that has a member for each
field of a record, each of them read back by its field, is read back as that object, and nothing of
the text that follows it is passed.
-/

namespace Courier.Json

open Text (Bytes)
open Text.Utf8 (encode encode_cons encode_append)

variable {level n : Nat} {s : String} {v : Json} {b : UInt8} {bs blanks rest : Bytes}

/-- A reader finds the value in its indented text, whatever blanks stand before it and whatever
follows that a number does not go on with. -/
def Reads (scan : Scan Json) (level : Nat) (v : Json) : Prop :=
  ∀ blanks rest, Blank blanks → Fenced rest →
    scan (blanks ++ (encode (prettyChars level v) ++ rest)) = .ok (v, rest)

lemma blank_newline (level : Nat) : Blank (encode (newline level)) := by
  have hspaces : ∀ n, encode (List.replicate n ' ') = List.replicate n 32 := by
    intro n
    induction n with
    | zero => rfl
    | succ n ih =>
      rw [List.replicate_succ, encode_cons, ih]
      rfl
  intro b hb
  unfold newline at hb
  rw [encode_cons, hspaces, List.mem_append] at hb
  rcases hb with hb | hb
  · rw [List.mem_singleton.mp hb]
    rfl
  · rw [List.eq_of_mem_replicate hb]
    rfl

lemma fenced_cons (h : isDigit b = false ∧ b ≠ point ∧ isExponentMark b = false) :
    Fenced (b :: rest) := by
  intro c hc
  cases hc
  exact h

lemma fenced_newline (level : Nat) (rest : Bytes) : Fenced (encode (newline level) ++ rest) := by
  unfold newline
  rw [encode_cons]
  exact fenced_cons ⟨rfl, by decide, rfl⟩

/-! ### Leaves -/

lemma onFirst_of_append {α : Type} {read : UInt8 → Bytes → Except Stop (α × Bytes)}
    (hblanks : Blank blanks) (hb : isBlank b = false) :
    Direct.onFirst read (blanks ++ b :: rest) = read b rest := by
  unfold Direct.onFirst
  rw [skipBlanks_append hblanks, skipBlanks_of_not hb]

theorem reads_text (level : Nat) (s : String) : Reads Shape.text.scan level (.str s) := by
  intro blanks rest hblanks _
  show wrap .str (Direct.text "a string" (blanks ++ (encode (quoted s) ++ rest))) = _
  unfold Direct.text
  rw [encode_quoted, List.cons_append, onFirst_of_append hblanks rfl, if_pos rfl, List.append_assoc,
    List.singleton_append, string_quoted]
  rfl

lemma encode_nat (level n : Nat) :
    encode (prettyChars level (.nat n)) = encode (Number.digitsOf n) := by
  show encode (integerText n) = _
  unfold integerText
  rw [if_neg (by omega)]
  rfl

lemma of_isDigit (hb : isDigit b = true) : isBlank b = false ∧ b ≠ minus ∧ b ≠ 110 := by
  refine ⟨?_, ne_of_isDigit hb rfl, ne_of_isDigit hb rfl⟩
  unfold isBlank
  simp only [Bool.or_eq_false_iff, beq_eq_false_iff_ne]
  exact ⟨⟨⟨ne_of_isDigit hb rfl, ne_of_isDigit hb rfl⟩, ne_of_isDigit hb rfl⟩, ne_of_isDigit hb rfl⟩

theorem reads_integer {high : Int} {wanted : String} (level : Nat) (hhigh : (n : Int) ≤ high)
    (hn : n ≤ maxUnsigned) : Reads (Shape.integer 0 high wanted).scan level (.nat n) := by
  intro blanks rest hblanks hrest
  obtain ⟨b, bs, hbs, hb, -⟩ := encode_digitsOf_cons n
  obtain ⟨hblank, hminus, -⟩ := of_isDigit hb
  have hread := numeral_digitsOf hn hrest
  have hfit : Shape.bounded 0 high wanted (.int n) = .ok (.nat n) := if_pos ⟨by omega, hhigh⟩
  rw [encode_nat]
  show Direct.number (Shape.bounded 0 high wanted) wanted _ = _
  unfold Direct.number
  rw [hbs, List.cons_append] at hread ⊢
  rw [onFirst_of_append hblanks hblank]
  dsimp only
  rw [if_neg hminus, if_pos hb, hread]
  dsimp only
  rw [hfit]

theorem reads_null (level : Nat) (shape : Shape) :
    Reads (Shape.optional shape).scan level .null := by
  intro blanks rest hblanks _
  show Direct.optional shape.scan (blanks ++ (110 :: nullTail ++ rest)) = _
  unfold Direct.optional
  rw [List.cons_append, skipBlanks_append hblanks, skipBlanks_of_not rfl]
  rfl

/-- What is not null is read as without the option. -/
theorem Reads.optional {shape : Shape} (h : Reads shape.scan level v)
    (hfirst : ∃ b bs, encode (prettyChars level v) = b :: bs ∧ isBlank b = false ∧ b ≠ 110) :
    Reads (Shape.optional shape).scan level v := by
  intro blanks rest hblanks hrest
  obtain ⟨b, bs, hbs, hb, hne⟩ := hfirst
  have hread := h [] rest (fun _ hb => absurd hb List.not_mem_nil) hrest
  show Direct.optional shape.scan _ = _
  unfold Direct.optional
  rw [hbs, List.cons_append, List.nil_append] at hread
  rw [hbs, List.cons_append, skipBlanks_append hblanks, skipBlanks_of_not hb]
  dsimp only
  rw [if_neg hne, hread]

theorem reads_optional_text (level : Nat) (s : Option String) :
    Reads (Shape.optional .text).scan level (.optStr s) := by
  cases s with
  | none => exact reads_null level .text
  | some s =>
    refine (reads_text level s).optional ⟨_, _, encode_quoted s, rfl, by decide⟩

theorem reads_optional_integer {high : Int} {wanted : String} (level : Nat) (i : Option Nat)
    (hi : ∀ n ∈ i, (n : Int) ≤ high ∧ n ≤ maxUnsigned) :
    Reads (Shape.optional (.integer 0 high wanted)).scan level (i.elim .null .nat) := by
  cases i with
  | none => exact reads_null level _
  | some n =>
    obtain ⟨b, bs, hbs, hb, -⟩ := encode_digitsOf_cons n
    obtain ⟨hblank, -, hne⟩ := of_isDigit hb
    obtain ⟨hhigh, hn⟩ := hi n rfl
    exact (reads_integer level hhigh hn).optional
      ⟨b, bs, (encode_nat level n).trans hbs, hblank, hne⟩

/-! ### Members -/

section Members

variable {fields : List Direct.FieldScan}

/-- A member that has a field, which reads its value. -/
def HasField (fields : List Direct.FieldScan) (level : Nat) (m : String × Json) : Prop :=
  ∃ f, fields.find? (·.name == m.1) = some f ∧ Reads f.scan level m.2

/-- The text of a member after the quote of its key, and what follows it. -/
def memberText (level : Nat) (m : String × Json) (rest : Bytes) : Bytes :=
  encode (m.1.toList.flatMap escapeChar) ++
    quote :: colon :: 32 :: (encode (prettyChars level m.2) ++ rest)

lemma encode_member (level : Nat) (m : String × Json) (cs : List Char) :
    encode (quoted m.1 ++ ':' :: ' ' :: prettyChars level m.2 ++ cs) =
      quote :: memberText level m (encode cs) := by
  unfold memberText
  simp only [List.append_assoc, List.cons_append, encode_append, encode_quoted, encode_cons]
  rfl

/-- A member is read, and what follows it. -/
lemma more_memberText {fuel : Nat} {seen : List String} {m : String × Json} {ms : Members}
    {bs : Bytes} (hf : HasField fields level m) (hseen : m.1 ∉ seen) (hbs : Fenced bs)
    (hnext : Direct.fieldMembers fields fuel false (m.1 :: seen) bs = .ok (ms, rest)) :
    Direct.fieldMembers.more fields fuel seen (memberText level m bs) = .ok (m :: ms, rest) := by
  obtain ⟨f, hfind, hreads⟩ := hf
  have hnew : seen.contains m.1 = false := by
    simpa using hseen
  have hread := hreads [32] bs (fun b hb => List.mem_singleton.mp hb ▸ rfl) hbs
  have hcolon : (afterColon (colon :: 32 :: (encode (prettyChars level m.2) ++ bs))).bind f.scan =
      .ok (m.2, bs) := hread
  unfold Direct.fieldMembers.more memberText
  rw [string_quoted]
  dsimp only
  rw [hfind]
  dsimp only
  rw [hnew, if_neg Bool.false_ne_true, hcolon]
  dsimp only
  rw [hnext]

/-- **The members of an object** are read from their indented text, from the quote of the first key
on, as long as there is fuel for each and none of them was read before. -/
theorem more_prettyMembers (hblanks : Blank blanks) (hfence : Fenced (blanks ++ closeBrace :: rest))
    (m : String × Json) (ms : Members) (hall : ∀ m' ∈ m :: ms, HasField fields level m')
    (hnodup : ((m :: ms).map Prod.fst).Nodup) :
    ∃ text : Bytes,
      encode (prettyMembers level (m :: ms)) = encode (newline level) ++ quote :: text ∧
      ms.length ≤ text.length ∧ ∀ fuel seen, ms.length < fuel →
        (∀ m' ∈ m :: ms, m'.1 ∉ seen) →
        Direct.fieldMembers.more fields fuel seen (text ++ (blanks ++ closeBrace :: rest)) =
          .ok (m :: ms, rest) := by
  have happend : ∀ (m : String × Json) (xs ys : Bytes),
      memberText level m xs ++ ys = memberText level m (xs ++ ys) := by
    intro m xs ys
    simp [memberText]
  have hm := hall m List.mem_cons_self
  induction ms generalizing m with
  | nil =>
    refine ⟨memberText level m [], ?_, Nat.zero_le _, fun fuel seen hfuel hseen => ?_⟩
    · show encode (newline level ++ quoted m.1 ++ ':' :: ' ' :: prettyChars level m.2) = _
      have h := encode_member level m []
      rw [List.append_nil] at h
      rw [List.append_assoc, encode_append, h]
      rfl
    · obtain ⟨fuel, rfl⟩ := Nat.exists_eq_succ_of_ne_zero (Nat.ne_of_gt hfuel)
      rw [happend]
      refine more_memberText hm (hseen m List.mem_cons_self) hfence ?_
      rw [List.nil_append, Direct.fieldMembers.eq_def]
      dsimp only
      rw [skipBlanks_append hblanks, skipBlanks_of_not rfl]
      exact if_pos rfl
  | cons m₂ ms ih =>
    obtain ⟨hnew, hnodup'⟩ := List.nodup_cons.mp hnodup
    obtain ⟨text, htext, hlen, hmore⟩ := ih m₂ (fun m' hm' => hall m' (List.mem_cons_of_mem _ hm'))
      hnodup' (hall m₂ (List.mem_cons_of_mem _ List.mem_cons_self))
    refine ⟨memberText level m (comma :: (encode (newline level) ++ quote :: text)), ?_, ?_,
      fun fuel seen hfuel hseen => ?_⟩
    · show encode (newline level ++ quoted m.1 ++ ':' :: ' ' :: prettyChars level m.2 ++
        ',' :: prettyMembers level (m₂ :: ms)) = _
      rw [List.append_assoc, List.append_assoc, encode_append, ← List.append_assoc,
        encode_member, encode_cons, htext]
      rfl
    · unfold memberText
      simp only [List.length_append, List.length_cons]
      omega
    · obtain ⟨fuel, rfl⟩ := Nat.exists_eq_succ_of_ne_zero (Nat.ne_of_gt (Nat.zero_lt_of_lt hfuel))
      rw [happend]
      refine more_memberText hm (hseen m List.mem_cons_self)
        (fenced_cons ⟨rfl, by decide, rfl⟩) ?_
      rw [List.cons_append, Direct.fieldMembers.eq_def]
      dsimp only
      rw [skipBlanks_of_not rfl]
      dsimp only
      rw [if_neg (by decide), if_neg Bool.false_ne_true, if_pos rfl, List.append_assoc,
        skipBlanks_append (blank_newline level), List.cons_append, skipBlanks_of_not rfl]
      dsimp only
      rw [if_pos rfl]
      refine hmore fuel _ (Nat.lt_of_succ_lt_succ hfuel) fun m' hm' hmem => ?_
      rcases List.mem_cons.mp hmem with heq | hmem
      · exact hnew (heq ▸ List.mem_map_of_mem hm')
      · exact hseen m' (List.mem_cons_of_mem _ hm') hmem

end Members

/-! ### Records -/

section Record

variable {fields : List Direct.FieldScan} {ms : Members} {type : String}

lemma get_of_mem {m : String × Json} (hnodup : (ms.map Prod.fst).Nodup) (hm : m ∈ ms) :
    ms.get? m.1 = some m.2 := by
  unfold Members.get?
  induction ms with
  | nil => cases hm
  | cons m' ms ih =>
    obtain ⟨hnew, hnodup⟩ := List.nodup_cons.mp hnodup
    rcases List.mem_cons.mp hm with rfl | hm
    · rw [List.find?_cons_of_pos (by simp)]
      rfl
    · have hne : m'.1 ≠ m.1 := fun h => hnew (h ▸ List.mem_map_of_mem hm)
      rw [List.find?_cons_of_neg (by simpa using hne)]
      exact ih hnodup hm

/-- Members for all fields are taken in the order of the fields. -/
lemma complete_of_subset {names : List (String × Absence)} {declared : Members}
    (hnodup : (ms.map Prod.fst).Nodup) (hsub : declared ⊆ ms)
    (hnames : declared.map Prod.fst = names.map Prod.fst) :
    Shape.complete names ms = .ok declared := by
  induction names generalizing declared with
  | nil =>
    rw [List.map_eq_nil_iff.mp hnames]
    rfl
  | cons field names ih =>
    obtain ⟨m, declared, rfl, hname, hrest⟩ := List.map_eq_cons_iff.mp hnames
    obtain ⟨name, absence⟩ := field
    obtain rfl : m.1 = name := hname
    have hget := get_of_mem hnodup (hsub List.mem_cons_self)
    have htail := ih (fun m' hm' => hsub (List.mem_cons_of_mem _ hm')) hrest
    unfold Shape.complete at htail ⊢
    rw [List.mapM_cons, htail]
    dsimp only
    rw [hget]
    rfl

variable {F : Type} {name : F → String} {P : F → String × Json → Prop} {fs : List F}

/-- Each field has the member of its place. -/
lemma names_of_fields (h : List.Forall₂ (fun f m => name f = m.1 ∧ P f m) fs ms) :
    ms.map Prod.fst = fs.map name := by
  induction h with
  | nil => rfl
  | cons hf _ ih => exact congrArg₂ List.cons hf.1.symm ih

/-- The field of a member is found by its name. -/
lemma fieldOf_mem (h : List.Forall₂ (fun f m => name f = m.1 ∧ P f m) fs ms)
    (hnodup : (ms.map Prod.fst).Nodup) :
    ∀ m ∈ ms, ∃ f, fs.find? (name · == m.1) = some f ∧ P f m := by
  induction h with
  | nil => exact fun _ hm => absurd hm List.not_mem_nil
  | @cons f m fs ms hf _ ih =>
    obtain ⟨hnew, hnodup⟩ := List.nodup_cons.mp hnodup
    intro m' hm'
    rcases List.mem_cons.mp hm' with rfl | hm'
    · exact ⟨f, List.find?_cons_of_pos (by simpa using hf.1), hf.2⟩
    · obtain ⟨f', hfind, hP⟩ := ih hnodup m' hm'
      have hne : m.1 ≠ m'.1 := fun h => hnew (h ▸ List.mem_map_of_mem hm')
      refine ⟨f', (List.find?_cons_of_neg ?_).trans hfind, hP⟩
      rw [hf.1]
      simpa using hne

/-- **A record** that has a member for each field, which the field reads, is read as it was
written. -/
theorem reads_record
    (h : List.Forall₂ (fun f (m : String × Json) => f.name = m.1 ∧ Reads f.scan (level + 1) m.2)
      fields ms)
    (hnodup : (ms.map Prod.fst).Nodup) (hms : ms ≠ []) :
    Reads (Direct.record type fields) level (.obj ms) := by
  intro blanks rest hblanks _
  obtain ⟨m, ms, rfl⟩ := List.exists_cons_of_ne_nil hms
  have hnames : (m :: ms).map Prod.fst =
      (fields.map fun f => (f.name, f.absence)).map Prod.fst := by
    rw [List.map_map]
    exact names_of_fields h
  have hfence : Fenced (encode (newline level) ++ closeBrace :: rest) := fenced_newline level _
  obtain ⟨text, htext, hlen, hmore⟩ := more_prettyMembers (blank_newline level) hfence m ms
    (fieldOf_mem h hnodup) hnodup
  have hpretty : encode (prettyChars level (.obj (m :: ms))) ++ rest =
      openBrace :: (encode (newline (level + 1)) ++
        quote :: (text ++ (encode (newline level) ++ closeBrace :: rest))) := by
    show encode ('{' :: prettyMembers (level + 1) (m :: ms) ++ newline level ++ ['}']) ++ rest = _
    rw [List.append_assoc, List.cons_append, encode_cons, encode_append, htext, encode_append]
    simp
    rfl
  rw [hpretty]
  unfold Direct.record
  rw [onFirst_of_append hblanks rfl, if_neg (by decide), if_pos rfl, Direct.fieldMembers.eq_def]
  dsimp only
  rw [skipBlanks_append (blank_newline _), skipBlanks_of_not rfl]
  dsimp only
  rw [if_neg (by decide), if_pos rfl, if_pos rfl, hmore _ _ (by simp; omega) (by simp)]
  dsimp only
  rw [complete_of_subset hnodup (List.Subset.refl _) hnames]

end Record

end Courier.Json

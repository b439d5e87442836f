import Courier.Disk.Path
import Mathlib.Data.List.TakeWhile
import Mathlib.Tactic.Lemma

/-!
The parts of a path against its last name.  A path whose last name is looked for ends, apart from
parts that lead nowhere, in that name, and the path with another extension differs from it in this
one part only.  In between nothing is known of a path: it may go up, or through names that are not
there.
-/

namespace Courier.Path

variable {cs tail name : List Char} {path ext : String}

/-! ### Pieces of a text -/

lemma pieces_ne_nil : ∀ cs, pieces cs ≠ []
  | [] => by simp [pieces]
  | c :: cs => by
    unfold pieces
    split
    · exact List.cons_ne_nil _ _
    · split <;> exact List.cons_ne_nil _ _

lemma pieces_append_slash (as bs : List Char) :
    pieces (as ++ '/' :: bs) = pieces as ++ pieces bs := by
  induction as with
  | nil => simp [pieces]
  | cons a as ih =>
    by_cases ha : a = '/'
    · simp [pieces, ha, ih]
    · obtain ⟨p, ps, hp⟩ := List.exists_cons_of_ne_nil (pieces_ne_nil as)
      simp [pieces, ha, ih, hp]

lemma pieces_of_not_mem (h : '/' ∉ cs) : pieces cs = [cs] := by
  induction cs with
  | nil => rfl
  | cons c cs ih =>
    have hc : c ≠ '/' := fun e => h (e ▸ List.mem_cons_self)
    have hcs : '/' ∉ cs := fun hm => h (List.mem_cons_of_mem _ hm)
    simp [pieces, hc, ih hcs]

/-! ### The end that does not count -/

/-- Slashes, and parts `.` behind them. -/
inductive Faint : List Char → Prop
  | nil : Faint []
  | slash {tail : List Char} (h : Faint tail) : Faint ('/' :: tail)
  | point {tail : List Char} (h : Faint tail) : Faint ('/' :: '.' :: tail)

lemma Faint.append {more : List Char} (h : Faint tail) (hm : Faint more) :
    Faint (tail ++ more) := by
  induction h with
  | nil => exact hm
  | slash _ ih => exact ih.slash
  | point _ ih => exact ih.point

/-- Trimming takes nothing but a faint end away. -/
lemma trimReversed_faint : ∀ (n : Nat) (cs : List Char), cs.length ≤ n →
    ∃ tail, Faint tail ∧ cs.reverse = (trimReversed cs).reverse ++ tail := by
  intro n
  induction n with
  | zero =>
    intro cs hn
    rw [List.length_eq_zero_iff.mp (Nat.le_zero.mp hn)]
    exact ⟨[], .nil, rfl⟩
  | succ n ih =>
    intro cs hn
    fun_cases trimReversed cs with
    | case1 cs =>
      obtain ⟨tail, hf, he⟩ := ih cs (by simpa using hn)
      refine ⟨tail ++ ['/'], hf.append (.slash .nil), ?_⟩
      rw [List.reverse_cons, he, List.append_assoc]
    | case2 cs =>
      obtain ⟨tail, hf, he⟩ := ih cs (by simp only [List.length_cons] at hn; omega)
      refine ⟨tail ++ ['/', '.'], hf.append (.point .nil), ?_⟩
      rw [List.reverse_cons, List.reverse_cons, he]
      simp [trimReversed]
    | case3 => exact ⟨[], .nil, (List.append_nil _).symm⟩

lemma trimmed_faint (cs : List Char) : ∃ tail, Faint tail ∧ cs = trimmed cs ++ tail := by
  obtain ⟨tail, hf, he⟩ := trimReversed_faint _ cs.reverse le_rfl
  rw [List.reverse_reverse] at he
  exact ⟨tail, hf, he⟩

/-- The pieces that a faint end adds lead nowhere. -/
lemma pieces_append_faint (h : Faint tail) : ∃ ps, (∀ p ∈ ps, p = [] ∨ p = ['.']) ∧
    ∀ cs, pieces (cs ++ tail) = pieces cs ++ ps := by
  induction h with
  | nil => exact ⟨[], nofun, fun cs => by simp⟩
  | @slash tail _ ih =>
    obtain ⟨ps, hps, he⟩ := ih
    refine ⟨[] :: ps, List.forall_mem_cons.mpr ⟨.inl rfl, hps⟩, fun cs => ?_⟩
    rw [pieces_append_slash, ← List.nil_append tail, he]
    rfl
  | @point tail _ ih =>
    obtain ⟨ps, hps, he⟩ := ih
    refine ⟨['.'] :: ps, List.forall_mem_cons.mpr ⟨.inr rfl, hps⟩, fun cs => ?_⟩
    rw [pieces_append_slash, ← List.singleton_append, he]
    rfl

/-! ### The last part -/

section

variable (mark : Char) (cs : List Char)

/-- A text is what stands up to its last mark, and what stands behind it. -/
lemma append_behind : (cs.reverse.dropWhile (· != mark)).reverse ++
    (cs.reverse.takeWhile (· != mark)).reverse = cs := by
  rw [← List.reverse_append, List.takeWhile_append_dropWhile, List.reverse_reverse]

lemma not_mem_behind : mark ∉ (cs.reverse.takeWhile (· != mark)).reverse := by
  intro hm
  have := List.mem_takeWhile_imp (List.mem_reverse.mp hm)
  simp at this

variable {mark cs} in
lemma head_of_dropWhile {c : Char} {rest : List Char}
    (h : cs.dropWhile (· != mark) = c :: rest) : c = mark := by
  have := List.head?_dropWhile_not (· != mark) cs
  rw [h] at this
  simpa using this

end

/-- What stands before the last part of a text is empty or ends with a slash. -/
def Front (front : List Char) : Prop := front = [] ∨ ∃ as, front = as ++ ['/']

/-- A text is what stands before its last part, and this part. -/
lemma front_lastPart (cs : List Char) :
    ∃ front, Front front ∧ cs = front ++ lastPart cs ∧ '/' ∉ lastPart cs := by
  refine ⟨_, ?_, (append_behind '/' cs).symm, not_mem_behind '/' cs⟩
  rcases hd : cs.reverse.dropWhile (· != '/') with _ | ⟨c, rest⟩
  · exact .inl rfl
  · obtain rfl := head_of_dropWhile hd
    exact .inr ⟨rest.reverse, List.reverse_cons⟩

/-- What stands before the last part fixes all pieces but the last. -/
lemma Front.pieces {front : List Char} (h : Front front) :
    ∃ ps, ∀ {name : List Char}, '/' ∉ name → pieces (front ++ name) = ps ++ [name] := by
  obtain rfl | ⟨as, rfl⟩ := h
  · exact ⟨[], pieces_of_not_mem⟩
  · refine ⟨Path.pieces as, fun hn => ?_⟩
    rw [List.append_assoc, List.singleton_append, pieces_append_slash, pieces_of_not_mem hn]

/-- A name beside another begins at the root only where the other does. -/
lemma Front.head?_append {front : List Char} (h : Front front) {name other : List Char}
    (hn : '/' ∉ name) (ho : '/' ∉ other) :
    ((front ++ name).head? = some '/') ↔ ((front ++ other).head? = some '/') := by
  have hhead : ∀ {n : List Char}, '/' ∉ n → n.head? ≠ some '/' :=
    fun hn he => hn (List.mem_of_head? he)
  obtain rfl | ⟨_ | ⟨a, as⟩, rfl⟩ := h
  · exact iff_of_false (hhead hn) (hhead ho)
  · exact Iff.rfl
  · exact Iff.rfl

/-! ### The last name -/

lemma isName_iff {s : String} : isName s = true ↔ s ≠ "" ∧ s ≠ "." ∧ s ≠ ".." := by
  simp [isName, and_assoc]

/-- A part that leads nowhere. -/
def Idle (part : String) : Prop := part = "" ∨ part = "."

lemma fileName?_eq_some_iff {name : String} : fileName? path = some name ↔
    String.ofList (lastPart (trimmed path.toList)) = name ∧ isName name = true := by
  unfold fileName?
  dsimp only
  split
  next h => simp only [Option.some.injEq, iff_self_and]; rintro rfl; exact h
  next h => simp only [reduceCtorEq, false_iff]; rintro ⟨rfl, hn⟩; exact h hn

/-- A name with another extension in place of its last one. -/
def renamed (name ext : String) : String := String.ofList (stem name.toList ++ '.' :: ext.toList)

/-- A name is its stem, and either no more or an extension without points. -/
lemma stem_append (cs : List Char) :
    stem cs = cs ∨ ∃ ext, '.' ∉ ext ∧ cs = stem cs ++ '.' :: ext := by
  unfold stem
  rcases hd : cs.reverse.dropWhile (· != '.') with _ | ⟨c, rest⟩
  · exact .inl rfl
  · by_cases hrest : rest = []
    · exact .inl (if_pos hrest)
    · obtain rfl := head_of_dropWhile hd
      refine .inr ⟨_, not_mem_behind '.' cs, ?_⟩
      have hsplit := append_behind '.' cs
      rw [hd, List.reverse_cons, List.append_assoc] at hsplit
      dsimp only
      rw [if_neg hrest]
      exact hsplit.symm

lemma mem_of_mem_stem {c : Char} (h : c ∈ stem cs) : c ∈ cs := by
  obtain he | ⟨ext, -, he⟩ := stem_append cs
  · rwa [he] at h
  · rw [he]
    exact List.mem_append_left _ h

/-- An extension that itself holds a point gives a name that was not there before. -/
lemma renamed_ne {name : String} (hext : '.' ∈ ext.toList) : renamed name ext ≠ name := by
  intro he
  have htext : stem name.toList ++ '.' :: ext.toList = name.toList := by
    have := congrArg String.toList he
    rwa [renamed, String.toList_ofList] at this
  obtain hs | ⟨old, hold, hs⟩ := stem_append name.toList
  · rw [hs] at htext
    have := congrArg List.length htext
    simp at this
  · have hsame := hs.symm.trans htext.symm
    have htail := List.append_cancel_left hsame
    exact hold ((List.cons.inj htail).2.symm ▸ hext)

/-- The path with another extension differs in its last name alone. -/
lemma parts_withExtension {name : String} (h : fileName? path = some name)
    (hext : '/' ∉ ext.toList) : ∃ q idle, (∀ x ∈ idle, Idle x) ∧ parts path = q ++ name :: idle ∧
      parts (withExtension path ext) = q ++ [renamed name ext] ∧
      isAbsolute (withExtension path ext) = isAbsolute path := by
  obtain ⟨hname, hnamed⟩ := fileName?_eq_some_iff.mp h
  obtain ⟨tail, hfaint, hwhole⟩ := trimmed_faint path.toList
  obtain ⟨front, hfront, htext, hplain⟩ := front_lastPart (trimmed path.toList)
  rw [← String.toList_ofList (l := lastPart _), hname] at htext hplain
  rw [htext] at hwhole
  have hstem : '/' ∉ stem name.toList ++ '.' :: ext.toList := by
    intro hm
    rcases List.mem_append.mp hm with hm | hm
    · exact hplain (mem_of_mem_stem hm)
    · simp [hext] at hm
  have hother : (withExtension path ext).toList =
      front ++ (stem name.toList ++ '.' :: ext.toList) := by
    unfold withExtension
    rw [h]
    dsimp only
    rw [htext, String.toList_ofList, List.length_append, String.length_toList,
      Nat.add_sub_cancel, List.take_left', List.append_assoc]
    rfl
  obtain ⟨ps, hps⟩ := hfront.pieces
  obtain ⟨idle, hidle, hadd⟩ := pieces_append_faint hfaint
  refine ⟨ps.map String.ofList, idle.map String.ofList, ?_, ?_, ?_, ?_⟩
  · intro x hx
    obtain ⟨p, hp, rfl⟩ := List.mem_map.mp hx
    rcases hidle p hp with rfl | rfl
    · exact .inl rfl
    · exact .inr rfl
  · unfold parts
    rw [hwhole, hadd, hps hplain]
    simp
  · unfold parts
    rw [hother, hps hstem]
    simp [renamed]
  · -- a name is not empty, so that the end does not come first
    have hhead : (front ++ name.toList ++ tail).head? = (front ++ name.toList).head? := by
      have hne : name.toList ≠ [] := by simpa using (isName_iff.mp hnamed).1
      obtain ⟨c, cs, hc⟩ := List.exists_cons_of_ne_nil hne
      simp [hc]
    unfold isAbsolute
    rw [hother, hwhole, hhead, Bool.eq_iff_iff, beq_iff_eq, beq_iff_eq]
    exact hfront.head?_append hstem hplain

/-- A path whose last part is a name leads to a file of this name. -/
lemma fileName?_of_parts {q : List String} {name : String} (h : parts path = q ++ [name])
    (hnamed : isName name = true) : fileName? path = some name := by
  obtain ⟨tail, hfaint, hwhole⟩ := trimmed_faint path.toList
  obtain ⟨front, hfront, htext, hplain⟩ := front_lastPart (trimmed path.toList)
  obtain ⟨ps, hps⟩ := hfront.pieces
  obtain ⟨idle, hidle, hadd⟩ := pieces_append_faint hfaint
  have hpieces : pieces path.toList = ps ++ [lastPart (trimmed path.toList)] ++ idle := by
    rw [← hps hplain, ← htext, ← hadd, ← hwhole]
  unfold parts at h
  rw [hpieces] at h
  -- the last of the parts is a name, which the parts of a faint end are not
  obtain rfl | ⟨init, last, rfl⟩ := idle.eq_nil_or_concat
  · rw [List.append_nil, List.map_append] at h
    refine fileName?_eq_some_iff.mpr ⟨?_, hnamed⟩
    exact List.singleton_inj.mp (List.append_inj' h rfl).2
  · rw [List.concat_eq_append, ← List.append_assoc, List.map_append] at h
    obtain rfl := List.singleton_inj.mp (List.append_inj' h rfl).2
    rcases hidle last (by simp) with rfl | rfl <;> simp [isName] at hnamed

end Courier.Path

import Courier.Proofs.Settings.Desk
import Mathlib.Data.List.Infix
import Mathlib.Logic.Function.Basic

/-!
Two edits at once.  Whoever edits the settings of a keeper has three turns: the copy in memory is
read and edited, the edited settings are written to the file, and the copy is replaced.  Two callers
that share the copy may have their turns in any order.  If one of them reads after the other has
replaced the copy, both edits stand; else each edits what was there at first, the copy is that of
the one who replaced it last, and the file that of the one who wrote it last.
-/

namespace Courier.Settings

open Text.Utf8 (ofString)

/-! ### Turns -/

/-- How far a caller is with its edit. -/
inductive Editing
  | due
  /-- the copy was read, and this was made of it -/
  | drafted (s : Settings)
  /-- the file holds it -/
  | written (s : Settings)
  | told (r : Except Fault Settings)

namespace Editing

/-- The turns that were made. -/
def turns : Editing → Nat
  | due => 0
  | drafted _ => 1
  | written _ => 2
  | told _ => 3

/-- What was made of the copy. -/
def draft? : Editing → Option Settings
  | due => none
  | drafted s | written s => some s
  | told r => r.toOption

/-- The next turn of a caller. -/
def advance (k : Keeper) (edit : Settings → Settings) (a : Archive) : Editing → Archive × Editing
  | due => (a, drafted (edit (a.get k)))
  | drafted s =>
    match s.validate with
    | .error f => (a, told (.error f))
    | .ok () =>
      match a.write k s with
      | (.error f, a) => (a, told (.error f))
      | (.ok (), a) => (a, written s)
  | written s => (a.replace k s, told (.ok s))
  | told r => (a, told r)

/-- **Three turns without a break** are an edit. -/
theorem advance_three (k : Keeper) (edit : Settings → Settings) (a : Archive) :
    (fun p => advance k edit p.1 p.2)^[3] (a, due) =
      ((a.updateWith k edit).archive, told (a.updateWith k edit).result) := by
  show advance k edit (advance k edit a (drafted (edit (a.get k)))).1
    (advance k edit a (drafted (edit (a.get k)))).2 = _
  unfold Archive.updateWith Archive.update
  simp only [advance]
  cases (edit (a.get k)).validate with
  | error f => rfl
  | ok =>
    dsimp only
    rcases a.write k (edit (a.get k)) with ⟨_ | _, b⟩ <;> rfl

/-- What a turn can do. -/
inductive Advance (k : Keeper) (edit : Settings → Settings) (a : Archive) :
    Editing → Archive → Editing → Prop
  | read : Advance k edit a due a (drafted (edit (a.get k)))
  | failed {s : Settings} {f : Fault} {b : Archive} :
      Advance k edit a (drafted s) b (told (.error f))
  | wrote {s : Settings} {disk : Disk} (valid : s.validate = .ok ())
      (saving : Saving a.disk k.path (ofString s.pretty) (.ok ()) disk) :
      Advance k edit a (drafted s) { a with disk } (written s)
  | replaced {s : Settings} : Advance k edit a (written s) (a.replace k s) (told (.ok s))
  | rested {r : Except Fault Settings} : Advance k edit a (told r) a (told r)

lemma advance_cases (k : Keeper) (edit : Settings → Settings) (a : Archive) (e : Editing) :
    Advance k edit a e (advance k edit a e).1 (advance k edit a e).2 := by
  cases e with
  | due => exact .read
  | drafted s =>
    rw [advance]
    split
    next => exact .failed
    next hvalid =>
      have hsaving := saving_save s a.disk k.path
      unfold Archive.write
      rcases hsave : save s a.disk k.path with ⟨result, disk⟩
      rw [hsave] at hsaving
      cases result with
      | error f => exact .failed
      | ok => exact .wrote hvalid hsaving
  | written s => exact .replaced
  | told r => exact .rested

end Editing

/-- An archive, and two callers that edit the settings of one keeper. -/
structure Overlap where
  archive : Archive
  callers : Bool → Editing := fun _ => .due

namespace Overlap

section

variable (k : Keeper) (edit : Bool → Settings → Settings)

/-- The next turn of one of the callers. -/
def step (o : Overlap) (i : Bool) : Overlap :=
  let p := Editing.advance k (edit i) o.archive (o.callers i)
  ⟨p.1, Function.update o.callers i p.2⟩

/-- The turns of a schedule, one after another. -/
def play (o : Overlap) (ts : List Bool) : Overlap := ts.foldl (step k edit) o

end

/-! ### Schedules -/

/-- The caller `i` makes its turn number `m` before `j` makes its turn number `n`. -/
def Precedes (ts : List Bool) (i : Bool) (m : Nat) (j : Bool) (n : Nat) : Prop :=
  ∃ us, us <+: ts ∧ m ≤ us.count i ∧ us.count j < n

instance (ts : List Bool) (i : Bool) (m : Nat) (j : Bool) (n : Nat) :
    Decidable (Precedes ts i m j n) :=
  decidable_of_iff (∃ us ∈ ts.inits, m ≤ us.count i ∧ us.count j < n) (by simp [Precedes])

/-- The caller `i` was the last to make its turn number `n`. -/
def Last (ts : List Bool) (n : Nat) (i : Bool) : Prop :=
  n ≤ ts.count i ∧ (n ≤ ts.count (!i) → Precedes ts (!i) n i n)

/-- Nobody has made turn number `n`, and `Q` holds, or somebody was the last to make it, and `P`
holds of him. -/
def Decided (ts : List Bool) (n : Nat) (Q : Prop) (P : Bool → Prop) : Prop :=
  ((∀ i, ts.count i < n) ∧ Q) ∨ ∃ i, Last ts n i ∧ P i

section Schedules

variable {ts : List Bool} {i j t : Bool} {m n : Nat}

lemma eq_or_eq_not (i t : Bool) : i = t ∨ i = !t := by decide +revert

@[simp] lemma count_concat_self (ts : List Bool) (t : Bool) :
    (ts ++ [t]).count t = ts.count t + 1 := by simp

@[simp] lemma count_concat_not (ts : List Bool) (t : Bool) :
    (ts ++ [t]).count (!t) = ts.count (!t) := by simp

lemma precedes_of_count (hm : m ≤ ts.count i) (hn : ts.count j < n) : Precedes ts i m j n :=
  ⟨ts, List.prefix_refl ts, hm, hn⟩

lemma Precedes.le_count (h : Precedes ts i m j n) : m ≤ ts.count i := by
  obtain ⟨us, hus, hm, -⟩ := h
  exact hm.trans (hus.sublist.count_le i)

/-- What was made before is not unmade, and nothing comes before a turn that was made. -/
lemma precedes_concat (h : n ≤ (ts ++ [t]).count j) :
    Precedes (ts ++ [t]) i m j n ↔ Precedes ts i m j n := by
  constructor
  · rintro ⟨us, hus, hm, hn⟩
    rcases List.prefix_concat_iff.mp hus with rfl | hus
    · omega
    · exact ⟨us, hus, hm, hn⟩
  · rintro ⟨us, hus, hm, hn⟩
    exact ⟨us, hus.trans (List.prefix_append ts [t]), hm, hn⟩

/-- Of two callers only one can come before the other. -/
lemma Precedes.asymm {m' n' : Nat} (h : Precedes ts i m j n) (hn : n ≤ m') (hn' : n' ≤ m) :
    ¬Precedes ts j m' i n' := by
  rintro ⟨vs, hvs, hm', hvn⟩
  obtain ⟨us, hus, hm, hun⟩ := h
  rcases List.prefix_or_prefix_of_prefix hus hvs with hle | hle
  · have := hle.sublist.count_le i
    omega
  · have := hle.sublist.count_le j
    omega

lemma last_concat_self (h : ts.count t + 1 = n) : Last (ts ++ [t]) n t := by
  refine ⟨by simp [h], fun hn => (precedes_concat (by simp [h])).mpr ?_⟩
  rw [count_concat_not] at hn
  exact precedes_of_count hn (by omega)

/-- Who was the last to make a turn is so until that turn is made again. -/
lemma Last.concat (h : Last ts n i) (ht : ts.count t + 1 ≠ n) : Last (ts ++ [t]) n i := by
  obtain ⟨hi, hlast⟩ := h
  have hi' : n ≤ (ts ++ [t]).count i := hi.trans ((List.sublist_append_left ts [t]).count_le i)
  refine ⟨hi', fun hn => (precedes_concat hi').mpr (hlast ?_)⟩
  rcases eq_or_eq_not t i with rfl | rfl
  · rwa [count_concat_not] at hn
  · rw [count_concat_self] at hn
    omega

/-- Who reads after the other has had all its turns is the last to make any. -/
lemma Last.eq_of_precedes (h : Last ts n j) (hcount : n ≤ ts.count (!j))
    (hi : Precedes ts (!i) 3 i 1) (hn : 1 ≤ n ∧ n ≤ 3) : j = i := by
  refine (eq_or_eq_not j i).resolve_right fun he => ?_
  subst he
  have hlater := h.2 hcount
  rw [Bool.not_not] at hlater
  exact hi.asymm hn.1 hn.2 hlater

/-- What is decided stays so until that turn is made again. -/
lemma Decided.concat {Q Q' : Prop} {P P' : Bool → Prop} (h : Decided ts n Q P)
    (ht : ts.count t + 1 ≠ n) (hQ : Q → Q') (hP : ∀ i, n ≤ ts.count i → P i → P' i) :
    Decided (ts ++ [t]) n Q' P' := by
  rcases h with ⟨hnone, hq⟩ | ⟨i, hlast, hp⟩
  · refine .inl ⟨fun i => ?_, hQ hq⟩
    rcases eq_or_eq_not i t with rfl | rfl
    · have := hnone i
      rw [count_concat_self]
      omega
    · rw [count_concat_not]
      exact hnone _
  · exact .inr ⟨i, hlast.concat ht, hP i hlast.1 hp⟩

end Schedules

/-! ### What stands -/

/-- What is in memory and in the file, and what the callers made, after the turns of a schedule that
did not fail. -/
structure Standing (k : Keeper) (edit : Bool → Settings → Settings) (a : Archive) (ts : List Bool)
    (b : Archive) (callers : Bool → Editing) : Prop where
  cell : k.cell < b.memory.length
  turns : ∀ i, (callers i).turns = min (ts.count i) 3
  draft : ∀ i s, (callers i).draft? = some s →
    (¬Precedes ts (!i) 3 i 1 ∧ s = edit i (a.get k)) ∨
      (Precedes ts (!i) 3 i 1 ∧ ∃ u, (callers (!i)).draft? = some u ∧ s = edit i u)
  memory : Decided ts 3 (b.get k = a.get k) fun i => (callers i).draft? = some (b.get k)
  file : Decided ts 2 (b.disk = a.disk) fun i =>
    ∃ s, (callers i).draft? = some s ∧ Settings.read b.disk k.path = .ok (some s)

lemma update_not (callers : Bool → Editing) (t : Bool) (e : Editing) :
    Function.update callers t e (!t) = callers (!t) := Function.update_of_ne (by simp) e callers

/-- A turn after which a caller has the same draft. -/
lemma draft?_update {callers : Bool → Editing} {t : Bool} {e : Editing}
    (he : e.draft? = (callers t).draft?) (i : Bool) :
    (Function.update callers t e i).draft? = (callers i).draft? := by
  rcases eq_or_eq_not i t with rfl | rfl
  · rw [Function.update_self, he]
  · rw [update_not]

namespace Standing

variable {k : Keeper} {edit : Bool → Settings → Settings} {a b : Archive} {ts : List Bool}
  {callers : Bool → Editing} {t i : Bool} {e : Editing} {s : Settings}

lemma start (hk : k.cell < a.memory.length) : Standing k edit a [] a fun _ => .due :=
  ⟨hk, fun _ => rfl, nofun, .inl ⟨by simp, rfl⟩, .inl ⟨by simp, rfl⟩⟩

variable (h : Standing k edit a ts b callers)
include h

lemma turns_of (ht : callers t = e) : e.turns = min (ts.count t) 3 := ht ▸ h.turns t

/-- Whoever has made something has had a turn. -/
lemma made (hs : (callers i).draft? = some s) : 1 ≤ ts.count i := by
  have hturns := h.turns i
  cases hi : callers i with
  | due =>
    rw [hi] at hs
    cases hs
  | drafted | written | told =>
    rw [hi] at hturns
    simp only [Editing.turns] at hturns
    omega

lemma turns_concat (he : e.turns = min (ts.count t + 1) 3) (i : Bool) :
    (Function.update callers t e i).turns = min ((ts ++ [t]).count i) 3 := by
  rcases eq_or_eq_not i t with rfl | rfl
  · rw [Function.update_self, count_concat_self, he]
  · rw [update_not, count_concat_not, h.turns]

/-- After a turn that changes no draft everybody's draft is still made of what it was made of. -/
lemma draft_concat (he : e.draft? = (callers t).draft?) (i : Bool) (s : Settings)
    (hs : (Function.update callers t e i).draft? = some s) :
    (¬Precedes (ts ++ [t]) (!i) 3 i 1 ∧ s = edit i (a.get k)) ∨
      (Precedes (ts ++ [t]) (!i) 3 i 1 ∧
        ∃ u, (Function.update callers t e (!i)).draft? = some u ∧ s = edit i u) := by
  rw [draft?_update he] at hs
  rw [draft?_update he, precedes_concat]
  · exact h.draft i s hs
  · exact (h.made hs).trans ((List.sublist_append_left ts [t]).count_le i)

/-- Who reads makes its draft of the copy that the other has put there, or of the first one. -/
lemma read (ht : callers t = .due) : Standing k edit a (ts ++ [t]) b
    (Function.update callers t (.drafted (edit t (b.get k)))) := by
  have hcount : 0 = min (ts.count t) 3 := h.turns_of ht
  have hother : ∀ {i n}, n + 1 ≤ ts.count i → i = !t := by
    intro i n hi
    rcases eq_or_eq_not i t with rfl | rfl
    · omega
    · rfl
  refine ⟨h.cell, h.turns_concat (by simp only [Editing.turns]; omega), ?_,
    h.memory.concat (by omega) id ?_, h.file.concat (by omega) id ?_⟩
  · intro i s hs
    rcases eq_or_eq_not i t with rfl | rfl
    · rw [Function.update_self] at hs
      obtain rfl := Option.some.inj hs
      rw [precedes_concat (by simp), update_not]
      rcases h.memory with ⟨hnone, hfirst⟩ | ⟨j, hj, hdraft⟩
      · exact .inl ⟨fun hp => absurd hp.le_count (Nat.not_le.mpr (hnone _)), by rw [hfirst]⟩
      · obtain rfl := hother hj.1
        exact .inr ⟨precedes_of_count hj.1 (by omega), _, hdraft, rfl⟩
    · rw [update_not] at hs
      have hdraft := h.draft (!t) s hs
      rw [Bool.not_not] at hdraft ⊢
      rw [precedes_concat ((h.made hs).trans (by simp))]
      rcases hdraft with hfirst | ⟨hp, -⟩
      · exact .inl hfirst
      · exact absurd hp.le_count (by omega)
  · intro i hi hdraft
    obtain rfl := hother hi
    rwa [update_not]
  · intro i hi hdraft
    obtain rfl := hother hi
    rwa [update_not]

/-- Who writes has its draft in the file. -/
lemma wrote (ht : callers t = .drafted s) {disk : Disk} (hs : s.validate = .ok ())
    (hsaving : Saving b.disk k.path (ofString s.pretty) (.ok ()) disk) :
    Standing k edit a (ts ++ [t]) { b with disk } (Function.update callers t (.written s)) := by
  have hcount : 1 = min (ts.count t) 3 := h.turns_of ht
  have hdraft : (Editing.written s).draft? = (callers t).draft? := by
    rw [ht]
    rfl
  refine ⟨h.cell, h.turns_concat (by simp only [Editing.turns]; omega), h.draft_concat hdraft,
    h.memory.concat (by omega) id fun i _ hi => ?_, .inr ⟨t, last_concat_self (by omega), s, ?_, ?_⟩⟩
  · rwa [draft?_update hdraft]
  · rw [Function.update_self]
    rfl
  · exact read_of_pretty hsaving.at?_of_ok hs

/-- Who replaces the copy has its draft in memory. -/
lemma replaced (ht : callers t = .written s) :
    Standing k edit a (ts ++ [t]) (b.replace k s) (Function.update callers t (.told (.ok s))) := by
  have hcount : 2 = min (ts.count t) 3 := h.turns_of ht
  have hdraft : (Editing.told (.ok s)).draft? = (callers t).draft? := by
    rw [ht]
    rfl
  refine ⟨?_, h.turns_concat (by simp only [Editing.turns]; omega), h.draft_concat hdraft,
    .inr ⟨t, last_concat_self (by omega), ?_⟩, h.file.concat (by omega) id fun i _ hi => ?_⟩
  · rw [Archive.memory_replace, List.length_set]
    exact h.cell
  · dsimp only
    rw [Function.update_self, Archive.get_replace h.cell, if_pos rfl]
    rfl
  · rwa [draft?_update hdraft]

/-- Who has been told has no more turns. -/
lemma rested {r : Except Fault Settings} (ht : callers t = .told r) :
    Standing k edit a (ts ++ [t]) b (Function.update callers t (.told r)) := by
  have hcount : 3 = min (ts.count t) 3 := h.turns_of ht
  have hdraft : (Editing.told r).draft? = (callers t).draft? := by rw [ht]
  refine ⟨h.cell, h.turns_concat (by simp only [Editing.turns]; omega), h.draft_concat hdraft,
    h.memory.concat (by omega) id fun i _ hi => ?_, h.file.concat (by omega) id fun i _ hi => ?_⟩
  · rwa [draft?_update hdraft]
  · rwa [draft?_update hdraft]

end Standing

/-! ### Whole schedules -/

variable {k : Keeper} {edit : Bool → Settings → Settings} {a : Archive} {ts : List Bool}
  {o : Overlap} {i t : Bool}

/-- A turn fails, or what stood still stands. -/
lemma Standing.step (h : Standing k edit a ts o.archive o.callers) :
    (∃ f, (o.step k edit t).callers t = .told (.error f)) ∨
      Standing k edit a (ts ++ [t]) (o.step k edit t).archive (o.step k edit t).callers := by
  have hadvance := Editing.advance_cases k (edit t) o.archive (o.callers t)
  unfold Overlap.step
  generalize Editing.advance k (edit t) o.archive (o.callers t) = p at hadvance ⊢
  obtain ⟨b, e⟩ := p
  generalize ht : o.callers t = e₀ at hadvance
  cases hadvance with
  | read => exact .inr (h.read ht)
  | @failed s f => exact .inl ⟨f, Function.update_self _ _ _⟩
  | wrote valid saving => exact .inr (h.wrote ht valid saving)
  | replaced => exact .inr (h.replaced ht)
  | rested => exact .inr (h.rested ht)

/-- Who has been told stays with that. -/
lemma step_of_told {r : Except Fault Settings} (h : o.callers i = .told r) :
    (o.step k edit t).callers i = .told r := by
  unfold step
  rcases eq_or_eq_not i t with rfl | rfl
  · rw [h]
    exact Function.update_self _ _ _
  · exact (update_not _ _ _).trans h

/-- **What stands after a schedule** in which nobody failed. -/
theorem standing_play (hk : k.cell < a.memory.length) (ts : List Bool) :
    let o := Overlap.play k edit ⟨a, fun _ => .due⟩ ts
    (∃ i f, o.callers i = .told (.error f)) ∨ Standing k edit a ts o.archive o.callers := by
  induction ts using List.reverseRecOn with
  | nil => exact .inr (.start hk)
  | append_singleton ts t ih =>
    have hplay : Overlap.play k edit ⟨a, fun _ => .due⟩ (ts ++ [t]) =
        (Overlap.play k edit ⟨a, fun _ => .due⟩ ts).step k edit t := by
      unfold play
      rw [List.foldl_append]
      rfl
    rw [hplay]
    rcases ih with ⟨i, f, hf⟩ | h
    · exact .inl ⟨i, f, step_of_told hf⟩
    · exact h.step.imp_left fun ⟨f, hf⟩ => ⟨t, f, hf⟩

/-- **Edits that overlap.**  Two callers edit the settings of one keeper, with their turns in any
order, and both succeed.  If one of them reads after the other has replaced the copy, the copy and
the file hold the settings with both edits, one after the other.  Else each has edited the settings
that were there at first; the copy is that of the one who replaced it last, and the file that of
the one who wrote it last. -/
theorem overlapping (hk : k.cell < a.memory.length)
    (hs : ∀ i, ∃ s, (Overlap.play k edit ⟨a, fun _ => .due⟩ ts).callers i = .told (.ok s)) :
    let b := (Overlap.play k edit ⟨a, fun _ => .due⟩ ts).archive
    (∀ i, Precedes ts (!i) 3 i 1 → b.get k = edit i (edit (!i) (a.get k)) ∧
      read b.disk k.path = .ok (some (edit i (edit (!i) (a.get k))))) ∧
    ((∀ i, ¬Precedes ts (!i) 3 i 1) →
      (∃ i, Precedes ts (!i) 3 i 3 ∧ b.get k = edit i (a.get k)) ∧
      ∃ i, Precedes ts (!i) 2 i 2 ∧ read b.disk k.path = .ok (some (edit i (a.get k)))) := by
  intro b
  have h : Standing k edit a ts b (Overlap.play k edit ⟨a, fun _ => .due⟩ ts).callers := by
    refine (standing_play hk ts).resolve_left ?_
    rintro ⟨i, f, hf⟩
    obtain ⟨s, hi⟩ := hs i
    cases hf.symm.trans hi
  have hcount : ∀ i, 3 ≤ ts.count i := by
    intro i
    obtain ⟨s, hi⟩ := hs i
    have hturns : 3 = min (ts.count i) 3 := h.turns_of hi
    omega
  obtain ⟨i₃, hlast₃, hmemory⟩ := h.memory.resolve_left fun ⟨hnone, _⟩ =>
    absurd (hcount true) (Nat.not_le.mpr (hnone true))
  obtain ⟨i₂, hlast₂, s, hdraft₂, hfile⟩ := h.file.resolve_left fun ⟨hnone, _⟩ =>
    absurd (hcount true) (by have := hnone true; omega)
  have hcount₂ : 2 ≤ ts.count (!i₂) := (Nat.le_succ 2).trans (hcount _)
  refine ⟨fun i hi => ?_, fun hnone => ⟨⟨i₃, hlast₃.2 (hcount _), ?_⟩, i₂, hlast₂.2 hcount₂, ?_⟩⟩
  · -- the other neither replaced the copy later nor wrote the file later
    obtain rfl : i₃ = i := hlast₃.eq_of_precedes (hcount _) hi (by decide)
    obtain rfl : i₂ = i₃ := hlast₂.eq_of_precedes hcount₂ hi (by decide)
    obtain rfl := Option.some.inj (hdraft₂.symm.trans hmemory)
    obtain ⟨-, u, hu, hedit⟩ := (h.draft i₂ _ hmemory).resolve_left fun hn => hn.1 hi
    have hother := (h.draft (!i₂) u hu).resolve_right fun ⟨hp, _⟩ => by
      rw [Bool.not_not] at hp
      exact hi.asymm (by decide) (by decide) hp
    rw [hother.2] at hedit
    rw [hedit] at hfile
    exact ⟨hedit, hfile⟩
  · exact ((h.draft i₃ _ hmemory).resolve_right fun hp => hnone i₃ hp.1).2
  · rwa [← ((h.draft i₂ s hdraft₂).resolve_right fun hp => hnone i₂ hp.1).2]

/-- One caller gives less time, the other another name. -/
def hasteOrName : Bool → Settings → Settings
  | true, s => { s with timeoutMs := 5 }
  | false, s => { s with userAgent := "x" }

/-- The archive in which a keeper has made its file. -/
def opened : Archive := (Archive.openFile ⟨Disk.empty, []⟩ "c.json").archive

/-- Both read first; then the one writes before the other, but replaces the copy after it. -/
def apart : Overlap :=
  play ⟨"c.json", 0⟩ hasteOrName ⟨opened, fun _ => .due⟩ [true, false, true, false, false, true]

/-- Both read first; then the one has its other turns after the other. -/
def covered : Overlap :=
  play ⟨"c.json", 0⟩ hasteOrName ⟨opened, fun _ => .due⟩ [true, false, false, false, true, true]

theorem overlapping_of_apart :
    (∀ i, ∃ s, apart.callers i = .told (.ok s)) ∧
      apart.archive.get ⟨"c.json", 0⟩ = { timeoutMs := 5 } ∧
      read apart.archive.disk "c.json" = .ok (some { userAgent := "x" }) := by
  have hk : (⟨"c.json", 0⟩ : Keeper).cell < opened.memory.length := Nat.one_pos
  have hs : ∀ i, ∃ s, apart.callers i = .told (.ok s)
    | true => ⟨_, rfl⟩
    | false => ⟨_, rfl⟩
  obtain ⟨-, h⟩ := overlapping hk hs
  obtain ⟨⟨i, hi, hget⟩, j, hj, hread⟩ := h (by decide)
  have hfirst : ∀ i, Precedes [true, false, true, false, false, true] (!i) 3 i 3 → i = true := by
    decide
  have hsecond : ∀ j, Precedes [true, false, true, false, false, true] (!j) 2 j 2 → j = false := by
    decide
  obtain rfl := hfirst i hi
  obtain rfl := hsecond j hj
  exact ⟨hs, hget, hread⟩

/-- Edits can be lost, and the copy can come to differ from the file, although both callers
succeed. -/
theorem edits_lost :
    ((∀ i, ∃ s, covered.callers i = .told (.ok s)) ∧
      ∀ i, covered.archive.get ⟨"c.json", 0⟩ ≠
        hasteOrName i (hasteOrName (!i) (opened.get ⟨"c.json", 0⟩))) ∧
    (∀ i, ∃ s, apart.callers i = .told (.ok s)) ∧
      read apart.archive.disk "c.json" ≠ .ok (some (apart.archive.get ⟨"c.json", 0⟩)) := by
  have hread : read apart.archive.disk "c.json" = .ok (some { userAgent := "x" }) :=
    read_of_pretty rfl rfl
  refine ⟨⟨fun i => ?_, fun i => ?_⟩, fun i => ?_, fun he => ?_⟩
  · cases i <;> exact ⟨_, rfl⟩
  · show ({ timeoutMs := 5 } : Settings) ≠ hasteOrName i (hasteOrName (!i) {})
    decide +revert
  · cases i <;> exact ⟨_, rfl⟩
  · have hsame := Option.some.inj (Except.ok.inj (hread.symm.trans he))
    exact absurd (congrArg Settings.userAgent hsame) (by decide)

end Overlap

end Courier.Settings

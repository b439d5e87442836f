import Courier.Proofs.Queue.Stirs
import Mathlib.Algebra.GroupWithZero.Nat

/-!
What a poll of a worker leaves behind (`Queue.Turn`).  No worker that could go on is left asleep,
permits are free only if nobody waits for one, and the polled worker has ended or is blocked until
something comes from outside.

The tasks that a poll wakes are paid for: a worker wakes the reader or itself once, and is itself
woken once by a permit that is given back, so the tasks that are ready and the tasks that can still
be woken become no more (`Queue.load`).
-/

namespace Courier

variable {α : Type}

/-- How many tasks are still woken on account of a worker. -/
def Stage.owes : Stage → Nat
  | fresh | inLine => 2
  | granted | sending _ => 1
  | ended => 0

lemma Stage.one_le_owes {s : Stage} (hs : s ≠ .ended) : 1 ≤ s.owes := by
  cases s with
  | ended => exact absurd rfl hs
  | fresh | inLine | granted | sending c => simp [owes]

namespace Queue

variable {q q₀ q₁ q₂ : Queue α} {i j n : Nat} {e e' : Entry α} {h : Hand}

/-! ### Attention -/

/-- The worker of an entry cannot go on by itself. -/
def Blocked (q : Queue α) (e : Entry α) : Prop :=
  e.signal = false ∧ (e.stage = .inLine ∨
    ∃ (c : Nat) (k : Call), e.stage = .sending c ∧ q.calls[c]? = some k ∧ k.answer = none)

/-- The worker of an entry has ended, is ready to go on, or is blocked. -/
def Attended (q : Queue α) (j : Nat) : Prop :=
  ∀ e, q.entries[j]? = some e → e.stage ≠ .ended → .worker j ∈ q.ready ∨ q.Blocked e

/-- No permit is free while somebody waits for one. -/
def Tight (q : Queue α) : Prop := ∀ l, q.limiter = some l → l.line ≠ [] → l.free = 0

/-- The tasks that are ready, and those that can still be woken with nothing from outside. -/
def load (q : Queue α) : Nat :=
  q.ready.length + (q.entries.map (·.stage.owes)).sum + q.hasPosters.toNat

/-- From `q` to `q'` the worker `i` does not disappoint the others. -/
structure Heeds (q q' : Queue α) (i : Nat) : Prop extends q.Faithful q' where
  length : q'.entries.length = q.entries.length
  others : ∀ j, j ≠ i → q.Attended j → q'.Attended j
  tight : q.Tight → q'.Tight

lemma Blocked.mono (b : q.Blocked e) (f : q.Faithful q₁) : q₁.Blocked e := by
  refine ⟨b.1, b.2.imp_right ?_⟩
  rintro ⟨c, k, hs, hk, ha⟩
  obtain ⟨k', hk', -, -, ha'⟩ := f.kept c k hk
  exact ⟨c, k', hs, hk', ha'.trans ha⟩

lemma Attended.mono (a : q.Attended j) (f : q.Faithful q₁)
    (he : q₁.entries[j]? = q.entries[j]?) (hr : q.ready ⊆ q₁.ready) : q₁.Attended j := by
  intro e hj hs
  rw [he] at hj
  exact (a e hj hs).imp (fun h => hr h) (·.mono f)

namespace Heeds

theorem trans (x : q.Heeds q₁ i) (y : q₁.Heeds q₂ i) : q.Heeds q₂ i :=
  ⟨x.toFaithful.trans y.toFaithful, y.length.trans x.length,
    fun j hj a => y.others j hj (x.others j hj a), fun t => y.tight (x.tight t)⟩

theorem refl (q : Queue α) : q.Heeds q i := ⟨.of_eq rfl rfl, rfl, fun _ _ => id, id⟩

/-- The other entries stay as they are, and who is ready stays ready. -/
theorem of_others (f : q.Faithful q₁) (hl : q₁.entries.length = q.entries.length)
    (ho : ∀ j, j ≠ i → q₁.entries[j]? = q.entries[j]?) (hr : q.ready ⊆ q₁.ready)
    (ht : q.Tight → q₁.Tight) : q.Heeds q₁ i :=
  ⟨f, hl, fun j hj a => a.mono f (ho j hj) hr, ht⟩

end Heeds

theorem Stirs.heeds (x : q.Stirs q₁ i n) : q.Heeds q₁ i := by
  have hl : q₁.entries.length = q.entries.length := by
    have h := congrArg List.length x.stages
    rwa [List.length_map, List.length_map] at h
  obtain ⟨ts, hts, -⟩ := x.woken
  refine .of_others x.toFaithful hl x.others ?_ fun t l hlim => t l (x.limiter ▸ hlim)
  rw [hts]
  exact List.subset_append_left ..

lemma heeds_setStage (q : Queue α) (s : Stage) : q.Heeds (q.setStage i s) i :=
  .of_others (.of_eq rfl rfl) (length_modify _) (fun _ hj => getElem?_modify_of_ne hj)
    (List.Subset.refl _) id

lemma heeds_withLimiter {l l' : Limiter} (hl : q.limiter = some l)
    (ht : (l.line ≠ [] → l.free = 0) → l'.line ≠ [] → l'.free = 0) :
    q.Heeds { q with limiter := some l' } i := by
  refine .of_others (.of_eq rfl rfl) rfl (fun _ _ => rfl) (List.Subset.refl _) fun t l₁ hl₁ => ?_
  cases hl₁
  exact ht (t l hl)

/-! ### What is owed -/

lemma sum_map_modify {β : Type} {xs : List β} {x : β} (f : β → β) (g : β → Nat)
    (hx : xs[i]? = some x) :
    ((xs.modify i f).map g).sum + g x = (xs.map g).sum + g (f x) := by
  induction xs generalizing i with
  | nil => cases hx
  | cons y ys ih =>
    cases i with
    | zero =>
      cases hx
      simp only [List.modify_zero_cons, List.map_cons, List.sum_cons]
      omega
    | succ i =>
      have := ih hx
      simp only [List.modify_succ_cons, List.map_cons, List.sum_cons]
      omega

lemma Stirs.load_le (x : q.Stirs q₁ i n) : q₁.load ≤ q.load + n := by
  have hsum : (q₁.entries.map (·.stage.owes)) = q.entries.map (·.stage.owes) := by
    have h := congrArg (List.map Stage.owes) x.stages
    rwa [List.map_map, List.map_map] at h
  obtain ⟨ts, hts, hn⟩ := x.woken
  unfold load
  rw [hsum, x.posters, hts, List.length_append]
  omega

lemma load_setStage (he : q.entries[i]? = some e) (s : Stage) :
    (q.setStage i s).load + e.stage.owes = q.load + s.owes := by
  have h := sum_map_modify (fun e : Entry α => { e with stage := s }) (·.stage.owes) he
  dsimp only at h
  show q.ready.length + ((q.entries.modify i _).map _).sum + q.hasPosters.toNat + _ = _
  unfold load
  omega

/-! ### The line -/

theorem Lined.of_others (lined : q.Lined i) (hl : q₁.limiter = q.limiter)
    (ho : ∀ j, j ≠ i → q₁.entries[j]? = q.entries[j]?) : q₁.Lined i := by
  intro l hlim j hj
  obtain ⟨hne, e, he, hs⟩ := lined l (hl ▸ hlim) j hj
  exact ⟨hne, e, (ho j hne).trans he, hs⟩

lemma subset_ready_wake (q : Queue α) (t : Task) : q.ready ⊆ (q.wake t).ready := by
  obtain ⟨ts, hts, -⟩ := (stirs_wake (i := 0) q t).woken
  rw [hts]
  exact List.subset_append_left ..

lemma mem_ready_wake (q : Queue α) (t : Task) : t ∈ (q.wake t).ready := by
  unfold wake
  split
  · assumption
  · exact List.mem_append_right _ (List.mem_singleton_self t)

/-- A worker in line is handed a permit and woken. -/
lemma heeds_grant (hj : j ≠ i) : q.Heeds ((q.setStage j .granted).wake (.worker j)) i := by
  have a := alike_wake (q.setStage j .granted) (.worker j)
  have f : q.Faithful ((q.setStage j .granted).wake (.worker j)) :=
    .of_eq (instant_wake _ _) a.calls
  refine ⟨f, by rw [a.entries]; exact length_modify _, fun y _ hy => ?_, fun t l hl => ?_⟩
  · rcases eq_or_ne y j with rfl | hne
    · exact fun _ _ _ => .inl (mem_ready_wake _ _)
    · refine hy.mono f ?_ (subset_ready_wake (q.setStage j .granted) _)
      rw [a.entries]
      exact getElem?_modify_of_ne hne
  · exact t l (a.limiter ▸ hl)

lemma load_grant (he : q.entries[j]? = some e) (hs : e.stage = .inLine) :
    ((q.setStage j .granted).wake (.worker j)).load ≤ q.load := by
  have hstage := load_setStage he .granted
  have hwake := (stirs_wake (i := j) (q.setStage j .granted) (.worker j)).load_le
  rw [hs] at hstage
  simp only [Stage.owes] at hstage
  omega

/-- A permit that is given back is kept, or it goes to a worker in line, which is woken. -/
theorem Lined.release (lined : q.Lined i) :
    q.Heeds q.release i ∧ q.release.load ≤ q.load ∧ q.release.entries[i]? = q.entries[i]? ∧
      q.release.active = q.active := by
  cases hl : q.limiter with
  | none =>
    rw [release_of_none hl]
    exact ⟨.refl q, Nat.le_refl _, rfl, rfl⟩
  | some l =>
    cases hline : l.line with
    | nil =>
      rw [release_of_nil hl hline]
      exact ⟨heeds_withLimiter hl fun _ hne => absurd hline hne, Nat.le_refl _, rfl, rfl⟩
    | cons j rest =>
      obtain ⟨hne, e, he, hs⟩ := lined l hl j (by rw [hline]; exact List.mem_cons_self ..)
      rw [release_of_cons hl hline]
      have x : q.Heeds { q with limiter := some { l with line := rest } } i :=
        heeds_withLimiter hl fun t _ => t (by rw [hline]; exact List.cons_ne_nil j rest)
      have a := alike_wake ({ q with limiter := some { l with line := rest } }.setStage j .granted)
        (.worker j)
      refine ⟨x.trans (heeds_grant hne), load_grant (q := { q with limiter := _ }) he hs, ?_, a.active⟩
      rw [a.entries]
      exact getElem?_modify_of_ne (q := q) hne.symm

/-! ### The end of a worker -/

/-- The reader is woken only where nobody can post any more. -/
lemma noticePosters_cases (q : Queue α) :
    q.noticePosters = q ∧ q.hasPosters = true ∨
      q.noticePosters = q.wakeReader ∧ q.hasPosters = false := by
  unfold noticePosters
  cases q.hasPosters with
  | true => exact .inl ⟨rfl, rfl⟩
  | false => exact .inr ⟨rfl, rfl⟩

lemma heeds_noticePosters (q : Queue α) : q.Heeds q.noticePosters i := by
  rcases q.noticePosters_cases with ⟨hq, -⟩ | ⟨hq, -⟩
  · rw [hq]
    exact .refl q
  · rw [hq]
    exact (stirs_wakeReader q).heeds

/-- What an active worker owes the reader is no longer owed when the worker is not listed. -/
lemma load_unlist (lives : i ∈ q.active) : (q.unlist i).noticePosters.load ≤ q.load := by
  have hposters : q.hasPosters = true := by
    unfold hasPosters
    rw [List.isEmpty_eq_false_iff.mpr (List.ne_nil_of_mem lives)]
    simp
  have hload : (q.unlist i).load + 1 = q.load + (q.unlist i).hasPosters.toNat := by
    show q.ready.length + (q.entries.map _).sum + _ + 1 = _
    unfold load
    rw [hposters]
    simp only [Bool.toNat_true]
    omega
  rcases (q.unlist i).noticePosters_cases with ⟨hq, hp⟩ | ⟨hq, hp⟩
  · rw [hq]
    rw [hp] at hload
    simp only [Bool.toNat_true] at hload
    omega
  · have hwake := (stirs_wakeReader (i := i) (q.unlist i)).load_le
    rw [hq]
    rw [hp] at hload
    simp only [Bool.toNat_false] at hload
    omega

theorem Lined.releaseIf (lined : q.Lined i) (permit : Bool) :
    q.Heeds (q.releaseIf permit) i ∧ (q.releaseIf permit).load ≤ q.load ∧
      (q.releaseIf permit).entries[i]? = q.entries[i]? ∧
      (q.releaseIf permit).active = q.active := by
  cases permit with
  | true => exact lined.release
  | false => exact ⟨.refl q, Nat.le_refl _, rfl, rfl⟩

/-- The worker ends: the others are heeded, and what was owed on its account is owed no more. -/
theorem Lined.retire (lined : q.Lined i) (he : q.entries[i]? = some e) (lives : i ∈ q.active)
    (permit : Bool) : q.Heeds (q.retire i permit) i ∧
      (q.retire i permit).load + e.stage.owes ≤ q.load ∧
      ((q.retire i permit).entries[i]?).map Entry.stage = some .ended := by
  have lined₁ : (q.setStage i .ended).Lined i :=
    lined.of_others rfl fun _ hj => getElem?_modify_of_ne hj
  have hload₁ : (q.setStage i .ended).load + e.stage.owes = q.load := load_setStage he .ended
  obtain ⟨x₂, hload₂, he₂, ha₂⟩ := lined₁.releaseIf permit
  unfold Queue.retire
  generalize (q.setStage i .ended).releaseIf permit = q₂ at x₂ hload₂ he₂ ha₂
  have x₃ : q₂.Heeds (q₂.unlist i) i :=
    .of_others (.of_eq rfl rfl) rfl (fun _ _ => rfl) (List.Subset.refl _) id
  have hload₃ : (q₂.unlist i).noticePosters.load ≤ q₂.load := load_unlist (ha₂ ▸ lives)
  have a := alike_noticePosters (q₂.unlist i)
  refine ⟨((heeds_setStage q .ended).trans x₂).trans (x₃.trans (heeds_noticePosters _)), ?_, ?_⟩
  · omega
  · rw [a.entries]
    show (q₂.entries[i]?).map _ = _
    rw [he₂, Queue.setStage, getElem?_modify_self he]
    rfl

/-! ### Turns -/

/-- What the poll of the worker `i` leads to from `q`: it has heeded the others, wakes no more than
is owed, and cannot go on by itself. -/
structure Turn (q q' : Queue α) (i : Nat) : Prop extends q.Heeds q' i where
  load_le : q'.load ≤ q.load
  rests : q'.Attended i

/-- The worker `i` has got going from `q`, with `h` in hand, and does not wait in line. -/
structure Going (q q' : Queue α) (i : Nat) (e : Entry α) (h : Hand) : Prop
    extends q.Polling q' i e h where
  heeds : q.Heeds q' i
  load_le : q'.load ≤ q.load
  apart : h.inLine = false

namespace Going

/-- The worker works, and ends. -/
theorem ends (g : q.Going q₁ i e h) (hs : e.stage ≠ .ended) (x : q₁.Stirs q₂ i 1)
    (permit : Bool) : q.Turn (q₂.retire i permit) i := by
  obtain ⟨e₂, he₂, -⟩ := x.goesOn e g.here
  have lined := (g.lined g.apart).of_others x.limiter x.others
  obtain ⟨y, hload, hended⟩ := lined.retire he₂ (x.active ▸ g.lives) permit
  have hx := x.load_le
  have hg := g.load_le
  have howes := Stage.one_le_owes hs
  rw [x.stage_eq g.here he₂] at hload
  refine ⟨(g.heeds.trans x.heeds).trans y, by omega, fun e' he' hne => absurd ?_ hne⟩
  rw [he'] at hended
  exact Option.some.inj hended

/-- The worker waits for the answer to a call that it has placed. -/
theorem sends {c : Nat} {k : Call} (g : q.Going q₁ i e h) (hs : e.stage ≠ .ended)
    (x : q₁.Stirs q₂ i 0) (he : q₂.entries[i]? = some e') (hsig : e'.signal = false)
    (hk : q₂.calls[c]? = some k) (ha : k.answer = none) :
    q.Turn (q₂.setStage i (.sending c)) i := by
  have hload : (q₂.setStage i (.sending c)).load + e'.stage.owes = q₂.load + 1 :=
    load_setStage he (.sending c)
  have hx := x.load_le
  have hg := g.load_le
  have howes := Stage.one_le_owes hs
  rw [x.stage_eq g.here he] at hload
  refine ⟨(g.heeds.trans x.heeds).trans (heeds_setStage _ _), by omega, fun e₁ he₁ _ => .inr ?_⟩
  rw [Queue.setStage, getElem?_modify_self he] at he₁
  cases he₁
  exact ⟨hsig, .inr ⟨c, k, rfl, hk, ha⟩⟩

end Going

end Queue

end Courier

import Courier.Proofs.Queue.Runs
import Courier.Queue.Session

/-!
The lifecycle of a request: its phase moves along the edges that there are, from idle on, and never
on from a phase in which it is finished.  When its worker is done exactly one outcome was sent, and
it is the outcome of that phase, so what the caller waits for and what it sees agree.
-/

namespace Courier

variable {α : Type}

/-! ### Paths -/

namespace Phase

variable {p p' p'' : Phase} {ms ns : List (Phase × Phase)}

/-- The changes of phase that there are. -/
def edges : List (Phase × Phase) :=
  [(idle, executing), (idle, cancelled), (executing, completed), (executing, failed),
    (executing, cancelled)]

/-- Changes lead from one phase to another, each along an edge. -/
def Leads : Phase → List (Phase × Phase) → Phase → Prop
  | p, [], p' => p = p'
  | p, m :: ms, p' => m.1 = p ∧ m ∈ edges ∧ Leads m.2 ms p'

lemma leads_of_append (h : Leads p (ms ++ ns) p'') (h' : Leads p ms p') : Leads p' ns p'' := by
  induction ms generalizing p with
  | nil =>
    cases h'
    exact h
  | cons m ms ih => exact ih h.2.2 h'.2.2

lemma eq_of_leads (h : Leads p ms p') (hp : p.isTerminal = true) : p' = p := by
  cases ms with
  | nil => exact h.symm
  | cons m ms =>
    obtain ⟨rfl, hm, -⟩ := h
    have hall : ∀ m ∈ edges, m.1.isTerminal = false := by decide
    cases (hall m hm).symm.trans hp

end Phase

namespace Outcome

lemma eq_cancelled {o : Outcome α} (ho : o.phase = .cancelled) : o = .cancelled := by
  cases o <;> first | rfl | cases ho

end Outcome

namespace Entry

variable {e : Entry α} {hooks : List Hook} {status : UInt16} {i : Nat}

open Deed

/-- A request whose worker lives has come to its phase along the edges, and its handle has got
nothing yet. -/
lemma Live.path (live : e.Live) : Phase.Leads .idle e.moves e.phase ∧ e.outcomes = [] := by
  unfold moves outcomes
  cases live with
  | waiting _ _ is =>
    rw [is.deeds, is.phase]
    exact ⟨rfl, rfl⟩
  | calledOff _ is =>
    rw [is.deeds, is.phase]
    exact ⟨⟨rfl, by decide, rfl⟩, rfl⟩
  | sending c r _ _ is =>
    rw [is.deeds, is.phase]
    exact ⟨⟨rfl, by decide, rfl⟩, rfl⟩
  | leaving c r _ _ is =>
    rw [is.deeds, is.phase]
    exact ⟨⟨rfl, by decide, rfl, by decide, rfl⟩, rfl⟩

/-- A request that is over has come to its phase along the edges, and its handle has got the
outcome of that phase. -/
lemma Over.path (past : e.Over hooks status i) :
    Phase.Leads .idle e.moves e.phase ∧ ∃ o, e.outcomes = [o] ∧ o.phase = e.phase := by
  unfold moves outcomes
  cases past with
  | calledOff is =>
    rw [is.deeds, is.phase]
    exact ⟨⟨rfl, by decide, rfl⟩, .cancelled, rfl, rfl⟩
  | unsent fault accepted _ is =>
    rw [is.deeds, is.phase, List.filterMap_append, List.filterMap_append,
      filterMap_failing (fun _ => rfl) rfl, filterMap_failing (fun _ => rfl) rfl]
    exact ⟨⟨rfl, by decide, rfl, by decide, rfl⟩, .failed _, rfl, rfl⟩
  | left c r _ is =>
    rw [is.deeds, is.phase]
    exact ⟨⟨rfl, by decide, rfl, by decide, rfl⟩, .cancelled, rfl, rfl⟩
  | completed c r a v n accepted _ _ _ is =>
    rw [is.deeds, is.phase, List.filterMap_append, List.filterMap_append,
      filterMap_exchanged rfl rfl rfl, filterMap_exchanged rfl rfl rfl, filterMap_completing rfl,
      filterMap_completing rfl]
    exact ⟨⟨rfl, by decide, rfl, by decide, rfl⟩, .completed v, rfl, rfl⟩
  | failed c r a f n accepted _ _ _ is =>
    rw [is.deeds, is.phase, List.filterMap_append, List.filterMap_append,
      filterMap_exchanged rfl rfl rfl, filterMap_exchanged rfl rfl rfl,
      filterMap_failing (fun _ => rfl) rfl, filterMap_failing (fun _ => rfl) rfl]
    exact ⟨⟨rfl, by decide, rfl, by decide, rfl⟩, .failed f, rfl, rfl⟩
  | withdrawn c r a _ _ _ is =>
    rw [is.deeds, is.phase]
    exact ⟨⟨rfl, by decide, rfl, by decide, rfl⟩, .cancelled, rfl, rfl⟩

/-- The entry of a worker that vanishes. -/
def vanished (e : Entry α) : Entry α :=
  match e.stage with
  | .sending c => { e.after [.aborted c] with stage := .ended }
  | _ => { e with stage := .ended }

lemma vanished_eq (e : Entry α) : e.vanished.phase = e.phase ∧
    e.vanished.outcomes = e.outcomes ∧ e.vanished.stage = .ended := by
  unfold vanished outcomes
  split <;> simp [after, Deed.outcome?]

end Entry

/-! ### Waiting -/

namespace Session

variable {u : Session α} {name : String} {i : Nat}

/-- Under the name the caller has what it can wait with for the outcome of the entry. -/
def Holds (u : Session α) (name : String) (i : Nat) : Prop :=
  u.slot? name = some (.handle i) ∨ u.slot? name = some (.waiting i)

lemma wait_of_holds (hold : u.Holds name i) :
    (u.wait name).1 = match u.awaitEntry i with
      | some o => .outcome o
      | none => .pending := by
  unfold wait
  rcases hold with hslot | hslot
  all_goals
    rw [hslot]
    dsimp only
    cases u.awaitEntry i <;> rfl

end Session

namespace Queue

variable {q : Queue α} {s : Settings} {i : Nat} {e : Entry α}

lemma story_leads {hooks : List Hook} {status : UInt16} (story : e.Story hooks status i) :
    Phase.Leads .idle e.moves e.phase := by
  rcases story with live | ⟨-, past⟩
  · exact live.path.1
  · exact past.path.1

/-! ### Later states -/

section Later

variable {q₁ : Queue α} {e' : Entry α}

/-- A worker that has ended does not come back. -/
lemma Advances.live (x : q.Advances q₁) (sound : q.Sound) (he : q.entries[i]? = some e)
    (he' : q₁.entries[i]? = some e') (hs : e'.stage ≠ .ended) : e.stage ≠ .ended := by
  intro hended
  obtain ⟨-, o, ho, -⟩ := ((sound.stories i e he).past hended).path
  obtain ⟨e₁, he₁, -, ds, hds⟩ := x.grown.entries i e he
  cases he'.symm.trans he₁
  have hnone := ((x.sound.stories i e' he').live hs).path.2
  unfold Entry.outcomes at ho hnone
  rw [← hds, List.filterMap_append, ho] at hnone
  cases hnone

/-- What was sent to the handle of a request whose worker has ended is all that is ever sent. -/
lemma Advances.ended (x : q.Advances q₁) (sound : q.Sound) (he : q.entries[i]? = some e)
    (hs : e.stage = .ended) :
    ∃ e', q₁.entries[i]? = some e' ∧ e'.stage = .ended ∧ e'.outcomes = e.outcomes := by
  obtain ⟨e', he', -, ds, hds⟩ := x.grown.entries i e he
  have hended : e'.stage = .ended := by
    by_contra hlive
    exact x.live sound he he' hlive hs
  obtain ⟨-, o, ho, -⟩ := ((sound.stories i e he).past hs).path
  obtain ⟨-, o', ho', -⟩ := ((x.sound.stories i e' he').past hended).path
  refine ⟨e', he', hended, ?_⟩
  unfold Entry.outcomes at ho ho' ⊢
  rw [← hds, List.filterMap_append, ho, List.singleton_append] at ho'
  obtain ⟨-, hnil⟩ := List.cons.inj ho'
  rw [← hds, List.filterMap_append, hnil, List.append_nil]

end Later

/-! ### What a caller is told -/

lemma entries_vanish (q : Queue α) (j : Nat) :
    (q.vanish j).entries = q.entries.modify j Entry.vanished := by
  refine List.ext_getElem? fun i => ?_
  rw [List.getElem?_modify]
  unfold vanish
  cases he : q.entries[j]? with
  | none =>
    by_cases hij : j = i
    · subst hij
      simp [he]
    · simp [hij]
  | some e =>
    by_cases hij : j = i
    · subst hij
      rw [he, Option.map_some]
      split
      · rename_i c heq
        refine (getElem?_modify_self (getElem?_modify_self he)).trans ?_
        simp [Entry.vanished, Option.some.inj heq, Entry.after]
      · rename_i hne heq
        refine (getElem?_modify_self he).trans ?_
        cases hs : e.stage <;> simp_all [Entry.vanished]
      · contradiction
    · have hij' : i ≠ j := fun h => hij h.symm
      rw [Option.map_some]
      split
      · refine ((getElem?_modify_of_ne hij').trans (getElem?_modify_of_ne hij')).trans ?_
        simp [hij]
        rfl
      · refine (getElem?_modify_of_ne hij').trans ?_
        simp [hij]
      · simp [hij]

/-- Where the tasks vanish the workers end that had not, and nothing more is known of a request. -/
theorem entries_shutDown (q : Queue α) (i : Nat) : ∃ f : Entry α → Entry α,
    (∀ e, (f e).phase = e.phase ∧ (f e).outcomes = e.outcomes ∧
      (i ∈ q.active ∨ e.stage = .ended → (f e).stage = .ended)) ∧
    q.shutDown.entries[i]? = (q.entries[i]?).map f := by
  show ∃ f : Entry α → Entry α, _ ∧ (q.active.foldl vanish q).entries[i]? = _
  generalize q.active = js
  induction js generalizing q with
  | nil => exact ⟨id, fun e => ⟨rfl, rfl, by simp⟩, by simp⟩
  | cons j js ih =>
    obtain ⟨f, hf, heq⟩ := ih (q.vanish j)
    refine ⟨fun e => f (if j = i then e.vanished else e), fun e => ?_, ?_⟩
    · obtain ⟨hp, ho, hs⟩ := hf (if j = i then e.vanished else e)
      obtain ⟨hp', ho', hs'⟩ := e.vanished_eq
      refine ⟨hp.trans ?_, ho.trans ?_, fun h => hs ?_⟩
      · split <;> simp [hp']
      · split <;> simp [ho']
      · by_cases hij : j = i
        · simp [hij, hs']
        · simpa [hij, Ne.symm hij] using h
    · rw [List.foldl_cons, heq, entries_vanish, List.getElem?_modify]
      cases q.entries[i]? <;> rfl

/-- What a caller is told of a request is the outcome that was sent, if one was. -/
lemma awaitEntry_eq {u : Session α} (hu : u.queue = q ∨ u.queue = q.shutDown)
    (he : q.entries[i]? = some e) :
    u.awaitEntry i = match e.outcomes.head? with
      | some o => some o
      | none => if u.vanished then some .cancelled else none := by
  have hout : u.queue.outcome? i = e.outcomes.head? := by
    unfold outcome?
    rcases hu with hu | hu
    · rw [hu, he, ← e.outcome_eq_head?]
      rfl
    · obtain ⟨f, hf, heq⟩ := q.entries_shutDown i
      obtain ⟨-, ho, -⟩ := hf e
      rw [hu, heq, he, ← ho, ← (f e).outcome_eq_head?]
      rfl
  cases ho : e.outcomes.head? <;> simp [Session.awaitEntry, hout, ho]

/-- **The lifecycle of a request.**  Its phase has come along the edges from idle, goes on along
them, and stays where the request is finished.  Nothing is sent to its handle while its worker
lives; when the worker is done the phase is a finished one and exactly one outcome was sent, the
outcome of the phase.  A caller that waits is told that outcome and never another; it is told that
the request is cancelled also where the tasks have vanished before the request was finished. -/
theorem lifecycle (h : Reachable s q) (he : q.entries[i]? = some e) :
    Phase.Leads .idle e.moves e.phase ∧
    (∀ ms : List (Move α), ∃ e' ns, (q.play ms).entries[i]? = some e' ∧
      e'.moves = e.moves ++ ns ∧ Phase.Leads e.phase ns e'.phase ∧
      (e.phase.isTerminal = true → e'.phase = e.phase)) ∧
    (e.stage ≠ .ended → e.outcomes = []) ∧
    (e.stage = .ended → e.phase.isTerminal = true ∧ ∃ o, e.outcomes = [o] ∧ o.phase = e.phase) ∧
    ∀ (u : Session α) (name : String), u.queue = q ∨ u.queue = q.shutDown → u.Holds name i →
      (e.stage = .ended → ∃ o, (u.wait name).1 = .outcome o ∧ e.outcomes = [o]) ∧
      ∀ o, (u.wait name).1 = .outcome o → o.phase = e.phase ∨
        o = .cancelled ∧ e.phase.isTerminal = false ∧ u.vanished = true := by
  have story := h.sound.stories i e he
  refine ⟨story_leads story, fun ms => ?_, fun hs => (story.live hs).path.2, fun hs =>
    ⟨(story.past hs).isTerminal, (story.past hs).path.2⟩, fun u name hu hold => ?_⟩
  · obtain ⟨e', he', -, ds, hds⟩ := (h.sound.play ms).grown.entries i e he
    have hmoves : e'.moves = e.moves ++ ds.filterMap Deed.move? := by
      unfold Entry.moves
      rw [← hds, List.filterMap_append]
    have hall := story_leads ((h.play ms).sound.stories i e' he')
    rw [hmoves] at hall
    have hon := Phase.leads_of_append hall (story_leads story)
    exact ⟨e', _, he', hmoves, hon, Phase.eq_of_leads hon⟩
  · have hwait := Session.wait_of_holds hold
    rw [awaitEntry_eq hu he] at hwait
    by_cases hs : e.stage = .ended
    · obtain ⟨-, o, ho, hp⟩ := (story.past hs).path
      rw [ho] at hwait
      refine ⟨fun _ => ⟨o, hwait, ho⟩, fun o' ho' => .inl ?_⟩
      cases hwait.symm.trans ho'
      exact hp
    refine ⟨fun hended => absurd hended hs, fun o ho => ?_⟩
    rw [(story.live hs).path.2, ho] at hwait
    cases hv : u.vanished with
    | false =>
      rw [hv] at hwait
      cases hwait
    | true =>
      rw [hv] at hwait
      cases hwait
      cases hp : e.phase.isTerminal with
      | false => exact .inr ⟨rfl, rfl, rfl⟩
      | true => exact .inl ((story.live hs).eq_cancelled hp).symm

/-- A request that has no URL to be sent to fails, and that is what its handle gets. -/
theorem lifecycle_of_stray :
    ∃ e, (single.play [.submit stray, .poll (.worker 0)]).entries[0]? = some e ∧
      e.phase = .failed ∧ ∃ o, e.outcomes = [o] ∧ o.phase = .failed := by
  have hends : ((single.play [.submit stray, .poll (.worker 0)]).entries[0]?).map
      (fun e => (e.stage, e.phase)) = some (.ended, .failed) := rfl
  obtain ⟨e, he, hx⟩ := Option.map_eq_some_iff.mp hends
  obtain ⟨hs, hp⟩ := Prod.mk.inj hx
  obtain ⟨-, -, -, hended, -⟩ := lifecycle (reachable_single _) he
  exact ⟨e, he, hp, hp ▸ (hended hs).2⟩

end Queue

end Courier

import Courier.Proofs.Queue.Throughput

/-!
The account of the requests in flight.  A request is listed under its number from its admission on
until its worker ends, once and with what it was submitted with, and nothing else is listed.  So no
request is listed whose outcome was delivered, and a queue at rest lists those that are not finished.
-/

namespace Courier

variable {α : Type}

/-- What a snapshot shows of an entry that has the number `i`. -/
def Entry.listing (e : Entry α) (i : Nat) : ActiveRequest :=
  ⟨i, e.request.kind, e.request.method?, e.request.url?⟩

namespace Queue

variable {q : Queue α} {s : Settings} {i j : Nat} {e : Entry α}

/-! ### The list -/

/-- The requests whose worker has not ended. -/
def unended (q : Queue α) : Finset Nat :=
  (Finset.range q.entries.length).filter fun i => (q.entries[i]?).any (·.stage ≠ .ended)

lemma mem_unended : i ∈ q.unended ↔ ∃ e, q.entries[i]? = some e ∧ e.stage ≠ .ended := by
  unfold unended
  rw [Finset.mem_filter, Finset.mem_range]
  constructor
  · rintro ⟨hi, hs⟩
    have he := List.getElem?_eq_getElem hi
    rw [he] at hs
    exact ⟨_, he, by simpa using hs⟩
  · rintro ⟨e, he, hs⟩
    refine ⟨(List.getElem?_eq_some_iff.mp he).1, ?_⟩
    rw [he]
    simpa using hs

theorem Sound.toFinset_active (sound : q.Sound) : q.active.toFinset = q.unended := by
  ext i
  rw [List.mem_toFinset, mem_unended]
  exact sound.active i

theorem Sound.inFlight_eq (sound : q.Sound) : q.inFlight = q.unended.card := by
  rw [← sound.toFinset_active]
  exact (List.toFinset_card_of_nodup sound.nodup).symm

lemma Sound.outcomes_of_active (sound : q.Sound) (hi : i ∈ q.active)
    (he : q.entries[i]? = some e) : e.outcomes = [] := by
  obtain ⟨e', he', hs⟩ := (sound.active i).mp hi
  cases he.symm.trans he'
  exact ((sound.stories i e he).live hs).path.2

/-! ### The snapshot -/

lemma activeRequest_of_entry (he : q.entries[i]? = some e) :
    q.activeRequest? i = some (e.listing i) := by
  unfold activeRequest?
  rw [he]
  rfl

/-- The snapshot shows the listed requests, in their order. -/
theorem Sound.ids_snapshot (sound : q.Sound) : q.snapshot.active.map (·.id) = q.active := by
  have hid : ∀ i ∈ q.active, (q.activeRequest? i).map (·.id) = some i := by
    intro i hi
    obtain ⟨e, he, -⟩ := (sound.active i).mp hi
    rw [activeRequest_of_entry he]
    rfl
  calc q.snapshot.active.map (·.id)
      = q.active.filterMap fun i => (q.activeRequest? i).map (·.id) := List.map_filterMap
    _ = q.active.filterMap some := List.filterMap_congr hid
    _ = q.active := List.filterMap_some

theorem Sound.mem_snapshot (sound : q.Sound) {a : ActiveRequest} : a ∈ q.snapshot.active ↔
    ∃ (i : Nat) (e : Entry α), q.entries[i]? = some e ∧ e.stage ≠ .ended ∧ a = e.listing i := by
  show a ∈ q.active.filterMap q.activeRequest? ↔ _
  rw [List.mem_filterMap]
  constructor
  · rintro ⟨i, hi, ha⟩
    obtain ⟨e, he, hs⟩ := (sound.active i).mp hi
    rw [activeRequest_of_entry he] at ha
    exact ⟨i, e, he, hs, (Option.some.inj ha).symm⟩
  · rintro ⟨i, e, he, hs, rfl⟩
    exact ⟨i, (sound.active i).mpr ⟨e, he, hs⟩, activeRequest_of_entry he⟩

/-! ### Admission -/

lemma active_enqueue (r : Request α) : (q.enqueue r).active = q.active ++ [q.entries.length] :=
  (alike_wake _ _).active

/-- Only a request that is admitted is listed, and under a number that was not in use. -/
lemma active_submit (r : Request α) :
    ((q.submit r).1 = none → (q.submit r).2.active = q.active) ∧
      ∀ i, (q.submit r).1 = some i →
        q.entries.length = i ∧ (q.submit r).2.active = q.active ++ [i] := by
  cases hr : r.admits q.snapshot with
  | false =>
    rw [submit_of_refused hr]
    exact ⟨fun _ => rfl, fun i hi => nomatch hi⟩
  | true =>
    rw [submit_of_admitted hr]
    refine ⟨nofun, fun i hi => ?_⟩
    cases hi
    exact ⟨rfl, active_enqueue r⟩

/-! ### Shutdown -/

/-- Where the tasks vanish every worker ends, and nothing is listed any more. -/
theorem Sound.shutDown (sound : q.Sound) :
    q.shutDown.active = [] ∧ ∀ e ∈ q.shutDown.entries, e.stage = .ended := by
  refine ⟨rfl, fun e he => ?_⟩
  obtain ⟨i, hi⟩ := List.getElem?_of_mem he
  obtain ⟨f, hf, heq⟩ := q.entries_shutDown i
  rw [heq] at hi
  obtain ⟨e₀, he₀, rfl⟩ := Option.map_eq_some_iff.mp hi
  obtain ⟨-, -, hs⟩ := hf e₀
  refine hs ?_
  by_cases hended : e₀.stage = .ended
  · exact .inr hended
  · exact .inl ((sound.active i).mpr ⟨e₀, he₀, hended⟩)

/-! ### The account -/

/-- At rest those are listed that are not finished. -/
theorem unended_eq_unfinished (sound : q.Sound) (awake : q.Awake) (quiet : q.ready = []) :
    q.unended = q.unfinished := by
  ext i
  by_cases hi : i < q.entries.length
  · have he := List.getElem?_eq_getElem hi
    have hiff := isTerminal_iff_at_rest sound awake quiet he
    rw [mem_unfinished he, mem_unended]
    constructor
    · rintro ⟨e, he', hs⟩
      cases he.symm.trans he'
      exact Bool.eq_false_iff.mpr fun hp => hs (hiff.mp hp)
    · intro hp
      refine ⟨_, he, fun hs => ?_⟩
      rw [hiff.mpr hs] at hp
      cases hp
  · unfold unended unfinished
    simp [hi]

/-- **The account of the requests in flight.**  Each request whose worker has not ended is listed
once, under its number, and nothing else is; the snapshot shows the list with what each request was
submitted with.  Nothing is listed whose outcome was delivered.  A request that is refused is not
listed, and one that is admitted gets a number of its own.  At rest those are listed that are not
finished, and after a shutdown nothing. -/
theorem accounting (h : Reachable s q) :
    q.active.Nodup ∧
    (∀ i, i ∈ q.active ↔ ∃ e, q.entries[i]? = some e ∧ e.stage ≠ .ended) ∧
    q.inFlight = q.unended.card ∧ q.snapshot.inFlight = q.unended.card ∧
    q.snapshot.active.map (·.id) = q.active ∧
    (∀ a ∈ q.snapshot.active, ∃ e, q.entries[a.id]? = some e ∧ a = e.listing a.id) ∧
    (∀ i ∈ q.active, ∀ e, q.entries[i]? = some e → e.outcomes = []) ∧
    (∀ r, ((q.submit r).1 = none → (q.submit r).2.active = q.active) ∧
      ∀ i, (q.submit r).1 = some i → i ∉ q.active ∧ (q.submit r).2.active = q.active ++ [i]) ∧
    (q.ready = [] → q.inFlight = q.unfinished.card) ∧
    q.shutDown.active = [] ∧ ∀ e ∈ q.shutDown.entries, e.stage = .ended := by
  have sound := h.sound
  refine ⟨sound.nodup, sound.active, sound.inFlight_eq, ?_, sound.ids_snapshot, fun a ha => ?_,
    fun i hi e he => sound.outcomes_of_active hi he, fun r => ?_, fun quiet => ?_, sound.shutDown⟩
  · rw [← sound.inFlight_eq]
    show q.snapshot.active.length = q.active.length
    rw [← sound.ids_snapshot, List.length_map]
  · obtain ⟨i, e, he, -, rfl⟩ := sound.mem_snapshot.mp ha
    exact ⟨e, he, rfl⟩
  · obtain ⟨hrefused, hadmitted⟩ := active_submit (q := q) r
    refine ⟨hrefused, fun i hi => ?_⟩
    obtain ⟨rfl, hactive⟩ := hadmitted i hi
    refine ⟨fun hmem => ?_, hactive⟩
    obtain ⟨e, he, -⟩ := (sound.active _).mp hmem
    exact absurd (List.getElem?_eq_some_iff.mp he).1 (Nat.lt_irrefl _)
  · rw [sound.inFlight_eq, unended_eq_unfinished sound h.awake quiet]

/-- Of two requests the one fails that has no URL, and the other stays listed while it waits for
its answer. -/
theorem accounting_of_two :
    (single.play [.submit stray, .submit parcel]).run.inFlight =
      (single.play [.submit stray, .submit parcel]).run.unfinished.card ∧
    (single.play [.submit stray, .submit parcel]).run.active = [1] := by
  have hrun := reachable_single [.submit stray, .submit parcel]
  obtain ⟨-, -, -, -, -, -, -, -, hrest, -⟩ := accounting hrun.run
  exact ⟨hrest hrun.sound.ready_run, rfl⟩

end Queue

end Courier

import Courier.Proofs.Queue.Rest
import Courier.Queue.Session

/-!
Where the answer to a call comes from.  The transport has it at once, or it is handed in for that
call and no other: whatever else happens to a queue, no call gets the answer to another.  And
whatever is done in a session is a run of its queue, so this holds of sessions too.
-/

namespace Courier

variable {α : Type}

namespace Queue

variable {q q₁ : Queue α} {c d : Nat} {r : Http.Request} {a : Answer} {m : Move α}

/-! ### Moves and answers -/

/-- The call of a request has an answer. -/
def Replied (q : Queue α) (c : Nat) (r : Http.Request) (a : Answer) : Prop :=
  ∃ k : Call, q.calls[c]? = some k ∧ k.request = r ∧ k.answer = some a

/-- **Every move** but an answer leaves the answers to calls alone. -/
theorem Sound.faithful_apply (sound : q.Sound) (m : Move α) (hm : ∀ c b, m ≠ .answer c b) :
    q.Faithful (q.apply m) := by
  by_cases hs : ∃ r, m = .submit r
  · obtain ⟨r, rfl⟩ := hs
    show q.Faithful (q.submit r).2
    unfold Queue.submit
    split
    · exact .of_eq (instant_wake _ _) (alike_wake _ _).calls
    · exact .of_eq rfl rfl
  · exact (sound.quiet_apply m (fun r hr => hs ⟨r, hr⟩) hm).1

lemma Faithful.replied (f : q.Faithful q₁) (h : q₁.Replied c r a) :
    q.Replied c r a ∨ q.instant c r = some a := by
  obtain ⟨k, hk, rfl, ha⟩ := h
  rcases Nat.lt_or_ge c q.calls.length with hc | hc
  · have hk₀ := List.getElem?_eq_getElem hc
    obtain ⟨k', hk', hr, -, ha'⟩ := f.kept c _ hk₀
    cases hk.symm.trans hk'
    exact .inl ⟨_, hk₀, hr.symm, ha'.symm.trans ha⟩
  · exact .inr ((f.placed c k hc hk).symm.trans ha)

lemma replied_modifyCall {f : Call → Call} (h : (q.modifyCall d f).Replied c r a)
    (hf : ∀ k, (f k).request = k.request) :
    q.Replied c r a ∨ c = d ∧ ∃ k : Call, k.request = r ∧ (f k).answer = some a ∧
      k.answer ≠ some a := by
  obtain ⟨k, hk, rfl, ha⟩ := h
  obtain ⟨k₀, hk₀, rfl⟩ := getElem?_modifyCall_eq_some.mp hk
  by_cases hcd : d = c
  · rw [if_pos hcd] at ha ⊢
    rw [hf k₀]
    by_cases hsame : k₀.answer = some a
    · exact .inl ⟨k₀, hk₀, rfl, hsame⟩
    · exact .inr ⟨hcd.symm, k₀, rfl, ha, hsame⟩
  · rw [if_neg hcd] at ha ⊢
    exact .inl ⟨k₀, hk₀, rfl, ha⟩

/-- An answer that is handed in is the answer to that call. -/
lemma replied_answer {b : Http.Request → Answer} (h : (q.answer d b).2.Replied c r a) :
    q.Replied c r a ∨ c = d ∧ a = b r := by
  unfold answer at h
  split at h
  · exact .inl h
  split at h
  · exact .inl h
  split at h
  · have h : (q.modifyCall d fun k =>
        { k with used := true, answer := some (b k.request) }).Replied c r a := by
      unfold Replied at h ⊢
      rwa [(alike_wake _ _).calls] at h
    rcases replied_modifyCall h fun _ => rfl with h | ⟨hcd, k, rfl, ha, -⟩
    · exact .inl h
    · exact .inr ⟨hcd, (Option.some.inj ha).symm⟩
  · change (q.modifyCall d _).Replied c r a at h
    rcases replied_modifyCall h fun _ => rfl with h | ⟨-, k, -, ha, hne⟩
    · exact .inl h
    · exact absurd ha hne

lemma instant_apply (sound : q.Sound) (m : Move α) : (q.apply m).instant = q.instant := by
  by_cases hm : ∃ c b, m = .answer c b
  · obtain ⟨c, b, rfl⟩ := hm
    show (q.answer c b).2.instant = q.instant
    unfold answer
    split
    · rfl
    split
    · rfl
    split
    · exact instant_wake _ _
    · rfl
  · exact (sound.faithful_apply m fun c b hb => hm ⟨c, b, hb⟩).instant

/-- **Every move**: an answer that was not there before was there at once, or the move handed it
in. -/
theorem Sound.replied_apply (sound : q.Sound) (h : (q.apply m).Replied c r a) :
    q.Replied c r a ∨ q.instant c r = some a ∨ ∃ b, m = .answer c b ∧ a = b r := by
  by_cases hm : ∃ d b, m = .answer d b
  · obtain ⟨d, b, rfl⟩ := hm
    rcases replied_answer h with h | ⟨rfl, ha⟩
    · exact .inl h
    · exact .inr (.inr ⟨b, rfl, ha⟩)
  · rcases (sound.faithful_apply m fun d b hb => hm ⟨d, b, hb⟩).replied h with h | h
    · exact .inl h
    · exact .inr (.inl h)

/-- **Every run**: an answer that was not there before was there at once, or was handed in for that
call. -/
theorem Sound.replied_play (sound : q.Sound) (ms : List (Move α))
    (h : (q.play ms).Replied c r a) :
    q.Replied c r a ∨ q.instant c r = some a ∨ ∃ b, .answer c b ∈ ms ∧ a = b r := by
  induction ms generalizing q with
  | nil => exact .inl h
  | cons m ms ih =>
    have sound₁ := (sound.apply m).sound
    rcases ih sound₁ h with h₁ | h₁ | ⟨b, hb, ha⟩
    · rcases sound.replied_apply h₁ with h₀ | h₀ | ⟨b, rfl, ha⟩
      · exact .inl h₀
      · exact .inr (.inl h₀)
      · exact .inr (.inr ⟨b, List.mem_cons_self .., ha⟩)
    · rw [instant_apply sound m] at h₁
      exact .inr (.inl h₁)
    · exact .inr (.inr ⟨b, List.mem_cons_of_mem m hb, ha⟩)

end Queue

/-! ### Sessions -/

/-- What is done in a session. -/
inductive Act (α : Type)
  | submit (name : String) (r : Request α)
  | cancel (name : String)
  | cancelAnyway (name : String)
  | wait (name : String)
  /-- the handle of a request is dropped -/
  | drop (name : String)
  | run
  /-- what needs no name -/
  | move (m : Move α)

namespace Session

variable {u : Session α}

def perform (u : Session α) : Act α → Session α
  | .submit name r => (u.submit name r).2
  | .cancel name => (u.cancel name).2
  | .cancelAnyway name => (u.cancelAnyway name).2
  | .wait name => (u.wait name).2
  | .drop name => u.drop name
  | .run => u.run
  | .move m => { u with queue := u.queue.apply m }

def performAll (u : Session α) (acts : List (Act α)) : Session α := acts.foldl perform u

lemma queue_submit (name : String) (r : Request α) :
    (u.submit name r).2.queue = u.queue.apply (.submit r) := by
  show _ = (u.queue.submit r).2
  unfold submit
  split
  · rename_i heq
    exact (congrArg Prod.snd heq).symm
  · rename_i heq
    exact (congrArg Prod.snd heq).symm

lemma queue_wait (name : String) : (u.wait name).2.queue = u.queue := by
  unfold wait
  dsimp only
  split
  · cases u.awaitEntry _ <;> rfl
  · cases u.awaitEntry _ <;> rfl
  · rfl

/-- Whatever is done in a session is a run of its queue, and answers are handed in as such. -/
theorem queue_perform (u : Session α) (act : Act α) :
    ∃ ms : List (Move α), (u.perform act).queue = u.queue.play ms ∧
      ∀ c b, .answer c b ∈ ms → act = .move (.answer c b) := by
  cases act with
  | submit name r => exact ⟨[.submit r], queue_submit name r, by simp⟩
  | cancel name =>
    show ∃ ms, (u.cancel name).2.queue = _ ∧ _
    unfold cancel
    cases u.handle? name with
    | none => exact ⟨[], rfl, by simp⟩
    | some i => exact ⟨[.cancel i], rfl, by simp⟩
  | cancelAnyway name =>
    show ∃ ms, (u.cancelAnyway name).2.queue = _ ∧ _
    unfold cancelAnyway
    cases u.cancellers.lookup name with
    | none => exact ⟨[], rfl, by simp⟩
    | some i => exact ⟨[.cancel i], rfl, by simp⟩
  | wait name => exact ⟨[], queue_wait name, by simp⟩
  | drop name =>
    show ∃ ms, (u.drop name).queue = _ ∧ _
    unfold drop
    cases u.slot? name <;> exact ⟨[], rfl, by simp⟩
  | run =>
    obtain ⟨ts, hts⟩ := u.queue.run_eq_play
    exact ⟨ts.map .poll, hts, by simp⟩
  | move m => exact ⟨[m], rfl, fun c b hb => congrArg Act.move (List.mem_singleton.mp hb).symm⟩

/-- **Every session** is a run of its queue. -/
theorem queue_performAll (u : Session α) (acts : List (Act α)) :
    ∃ ms : List (Move α), (u.performAll acts).queue = u.queue.play ms ∧
      ∀ c b, .answer c b ∈ ms → .move (.answer c b) ∈ acts := by
  induction acts generalizing u with
  | nil => exact ⟨[], rfl, by simp⟩
  | cons act acts ih =>
    obtain ⟨ms, hms, hanswer⟩ := u.queue_perform act
    obtain ⟨ns, hns, hanswers⟩ := ih (u.perform act)
    refine ⟨ms ++ ns, ?_, fun c b hb => ?_⟩
    · show ((u.perform act).performAll acts).queue = (ms ++ ns).foldl Queue.apply u.queue
      rw [hns, hms, List.foldl_append]
      rfl
    · rcases List.mem_append.mp hb with hb | hb
      · rw [hanswer c b hb]
        exact List.mem_cons_self ..
      · exact List.mem_cons_of_mem act (hanswers c b hb)

end Session

end Courier

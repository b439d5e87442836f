import Courier.Queue.Mailbox
import Mathlib.Data.List.Induction
import Mathlib.Tactic.Lemma

/-!
Deliveries: a mailbox between those who post and its reader, step by step.  Anybody may post at any
time, also while the reader is inside a callback, and the callback itself posts; the reader runs one
callback or empties the mailbox, and is let go of between two such calls.  However these steps are
mixed, the callbacks that have run are the first of those that were accepted, and emptying counts
what has run since it began.
-/

namespace Courier.Mailbox

variable {ε : Type}

/-! ### Steps -/

/-- What the reader is at. -/
inductive Reading (ε : Type)
  | idle
  /-- emptying the mailbox; so many callbacks have been run -/
  | emptying (count : Nat)
  /-- inside a callback that has these yet to post; the count is that of the emptying it is run by -/
  | inside (c : Callback ε) (left : List (Callback ε)) (count : Option Nat)

/-- What is seen of a delivery. -/
inductive Occurrence (ε : Type)
  | posted (c : Callback ε) (accepted : Bool)
  /-- the reader begins to empty the mailbox -/
  | began
  | ran (c : Callback ε)
  /-- the callback has ended, in a panic or not -/
  | returned (c : Callback ε)
  /-- emptying returns with a number -/
  | emptied (count : Nat)
  /-- the reader is let go of -/
  | closed

/-- What one of the parties does next. -/
inductive Turn (ε : Type)
  /-- somebody posts a callback -/
  | post (c : Callback ε)
  /-- the reader is asked for the next callback -/
  | next
  /-- the reader is asked to empty the mailbox -/
  | empty
  /-- the reader goes on with what it is at -/
  | go
  /-- the reader is let go of -/
  | close

/-- A mailbox, what its reader is at, and what was seen so far. -/
structure Delivery (ε : Type) where
  mailbox : Mailbox ε := {}
  reading : Reading ε := .idle
  story : List (Occurrence ε) := []

namespace Occurrence

@[simp]
def accepted? : Occurrence ε → Option (Callback ε)
  | posted c true => some c
  | _ => none

@[simp]
def ran? : Occurrence ε → Option (Callback ε)
  | ran c => some c
  | _ => none

/-- What the log and those who watch the callbacks get of it.  A panic is caught where the callback
has ended. -/
def shown : Occurrence ε → Trace ε
  | posted _ false => [.log refused]
  | ran c => [.event c.seen]
  | returned c => if c.panics then [.log Callback.panicked] else []
  | _ => []

end Occurrence

namespace Reading

/-- How many callbacks the emptying that is going on has run, the one it is inside of included. -/
def counted : Reading ε → Option Nat
  | idle => none
  | emptying n => some n
  | inside _ _ count => count.map (· + 1)

/-- What the reader is at when a callback has ended. -/
def after : Option Nat → Reading ε
  | none => idle
  | some n => emptying (n + 1)

lemma counted_after (count : Option Nat) :
    (after count : Reading ε).counted = count.map (· + 1) := by
  cases count <;> rfl

end Reading

namespace Delivery

def post (d : Delivery ε) (c : Callback ε) : Delivery ε :=
  ⟨(d.mailbox.post c).2, d.reading, d.story ++ [.posted c (d.mailbox.post c).1]⟩

/-- The reader enters the first of the pending callbacks; if there is none, it is at `otherwise`. -/
def take (d : Delivery ε) (count : Option Nat) (otherwise : Delivery ε) : Delivery ε :=
  match d.mailbox.pending with
  | [] => otherwise
  | c :: cs => ⟨{ d.mailbox with pending := cs }, .inside c c.posts count, d.story ++ [.ran c]⟩

/-- The reader goes on.  A panic ends the callback and nothing else. -/
def go (d : Delivery ε) : Delivery ε :=
  match d.reading with
  | .idle => d
  | .emptying n => d.take (some n) ⟨d.mailbox, .idle, d.story ++ [.emptied n]⟩
  | .inside c (p :: left) count => { d.post p with reading := .inside c left count }
  | .inside c [] count => ⟨d.mailbox, .after count, d.story ++ [.returned c]⟩

/-- The reader is there and at nothing: it can be asked for something or be let go of. -/
def isFree (d : Delivery ε) : Bool :=
  match d.reading with
  | .idle => !d.mailbox.isClosed
  | _ => false

def step (d : Delivery ε) : Turn ε → Delivery ε
  | .post c => d.post c
  | .go => d.go
  | .next => if d.isFree then d.take none d else d
  | .empty => if d.isFree then ⟨d.mailbox, .emptying 0, d.story ++ [.began]⟩ else d
  | .close => if d.isFree then ⟨d.mailbox.dropReader, .idle, d.story ++ [.closed]⟩ else d

/-- The delivery after some turns. -/
def turns (d : Delivery ε) (ts : List (Turn ε)) : Delivery ε := ts.foldl step d

/-- All that turns make of a fresh mailbox. -/
def play (ts : List (Turn ε)) : Delivery ε := turns {} ts

lemma isFree_iff {d : Delivery ε} :
    d.isFree = true ↔ d.reading = .idle ∧ d.mailbox.reader ≠ .gone := by
  unfold isFree isClosed
  cases d.reading <;> simp

lemma play_concat (ts : List (Turn ε)) (t : Turn ε) : play (ts ++ [t]) = (play ts).step t := by
  unfold play turns
  rw [List.foldl_append, List.foldl_cons, List.foldl_nil]

/-- What can be seen next, and what the delivery is then: all that a turn can do. -/
inductive Moves : Delivery ε → Occurrence ε → Delivery ε → Prop
  | accept {m : Mailbox ε} {r r' : Reading ε} {s} (c : Callback ε) (here : m.reader ≠ .gone)
      (counted : r'.counted = r.counted) :
      Moves ⟨m, r, s⟩ (.posted c true)
        ⟨{ m with pending := m.pending ++ [c] }, r', s ++ [.posted c true]⟩
  | refuse {m : Mailbox ε} {r r' : Reading ε} {s} (c : Callback ε) (gone : m.reader = .gone)
      (counted : r'.counted = r.counted) (idle : r = .idle → r' = .idle) :
      Moves ⟨m, r, s⟩ (.posted c false) ⟨m, r', s ++ [.posted c false]⟩
  | begin {m : Mailbox ε} {s} (here : m.reader ≠ .gone) :
      Moves ⟨m, .idle, s⟩ .began ⟨m, .emptying 0, s ++ [.began]⟩
  | enter {m : Mailbox ε} {r : Reading ε} {s} {c cs} (count : Option Nat)
      (first : m.pending = c :: cs) (counted : r.counted = count) :
      Moves ⟨m, r, s⟩ (.ran c)
        ⟨{ m with pending := cs }, .inside c c.posts count, s ++ [.ran c]⟩
  | leave {m : Mailbox ε} {s} (c : Callback ε) (count : Option Nat) :
      Moves ⟨m, .inside c [] count, s⟩ (.returned c) ⟨m, .after count, s ++ [.returned c]⟩
  | finish {m : Mailbox ε} {s} (n : Nat) (none_left : m.pending = []) :
      Moves ⟨m, .emptying n, s⟩ (.emptied n) ⟨m, .idle, s ++ [.emptied n]⟩
  | close {m : Mailbox ε} {s} (here : m.reader ≠ .gone) :
      Moves ⟨m, .idle, s⟩ .closed ⟨m.dropReader, .idle, s ++ [.closed]⟩

namespace Moves

variable {d d' : Delivery ε} {o : Occurrence ε}

/-- Whatever is seen is told. -/
lemma story (h : Moves d o d') : d'.story = d.story ++ [o] := by
  cases h <;> rfl

/-- A callback is posted by somebody or by the one that the reader is inside of. -/
lemma of_post {m : Mailbox ε} {r r' : Reading ε} {s : List (Occurrence ε)} (c : Callback ε)
    (counted : r'.counted = r.counted) (idle : r = .idle → r' = .idle) :
    ∃ o, Moves ⟨m, r, s⟩ o { post ⟨m, r, s⟩ c with reading := r' } := by
  unfold post
  by_cases gone : m.reader = .gone
  case pos =>
    rw [post_of_gone gone]
    exact ⟨_, refuse c gone counted idle⟩
  case neg =>
    rw [post_of_open gone]
    exact ⟨_, accept c gone counted⟩

lemma of_take {m : Mailbox ε} {r : Reading ε} {s : List (Occurrence ε)} (count : Option Nat)
    (otherwise : Delivery ε) (counted : r.counted = count) :
    m.pending = [] ∧ take ⟨m, r, s⟩ count otherwise = otherwise ∨
      ∃ o, Moves ⟨m, r, s⟩ o (take ⟨m, r, s⟩ count otherwise) := by
  unfold take
  cases first : m.pending with
  | nil => exact .inl ⟨rfl, rfl⟩
  | cons c cs => exact .inr ⟨_, enter count first counted⟩

end Moves

/-- A turn does nothing, or something is seen. -/
lemma step_cases (d : Delivery ε) (t : Turn ε) : d.step t = d ∨ ∃ o, Moves d o (d.step t) := by
  obtain ⟨m, r, s⟩ := d
  cases t with
  | post c => exact .inr (Moves.of_post c rfl id)
  | go =>
    cases r with
    | idle => exact .inl rfl
    | emptying n =>
      obtain ⟨none_left, ht⟩ | moves := Moves.of_take (m := m) (r := .emptying n) (s := s)
        (some n) ⟨m, .idle, s ++ [.emptied n]⟩ rfl
      · refine .inr ⟨.emptied n, ?_⟩
        change Moves _ _ (take _ _ _)
        rw [ht]
        exact .finish n none_left
      · exact .inr moves
    | inside c left count =>
      cases left with
      | nil => exact .inr ⟨_, .leave c count⟩
      | cons p left => exact .inr (Moves.of_post p rfl nofun)
  | next =>
    rw [step]
    split
    case isFalse => exact .inl rfl
    case isTrue free =>
      obtain ⟨rfl, -⟩ := isFree_iff.mp free
      exact (Moves.of_take none _ rfl).imp_left (·.2)
  | empty =>
    rw [step]
    split
    case isFalse => exact .inl rfl
    case isTrue free =>
      obtain ⟨rfl, here⟩ := isFree_iff.mp free
      exact .inr ⟨_, .begin here⟩
  | close =>
    rw [step]
    split
    case isFalse => exact .inl rfl
    case isTrue free =>
      obtain ⟨rfl, here⟩ := isFree_iff.mp free
      exact .inr ⟨_, .close here⟩

/-! ### What a story tells -/

/-- The callbacks that were accepted, in order. -/
def accepted (story : List (Occurrence ε)) : List (Callback ε) :=
  story.filterMap Occurrence.accepted?

/-- The callbacks that were run, in order. -/
def executed (story : List (Occurrence ε)) : List (Callback ε) := story.filterMap Occurrence.ran?

@[simp]
lemma accepted_concat (s : List (Occurrence ε)) (o : Occurrence ε) :
    accepted (s ++ [o]) = accepted s ++ o.accepted?.toList := by
  unfold accepted
  rw [List.filterMap_append, List.filterMap_cons]
  cases o.accepted? <;> rfl

@[simp]
lemma executed_concat (s : List (Occurrence ε)) (o : Occurrence ε) :
    executed (s ++ [o]) = executed s ++ o.ran?.toList := by
  unfold executed
  rw [List.filterMap_append, List.filterMap_cons]
  cases o.ran? <;> rfl

/-- The story ends in an emptying that has run `n` callbacks. -/
def Counts (story : List (Occurrence ε)) (n : Nat) : Prop :=
  ∃ before during, story = before ++ .began :: during ∧ .began ∉ during ∧
    (executed during).length = n

lemma Counts.concat {s : List (Occurrence ε)} {n : Nat} (h : Counts s n) {o : Occurrence ε}
    (ho : o ≠ .began) : Counts (s ++ [o]) (n + o.ran?.toList.length) := by
  obtain ⟨before, during, rfl, fresh, rfl⟩ := h
  refine ⟨before, during ++ [o], by simp, ?_, ?_⟩
  · simpa using ⟨fresh, ho.symm⟩
  · rw [executed_concat, List.length_append]

/-- What holds of every delivery. -/
structure Sound (d : Delivery ε) : Prop where
  /-- what was accepted was run or is pending, as long as the reader is there -/
  account : d.mailbox.reader ≠ .gone →
    accepted d.story = executed d.story ++ d.mailbox.pending
  first : executed d.story <+: accepted d.story
  closed : .closed ∈ d.story ↔ d.mailbox.reader = .gone
  gone : d.mailbox.reader = .gone → d.mailbox.pending = [] ∧ d.reading = .idle
  counts : ∀ n, d.reading.counted = some n → Counts d.story n

lemma sound_fresh : Sound ({} : Delivery ε) where
  account _ := rfl
  first := List.prefix_rfl
  closed := by simp
  gone := by simp
  counts := by simp [Reading.counted]

lemma Sound.here_of_pending {d : Delivery ε} (h : Sound d) (some_left : d.mailbox.pending ≠ []) :
    d.mailbox.reader ≠ .gone :=
  fun gone => some_left (h.gone gone).1

/-- Soundness is kept: one case for each thing that can be seen. -/
lemma Sound.moves {d d' : Delivery ε} {o : Occurrence ε} (h : Sound d) (hm : Moves d o d') :
    Sound d' := by
  have ⟨account, first, closed, gone, counts⟩ := h
  cases hm with
  | accept c here counted =>
    have told := account here
    refine ⟨fun _ => ?_, ?_, ?_, fun reader_gone => absurd reader_gone here, fun n hn => ?_⟩
    · simp [told]
    · simpa using first.trans (List.prefix_append _ _)
    · simpa using closed
    · exact (counts n (counted ▸ hn)).concat nofun
  | refuse c reader_gone counted idle =>
    obtain ⟨empty, at_nothing⟩ := gone reader_gone
    refine ⟨fun here => absurd reader_gone here, ?_, ?_, fun _ => ⟨empty, idle at_nothing⟩,
      fun n hn => ?_⟩
    · simpa using first
    · simpa using closed
    · exact (counts n (counted ▸ hn)).concat nofun
  | begin here =>
    refine ⟨fun _ => ?_, ?_, ?_, fun reader_gone => absurd reader_gone here, fun n hn => ?_⟩
    · simpa using account here
    · simpa using first
    · simpa using closed
    · obtain rfl : 0 = n := by simpa [Reading.counted] using hn
      exact ⟨_, [], rfl, List.not_mem_nil, rfl⟩
  | @enter m r s c cs count pending counted =>
    have here : m.reader ≠ .gone := h.here_of_pending (pending ▸ List.cons_ne_nil _ _)
    have told : accepted s = executed s ++ c :: cs := pending ▸ account here
    refine ⟨fun _ => ?_, ?_, ?_, fun reader_gone => absurd reader_gone here, fun n hn => ?_⟩
    · simp [told]
    · simp [told]
    · simpa using closed
    · obtain ⟨k, rfl, rfl⟩ := Option.map_eq_some_iff.mp hn
      exact (counts k counted).concat nofun
  | leave c count =>
    refine ⟨fun here => ?_, ?_, ?_, fun reader_gone => absurd (gone reader_gone).2 nofun,
      fun n hn => ?_⟩
    · simpa using account here
    · simpa using first
    · simpa using closed
    · rw [Reading.counted_after] at hn
      exact (counts n hn).concat nofun
  | finish n none_left =>
    refine ⟨fun here => ?_, ?_, ?_, fun _ => ⟨none_left, rfl⟩, nofun⟩
    · simpa using account here
    · simpa using first
    · simpa using closed
  | close here =>
    refine ⟨fun still => absurd rfl still, ?_, ?_, fun _ => ⟨rfl, rfl⟩, nofun⟩
    · simpa using first
    · simp [dropReader]

lemma sound_play (ts : List (Turn ε)) : Sound (play ts) := by
  induction ts using List.reverseRecOn with
  | nil => exact sound_fresh
  | append_singleton ts t ih =>
    rw [play_concat]
    obtain same | ⟨o, moves⟩ := step_cases (play ts) t
    · rwa [same]
    · exact ih.moves moves

/-- Whatever a story tells was seen at some time, when the story had come so far. -/
lemma moves_of_story {ts : List (Turn ε)} {before after : List (Occurrence ε)} {o : Occurrence ε}
    (h : (play ts).story = before ++ o :: after) :
    ∃ d d', Sound d ∧ Moves d o d' ∧ d.story = before := by
  induction ts using List.reverseRecOn generalizing after with
  | nil => simp [play, turns] at h
  | append_singleton ts t ih =>
    rw [play_concat] at h
    obtain same | ⟨o', moves⟩ := step_cases (play ts) t
    · rw [same] at h
      exact ih h
    · rw [moves.story] at h
      -- what this turn has shown is `o` itself or stands behind it
      obtain rfl | ⟨after, o'', rfl⟩ := List.eq_nil_or_concat after
      · obtain ⟨rfl, rfl⟩ : (play ts).story = before ∧ o' = o := by simpa using h
        exact ⟨_, _, sound_play ts, moves, rfl⟩
      · rw [List.concat_eq_append, ← List.cons_append, ← List.append_assoc] at h
        exact ih (List.append_inj_left' h rfl)

/-! ### A reader whom nobody interrupts -/

/-- The delivery comes to `d'` when only the reader has turns. -/
def Alone (d d' : Delivery ε) : Prop := ∃ k, d.turns (List.replicate k .go) = d'

namespace Alone

variable {d d' d'' : Delivery ε}

lemma go (h : Alone d.go d') : Alone d d' := by
  obtain ⟨k, rfl⟩ := h
  exact ⟨k + 1, rfl⟩

lemma trans (h : Alone d d') (h' : Alone d' d'') : Alone d d'' := by
  obtain ⟨k, rfl⟩ := h
  obtain ⟨k', rfl⟩ := h'
  refine ⟨k + k', ?_⟩
  unfold turns
  rw [← List.replicate_append_replicate, List.foldl_append]

end Alone

/-- What is told of a callback that is run without interruption. -/
def tale (c : Callback ε) : List (Occurrence ε) :=
  .ran c :: c.posts.map (.posted · true) ++ [.returned c]

lemma shown_tale (c : Callback ε) : (tale c).flatMap Occurrence.shown = c.run := by
  have posts (ps : List (Callback ε)) :
      (ps.map (Occurrence.posted · true)).flatMap Occurrence.shown = [] := by
    rw [List.flatMap_map]
    exact List.flatMap_eq_nil_iff.mpr fun _ _ => rfl
  unfold tale Callback.run
  simp [List.flatMap_cons, List.flatMap_append, posts, Occurrence.shown]

variable {reader : Reader} {s : List (Occurrence ε)}

/-- The callback that the reader is inside of posts what it has left to post, and ends. -/
lemma alone_inside (here : reader ≠ .gone) (cs : List (Callback ε)) (c : Callback ε)
    (left : List (Callback ε)) (count : Option Nat) :
    Alone ⟨⟨cs, reader⟩, .inside c left count, s⟩
      ⟨⟨cs ++ left, reader⟩, .after count,
        s ++ left.map (.posted · true) ++ [.returned c]⟩ := by
  induction left generalizing cs s with
  | nil => exact Alone.go ⟨0, by simp [go, turns]⟩
  | cons p left ih =>
    have posted : go ⟨⟨cs, reader⟩, .inside c (p :: left) count, s⟩ =
        ⟨⟨cs ++ [p], reader⟩, .inside c left count, s ++ [.posted p true]⟩ := by
      simp [go, post, post_of_open (m := ⟨cs, reader⟩) here]
    refine Alone.go ?_
    rw [posted]
    have rest := ih (cs ++ [p]) (s := s ++ [.posted p true])
    simpa using rest

/-- The reader runs the first callback that is pending. -/
lemma alone_take (here : reader ≠ .gone) (c : Callback ε) (cs : List (Callback ε))
    (r : Reading ε) (count : Option Nat) (otherwise : Delivery ε) :
    Alone (take ⟨⟨c :: cs, reader⟩, r, s⟩ count otherwise)
      ⟨⟨cs ++ c.posts, reader⟩, .after count, s ++ tale c⟩ := by
  have rest := alone_inside here cs c c.posts count (s := s ++ [.ran c])
  simpa [take, tale] using rest

/-- Emptying runs what is pending and what that posts, all of it. -/
lemma alone_emptying (here : reader ≠ .gone) (cs : List (Callback ε)) (n : Nat) :
    Alone ⟨⟨cs, reader⟩, .emptying n, s⟩
      ⟨⟨[], reader⟩, .idle, s ++ (Callback.drain cs).flatMap tale ++
        [.emptied (n + (Callback.drain cs).length)]⟩ := by
  -- what a callback posts goes behind those that are pending, as `drain` has it
  induction cs using Callback.drain.induct generalizing n s with
  | case1 =>
    refine Alone.go ⟨0, ?_⟩
    simp [turns, go, take, Callback.drain]
  | case2 c cs ih =>
    refine Alone.go ((alone_take here c cs (.emptying n) (some n)
      ⟨⟨c :: cs, reader⟩, .idle, s ++ [.emptied n]⟩).trans ?_)
    have rest := ih (n + 1) (s := s ++ tale c)
    rw [Callback.drain]
    simpa [Reading.after, Nat.add_assoc, Nat.add_comm 1] using rest

/-- Emptying that nobody interrupts is `runPending`. -/
lemma alone_empty {d : Delivery ε} (free : d.isFree = true) :
    ∃ told, Alone (d.step .empty) ⟨d.mailbox.runPending.2.2, .idle,
        d.story ++ told ++ [.emptied d.mailbox.runPending.1]⟩ ∧
      told.flatMap Occurrence.shown = d.mailbox.runPending.2.1 := by
  obtain ⟨⟨cs, reader⟩, r, s⟩ := d
  obtain ⟨rfl, here⟩ := isFree_iff.mp free
  refine ⟨.began :: (Callback.drain cs).flatMap tale, ?_, ?_⟩
  · rw [step, if_pos free]
    have rest := alone_emptying here cs 0 (s := s ++ [.began])
    simpa [runPending] using rest
  · rw [List.flatMap_cons, List.flatMap_assoc]
    simp only [shown_tale]
    rfl

/-- Running one callback that nobody interrupts is `runNext?`. -/
lemma alone_next {d : Delivery ε} (free : d.isFree = true) {happened : Trace ε} {m : Mailbox ε}
    (h : d.mailbox.runNext? = some (happened, m)) :
    ∃ told, Alone (d.step .next) ⟨m, .idle, d.story ++ told⟩ ∧
      told.flatMap Occurrence.shown = happened := by
  obtain ⟨⟨cs, reader⟩, r, s⟩ := d
  obtain ⟨rfl, here⟩ := isFree_iff.mp free
  cases cs with
  | nil => cases h
  | cons c cs =>
    cases h
    refine ⟨tale c, ?_, shown_tale c⟩
    rw [step, if_pos free]
    exact alone_take here c cs .idle none _

/-! ### Delivery -/

/-- **Callbacks are run in the order in which they were accepted, each of them once.**  Whatever
turns those who post and the reader have, also in the middle of a callback, and whichever callbacks
panic or post others:

* what was run is the first of what was accepted, and the rest is pending while the reader is there;
* a callback is refused exactly when the reader is gone; none is run after that, and whatever is run
  is the next of those that were accepted by then;
* when emptying returns, everything accepted by then was run, nothing is pending, and the number is
  that of the callbacks that were run since it began;
* a reader whom nobody interrupts does what `runPending` and `runNext?` say. -/
theorem delivered_in_order (ts : List (Turn ε)) :
    executed (play ts).story <+: accepted (play ts).story ∧
    ((play ts).mailbox.reader ≠ .gone →
      accepted (play ts).story = executed (play ts).story ++ (play ts).mailbox.pending) ∧
    (.closed ∈ (play ts).story ↔ (play ts).mailbox.reader = .gone) ∧
    (∀ before c ok after, (play ts).story = before ++ .posted c ok :: after →
      (ok = false ↔ .closed ∈ before)) ∧
    (∀ before c after, (play ts).story = before ++ .ran c :: after →
      .closed ∉ before ∧ executed before ++ [c] <+: accepted before) ∧
    (∀ before n after, (play ts).story = before ++ .emptied n :: after →
      accepted before = executed before ∧ Counts before n ∧
      (after = [] → (play ts).mailbox.pending = [])) ∧
    ((play ts).isFree = true →
      (∃ told, Alone ((play ts).step .empty) ⟨(play ts).mailbox.runPending.2.2, .idle,
          (play ts).story ++ told ++ [.emptied (play ts).mailbox.runPending.1]⟩ ∧
        told.flatMap Occurrence.shown = (play ts).mailbox.runPending.2.1) ∧
      ∀ happened m', (play ts).mailbox.runNext? = some (happened, m') →
        ∃ told, Alone ((play ts).step .next) ⟨m', .idle, (play ts).story ++ told⟩ ∧
          told.flatMap Occurrence.shown = happened) := by
  have sound := sound_play ts
  refine ⟨sound.first, sound.account, sound.closed, fun before c ok after h => ?_,
    fun before c after h => ?_, fun before n after h => ?_, fun free => ⟨alone_empty free,
      fun happened m' next => alone_next free next⟩⟩
  · obtain ⟨d, d', sound', moves, rfl⟩ := moves_of_story h
    rw [sound'.closed]
    cases moves with
    | accept _ here => simpa using here
    | refuse _ gone => simpa using gone
  · obtain ⟨d, d', sound', moves, rfl⟩ := moves_of_story h
    cases moves with
    | @enter m r s c cs count first _ =>
      have here : m.reader ≠ .gone := sound'.here_of_pending (first ▸ List.cons_ne_nil _ _)
      have account := sound'.account here
      refine ⟨sound'.closed.not.mpr here, ?_⟩
      rw [account, first]
      simp
  · obtain ⟨d, d', sound', moves, rfl⟩ := moves_of_story h
    cases moves with
    | @finish m s n none_left =>
      have here : m.reader ≠ .gone := fun gone => nomatch (sound'.gone gone).2
      have account : accepted s = executed s := by simpa [none_left] using sound'.account here
      refine ⟨account, sound'.counts n rfl, ?_⟩
      rintro rfl
      have still_here : (play ts).mailbox.reader ≠ .gone := by
        refine sound.closed.not.mp ?_
        rw [h]
        simpa using sound'.closed.not.mpr here
      simpa [h, account] using sound.account still_here

/-- A callback that panics has posted another while it is run, and a third comes in meanwhile; when
all of them were run, the reader is let go of, and a fourth is refused. -/
def busy : List (Turn Nat) :=
  [.post (.mk 1 true [.mk 2 false []]), .empty, .go, .post (.mk 3 false [])] ++
    List.replicate 7 .go ++ [.close, .post (.mk 4 false [])]

theorem delivered_in_order_of_busy :
    (executed (play busy).story).map Callback.seen = [1, 3, 2] ∧
    ∃ before after, (play busy).story = before ++ .posted (.mk 4 false []) false :: after ∧
      .closed ∈ before ∧
      ∃ before' after', (play busy).story = before' ++ .emptied 3 :: after' ∧
        accepted before' = executed before' ∧ Counts before' 3 := by
  obtain ⟨-, -, -, refused, -, emptied, -⟩ := delivered_in_order busy
  have told : (play busy).story =
      [.posted (.mk 1 true [.mk 2 false []]) true, .began, .ran (.mk 1 true [.mk 2 false []]),
        .posted (.mk 3 false []) true, .posted (.mk 2 false []) true,
        .returned (.mk 1 true [.mk 2 false []]), .ran (.mk 3 false []), .returned (.mk 3 false []),
        .ran (.mk 2 false []), .returned (.mk 2 false [])] ++
      .emptied 3 :: [.closed, .posted (.mk 4 false []) false] := rfl
  have told' : (play busy).story = ((play busy).story.take 12) ++
      .posted (.mk 4 false []) false :: [] := rfl
  obtain ⟨all_run, counted, -⟩ := emptied _ _ _ told
  exact ⟨rfl, _, _, told', (refused _ _ _ _ told').mp rfl, _, _, told, all_run, counted⟩

end Delivery

end Courier.Mailbox

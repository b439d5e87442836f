import Courier.Proofs.Settings.Saving
import Courier.Settings.Keeper

/-!
Keepers at work.  Each operation of an archive can end in a few ways, and says with each of them
what becomes of the disk and of the copies in memory.  At a desk stand any number of keepers with
one archive, opened on their own or cloned from others, and anybody may change the disk between two
of their acts.
-/

namespace Courier.Settings

open Text.Utf8 (ofString)

/-! ### The ways of the operations -/

namespace Archive

variable {a : Archive} {k c : Keeper} {s : Settings} {path : String}

/-- How the opening of a keeper can end, and the archive that it leaves. -/
inductive Opening (a : Archive) (path : String) : Except Fault Keeper → Archive → Prop
  | refused {f : Fault} (h : read a.disk path = .error f) : Opening a path (.error f) a
  | found {s : Settings} (h : read a.disk path = .ok (some s)) :
      Opening a path (.ok ⟨path, a.memory.length⟩) { a with memory := a.memory ++ [s] }
  | unmade {f : Fault} {disk : Disk} (h : read a.disk path = .ok none)
      (saving : Saving a.disk path (ofString (pretty {})) (.error f) disk) :
      Opening a path (.error f) { a with disk }
  | made {disk : Disk} (h : read a.disk path = .ok none)
      (saving : Saving a.disk path (ofString (pretty {})) (.ok ()) disk) :
      Opening a path (.ok ⟨path, a.memory.length⟩) ⟨disk, a.memory ++ [({} : Settings)]⟩

/-- How an update can end, and the archive that it leaves. -/
inductive Updating (a : Archive) (k : Keeper) (s : Settings) : Except Fault Unit → Archive → Prop
  | invalid {f : Fault} (h : s.validate = .error f) : Updating a k s (.error f) a
  | unsaved {f : Fault} {disk : Disk}
      (saving : Saving a.disk k.path (ofString s.pretty) (.error f) disk) :
      Updating a k s (.error f) { a with disk }
  | saved {disk : Disk} (h : s.validate = .ok ())
      (saving : Saving a.disk k.path (ofString s.pretty) (.ok ()) disk) :
      Updating a k s (.ok ()) ({ a with disk }.replace k s)

/-- How a reload can end, and the archive that it leaves. -/
inductive Reloading (a : Archive) (k : Keeper) : Except Fault Unit → Archive → Prop
  | refused {f : Fault} : Reloading a k (.error f) a
  | loaded {s : Settings} (h : read a.disk k.path = .ok (some s)) :
      Reloading a k (.ok ()) (a.replace k s)

lemma opening (a : Archive) (path : String) :
    Opening a path (a.openFile path).result (a.openFile path).archive := by
  unfold openFile
  split
  next h => exact .refused h
  next h => exact .found h
  next h =>
    have hsaving := saving_save {} a.disk path
    rcases hsave : save {} a.disk path with ⟨result, disk⟩
    rw [hsave] at hsaving
    cases result with
    | error f => exact .unmade h hsaving
    | ok => exact .made h hsaving

lemma updating (a : Archive) (k : Keeper) (s : Settings) :
    Updating a k s (a.update k s).result (a.update k s).archive := by
  unfold update
  split
  next h => exact .invalid h
  next h =>
    have hsaving := saving_save s a.disk k.path
    unfold write
    rcases hsave : save s a.disk k.path with ⟨result, disk⟩
    rw [hsave] at hsaving
    cases result with
    | error f => exact .unsaved hsaving
    | ok => exact .saved h hsaving

lemma reloading (a : Archive) (k : Keeper) :
    Reloading a k (a.reload k).result (a.reload k).archive := by
  unfold reload
  split
  next => exact .refused
  next => exact .refused
  next h => exact .loaded h

/-- A new keeper is of its path, and its copy is a new one. -/
lemma Opening.keeper {b : Archive} (h : a.Opening path (.ok k) b) :
    k = ⟨path, a.memory.length⟩ := by
  cases h <;> rfl

lemma Reloading.disk {b : Archive} {r : Except Fault Unit} (h : a.Reloading k r b) :
    b.disk = a.disk := by
  cases h <;> rfl

/-! ### Failures -/

lemma Opening.of_error {b : Archive} {f : Fault} (h : a.Opening path (.error f) b) :
    b.memory = a.memory ∧ Intact a.disk path b.disk := by
  cases h with
  | refused => exact ⟨rfl, .refl _ _⟩
  | unmade _ saving => exact ⟨rfl, saving.intact⟩

lemma Updating.of_error {b : Archive} {f : Fault} (h : a.Updating k s (.error f) b) :
    b.memory = a.memory ∧ Intact a.disk k.path b.disk := by
  cases h with
  | invalid => exact ⟨rfl, .refl _ _⟩
  | unsaved saving => exact ⟨rfl, saving.intact⟩

lemma Reloading.of_error {b : Archive} {f : Fault} (h : a.Reloading k (.error f) b) : b = a := by
  cases h
  rfl

/-! ### Copies in memory -/

@[simp] lemma memory_replace (a : Archive) (k : Keeper) (s : Settings) :
    (a.replace k s).memory = a.memory.set k.cell s := rfl

/-- Only those that share the copy of a keeper see it replaced. -/
lemma get_replace (hk : k.cell < a.memory.length) :
    (a.replace k s).get c = if c.cell = k.cell then s else a.get c := by
  unfold get
  rw [memory_replace]
  split
  next h => simp [h, hk]
  next h => rw [List.getElem?_set_ne (Ne.symm h)]

/-- A keeper of a file that holds settings has a copy of them. -/
lemma openFile_of_read (h : read a.disk path = .ok (some s)) :
    (a.openFile path).result = .ok ⟨path, a.memory.length⟩ ∧
      (a.openFile path).archive = { a with memory := a.memory ++ [s] } := by
  unfold openFile
  rw [h]
  exact ⟨rfl, rfl⟩

lemma get_openFile (h : read a.disk path = .ok (some s)) :
    (a.openFile path).archive.get ⟨path, a.memory.length⟩ = s := by
  rw [(openFile_of_read h).2]
  simp [get]

end Archive

/-! ### Desks -/

/-- An archive, and the keepers that were made so far. -/
structure Desk where
  archive : Archive
  keepers : List Keeper := []

/-- What is done at a desk; keepers are called by their numbers. -/
inductive Act
  | openFile (path : String)
  | clone (i : Nat)
  | update (i : Nat) (s : Settings)
  | updateWith (i : Nat) (edit : Settings → Settings)
  | reload (i : Nat)
  /-- a change of the disk by others, whatever it may be -/
  | disturb (disk : Disk)

/-- The act is one of the keepers that are there. -/
def Act.Own : Act → Prop
  | .openFile _ | .disturb _ => False
  | _ => True

namespace Desk

/-- An operation of one of the keepers; where there is none nothing is done. -/
def ask (desk : Desk) (i : Nat) (operation : Keeper → Except Fault Unit × Archive) :
    Except Fault Unit × Desk :=
  match desk.keepers[i]? with
  | none => (.ok (), desk)
  | some k => ((operation k).1, { desk with archive := (operation k).2 })

/-- What comes of an act. -/
def perform (desk : Desk) : Act → Except Fault Unit × Desk
  | .openFile path =>
    match desk.archive.openFile path with
    | ⟨.error f, archive, _⟩ => (.error f, { desk with archive })
    | ⟨.ok k, archive, _⟩ => (.ok (), ⟨archive, desk.keepers ++ [k]⟩)
  | .clone i => (.ok (), { desk with keepers := desk.keepers ++ desk.keepers[i]?.toList })
  | .update i s => desk.ask i fun k =>
    ((desk.archive.update k s).result, (desk.archive.update k s).archive)
  | .updateWith i edit => desk.ask i fun k =>
    ((desk.archive.updateWith k edit).result.map fun _ => (),
      (desk.archive.updateWith k edit).archive)
  | .reload i => desk.ask i fun k =>
    ((desk.archive.reload k).result, (desk.archive.reload k).archive)
  | .disturb disk => (.ok (), { desk with archive := { desk.archive with disk } })

/-- The desk after some acts. -/
def performAll (desk : Desk) : List Act → Desk
  | [] => desk
  | act :: acts => performAll (desk.perform act).2 acts

/-- The path on which an act works. -/
def target? (desk : Desk) : Act → Option String
  | .openFile path => some path
  | .update i _ | .updateWith i _ | .reload i => desk.keepers[i]?.map Keeper.path
  | .clone _ | .disturb _ => none

/-! ### What an act can come to -/

/-- The ways of an act at a desk. -/
inductive Step (desk : Desk) (act : Act) : Except Fault Unit → Desk → Prop
  /-- there is no keeper of the number -/
  | idle : Step desk act (.ok ()) desk
  | refused {path : String} {f : Fault} {archive : Archive} (target : desk.target? act = some path)
      (foreign : ¬act.Own) (opening : desk.archive.Opening path (.error f) archive) :
      Step desk act (.error f) { desk with archive }
  | opened {path : String} {k : Keeper} {archive : Archive} (foreign : ¬act.Own)
      (opening : desk.archive.Opening path (.ok k) archive) :
      Step desk act (.ok ()) ⟨archive, desk.keepers ++ [k]⟩
  | cloned {k : Keeper} (mem : k ∈ desk.keepers) :
      Step desk act (.ok ()) { desk with keepers := desk.keepers ++ [k] }
  | updated {k : Keeper} {s : Settings} {r : Except Fault Unit} {archive : Archive}
      (mem : k ∈ desk.keepers) (target : desk.target? act = some k.path)
      (updating : desk.archive.Updating k s r archive) : Step desk act r { desk with archive }
  | reloaded {k : Keeper} {r : Except Fault Unit} {archive : Archive}
      (mem : k ∈ desk.keepers) (target : desk.target? act = some k.path)
      (reloading : desk.archive.Reloading k r archive) : Step desk act r { desk with archive }
  | disturbed {disk : Disk} (foreign : ¬act.Own) :
      Step desk act (.ok ()) { desk with archive := { desk.archive with disk } }

variable {desk : Desk} {i : Nat} {k : Keeper}

lemma ask_of_some (hk : desk.keepers[i]? = some k)
    (operation : Keeper → Except Fault Unit × Archive) :
    desk.ask i operation = ((operation k).1, { desk with archive := (operation k).2 }) := by
  unfold ask
  rw [hk]

lemma ask_of_none (hk : desk.keepers[i]? = none)
    (operation : Keeper → Except Fault Unit × Archive) : desk.ask i operation = (.ok (), desk) := by
  unfold ask
  rw [hk]

/-- To edit the settings is to update them with the edited copy. -/
lemma perform_updateWith (hk : desk.keepers[i]? = some k) (edit : Settings → Settings) :
    desk.perform (.updateWith i edit) = desk.perform (.update i (edit (desk.archive.get k))) := by
  dsimp only [perform]
  rw [ask_of_some hk, ask_of_some hk]
  dsimp only [Archive.updateWith]
  cases (desk.archive.update k (edit (desk.archive.get k))).result <;> rfl

lemma perform_reload (hk : desk.keepers[i]? = some k) : desk.perform (.reload i) =
    ((desk.archive.reload k).result, { desk with archive := (desk.archive.reload k).archive }) := by
  dsimp only [perform]
  rw [ask_of_some hk]

lemma step_update (hk : desk.keepers[i]? = some k) (s : Settings) {act : Act}
    (ht : desk.target? act = some k.path) :
    Step desk act (desk.perform (.update i s)).1 (desk.perform (.update i s)).2 := by
  dsimp only [perform]
  rw [ask_of_some hk]
  exact .updated (List.mem_of_getElem? hk) ht (desk.archive.updating k s)

/-- An act comes to one of its ways. -/
lemma step_perform (desk : Desk) (act : Act) :
    Step desk act (desk.perform act).1 (desk.perform act).2 := by
  have htarget : ∀ {i : Nat} {k : Keeper}, desk.keepers[i]? = some k →
      desk.keepers[i]?.map Keeper.path = some k.path := fun hk => by rw [hk]; rfl
  cases act with
  | openFile path =>
    have hopening := desk.archive.opening path
    dsimp only [perform]
    split
    next heq =>
      rw [heq] at hopening
      exact .refused rfl not_false hopening
    next heq =>
      rw [heq] at hopening
      exact .opened not_false hopening
  | clone i =>
    dsimp only [perform]
    cases hk : desk.keepers[i]? with
    | none =>
      rw [Option.toList_none, List.append_nil]
      exact .idle
    | some k => exact .cloned (List.mem_of_getElem? hk)
  | update i s =>
    cases hk : desk.keepers[i]? with
    | none =>
      dsimp only [perform]
      rw [ask_of_none hk]
      exact .idle
    | some k => exact step_update hk s (htarget hk)
  | updateWith i edit =>
    cases hk : desk.keepers[i]? with
    | none =>
      dsimp only [perform]
      rw [ask_of_none hk]
      exact .idle
    | some k =>
      rw [perform_updateWith hk]
      exact step_update hk _ (htarget hk)
  | reload i =>
    cases hk : desk.keepers[i]? with
    | none =>
      dsimp only [perform]
      rw [ask_of_none hk]
      exact .idle
    | some k =>
      rw [perform_reload hk]
      exact .reloaded (List.mem_of_getElem? hk) (htarget hk) (desk.archive.reloading k)
  | disturb disk => exact .disturbed not_false

/-- An act that fails changes no copy in memory, makes no keeper, and leaves the file on which it
works as it was. -/
lemma Step.of_error {act : Act} {f : Fault} {after : Desk} (h : Step desk act (.error f) after) :
    after.archive.memory = desk.archive.memory ∧ after.keepers = desk.keepers ∧
      ∃ path, desk.target? act = some path ∧ Intact desk.archive.disk path after.archive.disk := by
  cases h with
  | refused target _ opening =>
    obtain ⟨hmemory, hintact⟩ := opening.of_error
    exact ⟨hmemory, rfl, _, target, hintact⟩
  | updated _ target updating =>
    obtain ⟨hmemory, hintact⟩ := updating.of_error
    exact ⟨hmemory, rfl, _, target, hintact⟩
  | reloaded _ target reloading =>
    rw [reloading.of_error]
    exact ⟨rfl, rfl, _, target, .refl _ _⟩

/-- What every act keeps holds after all of them. -/
lemma performAll_induction (P : Desk → Prop) {acts : List Act} (h : P desk)
    (step : ∀ desk, ∀ act ∈ acts, P desk → P (desk.perform act).2) : P (desk.performAll acts) := by
  induction acts generalizing desk with
  | nil => exact h
  | cons act acts ih =>
    exact ih (step desk act List.mem_cons_self h) fun d a ha =>
      step d a (List.mem_cons_of_mem _ ha)

end Desk

end Courier.Settings

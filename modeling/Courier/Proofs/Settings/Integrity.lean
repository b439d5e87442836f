import Courier.Proofs.Settings.Desk

/-!
Keepers on a disk that others change.  Between two of their acts a file can go, become a directory,
or hold anything; whatever is there, no copy in memory ever becomes invalid, a failure changes none
of them, and a reload takes over what is in the file for all that share the copy and for nobody
else.
-/

namespace Courier.Settings

open Text (Bytes)
open Text.Utf8 (ofString)

variable {a b : Archive} {k : Keeper} {s : Settings} {path : String}

/-! ### Valid copies -/

/-- All copies in memory are valid. -/
def Archive.Valid (a : Archive) : Prop := ∀ s ∈ a.memory, s.validate = .ok ()

lemma valid_append (h : a.Valid) (hs : s.validate = .ok ()) (disk : Disk) :
    Archive.Valid ⟨disk, a.memory ++ [s]⟩ :=
  List.forall_mem_append.mpr ⟨h, List.forall_mem_singleton.mpr hs⟩

lemma valid_replace (h : a.Valid) (hs : s.validate = .ok ()) : (a.replace k s).Valid := by
  intro t ht
  rcases List.mem_or_eq_of_mem_set ht with ht | rfl
  · exact h t ht
  · exact hs

lemma Archive.Opening.valid (h : a.Valid) {r : Except Fault Keeper} (ho : a.Opening path r b) :
    b.Valid := by
  cases ho with
  | refused => exact h
  | found hread => exact valid_append h (read_eq_some hread).2 _
  | unmade => exact h
  | made => exact valid_append h rfl _

lemma Archive.Updating.valid (h : a.Valid) {r : Except Fault Unit} (hu : a.Updating k s r b) :
    b.Valid := by
  cases hu with
  | invalid => exact h
  | unsaved => exact h
  | saved hvalid => exact valid_replace h hvalid

lemma Archive.Reloading.valid (h : a.Valid) {r : Except Fault Unit} (hr : a.Reloading k r b) :
    b.Valid := by
  cases hr with
  | refused => exact h
  | loaded hread => exact valid_replace h (read_eq_some hread).2

/-! ### Desks in order -/

namespace Desk

/-- Copies are valid, and every keeper has one. -/
structure Orderly (desk : Desk) : Prop where
  valid : desk.archive.Valid
  cell : ∀ k ∈ desk.keepers, k.cell < desk.archive.memory.length

variable {desk after : Desk} {act : Act} {r : Except Fault Unit}

/-- Copies are added, never taken away. -/
lemma Step.length_le (h : Step desk act r after) :
    desk.archive.memory.length ≤ after.archive.memory.length := by
  cases h with
  | idle | cloned | disturbed => exact le_rfl
  | refused _ _ opening => rw [opening.of_error.1]
  | opened _ opening => cases opening <;> simp
  | updated _ _ updating => cases updating <;> simp
  | reloaded _ _ reloading => cases reloading <;> simp

lemma Step.orderly (h : Step desk act r after) (ho : desk.Orderly) : after.Orderly := by
  have hcell : ∀ k ∈ desk.keepers, k.cell < after.archive.memory.length :=
    fun k hk => (ho.cell k hk).trans_le h.length_le
  cases h with
  | idle => exact ho
  | refused _ _ opening => exact ⟨opening.valid ho.valid, hcell⟩
  | opened _ opening =>
    refine ⟨opening.valid ho.valid, List.forall_mem_append.mpr ⟨hcell, ?_⟩⟩
    refine List.forall_mem_singleton.mpr ?_
    cases opening <;> simp
  | @cloned c mem =>
    refine ⟨ho.valid, List.forall_mem_append.mpr ⟨hcell, ?_⟩⟩
    exact List.forall_mem_singleton.mpr (hcell c mem)
  | updated _ _ updating => exact ⟨updating.valid ho.valid, hcell⟩
  | reloaded _ _ reloading => exact ⟨reloading.valid ho.valid, hcell⟩
  | disturbed => exact ⟨ho.valid, hcell⟩

lemma orderly_performAll (disk : Disk) (acts : List Act) :
    (performAll ⟨⟨disk, []⟩, []⟩ acts).Orderly := by
  refine performAll_induction Orderly ⟨nofun, nofun⟩ ?_
  exact fun desk act _ h => (desk.step_perform act).orderly h

/-- A copy that a keeper has is valid. -/
lemma Orderly.validate_get (h : desk.Orderly) {k : Keeper} (hk : k ∈ desk.keepers) :
    (desk.archive.get k).validate = .ok () := by
  unfold Archive.get
  rw [List.getElem?_eq_getElem (h.cell k hk)]
  exact h.valid _ (List.getElem_mem _)

end Desk

/-! ### Acts that succeed -/

/-- A reload that succeeds gives the keeper, and all that share its copy, what a keeper opened
anew would have. -/
lemma Archive.Reloading.get (hr : a.Reloading k (.ok ()) b) (hk : k.cell < a.memory.length) :
    ∃ fresh, (a.openFile k.path).result = .ok fresh ∧ ∀ c,
      b.get c = if c.cell = k.cell then (a.openFile k.path).archive.get fresh else a.get c := by
  cases hr with
  | loaded hread =>
    refine ⟨_, (Archive.openFile_of_read hread).1, fun c => ?_⟩
    rw [Archive.get_replace hk, Archive.get_openFile hread]

/-- A file that is there is opened without a change of the disk. -/
lemma Archive.Opening.disk {text : Bytes} (h : a.disk.at? path = some (.file text))
    {r : Except Fault Keeper} (ho : a.Opening path r b) : b.disk = a.disk := by
  cases ho with
  | refused => rfl
  | found => rfl
  | unmade hread => exact absurd hread (read_ne_none h)
  | made hread => exact absurd hread (read_ne_none h)

namespace Desk

variable {desk after : Desk}

lemma perform_openFile (desk : Desk) (path : String) :
    (desk.perform (.openFile path)).2.archive = (desk.archive.openFile path).archive ∧
      ((desk.perform (.openFile path)).1 = .ok () → ∃ k,
        (desk.archive.openFile path).result = .ok k ∧
          (desk.perform (.openFile path)).2.keepers = desk.keepers ++ [k]) := by
  dsimp only [perform]
  split
  next heq => exact ⟨by rw [heq], nofun⟩
  next heq => exact ⟨by rw [heq], fun _ => ⟨_, by rw [heq], rfl⟩⟩

lemma perform_clone {i : Nat} (hk : desk.keepers[i]? = some k) :
    desk.perform (.clone i) = (.ok (), { desk with keepers := desk.keepers ++ [k] }) := by
  dsimp only [perform]
  rw [hk]
  rfl

end Desk

open Desk (performAll)

/-- **Keepers on a disk that others change.**  After any acts of any keepers and of others, on any
disk:
all copies in memory, and so those that the keepers have, are valid;
an act that fails changes no copy, and the file on which it works is left as it was (`Intact`);
a reload that succeeds gives the keeper what a keeper of its path opened now would have, and
likewise all with its copy, and nobody else;
a keeper that is opened has a copy that no other has, and a clone has the copy of the cloned one;
and a file that is there is opened and reloaded without a change of the disk. -/
theorem integrity (disk : Disk) (acts : List Act) :
    let desk := performAll ⟨⟨disk, []⟩, []⟩ acts
    ((∀ s ∈ desk.archive.memory, s.validate = .ok ()) ∧
      ∀ k ∈ desk.keepers, (desk.archive.get k).validate = .ok ()) ∧
    (∀ act f after, desk.perform act = (.error f, after) →
      after.archive.memory = desk.archive.memory ∧ after.keepers = desk.keepers ∧
        ∃ path, desk.target? act = some path ∧ Intact desk.archive.disk path after.archive.disk) ∧
    (∀ i k after, desk.keepers[i]? = some k → desk.perform (.reload i) = (.ok (), after) →
      after.keepers = desk.keepers ∧ ∃ fresh, (desk.archive.openFile k.path).result = .ok fresh ∧
        ∀ c, after.archive.get c = if c.cell = k.cell then
          (desk.archive.openFile k.path).archive.get fresh else desk.archive.get c) ∧
    (∀ path after, desk.perform (.openFile path) = (.ok (), after) →
      ∃ k, after.keepers = desk.keepers ++ [k] ∧ k.path = path ∧
        ∀ c ∈ desk.keepers, c.cell ≠ k.cell) ∧
    (∀ i k, desk.keepers[i]? = some k →
      (desk.perform (.clone i)).2.keepers = desk.keepers ++ [k]) ∧
    (∀ path text, desk.archive.disk.at? path = some (.file text) →
      (desk.perform (.openFile path)).2.archive.disk = desk.archive.disk) ∧
    ∀ i, (desk.perform (.reload i)).2.archive.disk = desk.archive.disk := by
  intro desk
  have horderly : desk.Orderly := Desk.orderly_performAll disk acts
  refine ⟨⟨horderly.valid, fun k hk => horderly.validate_get hk⟩, ?_, ?_, ?_, ?_, ?_, ?_⟩
  · intro act f after he
    have hstep := desk.step_perform act
    rw [he] at hstep
    exact hstep.of_error
  · intro i k after hk he
    have hreloading := desk.archive.reloading k
    rw [Desk.perform_reload hk] at he
    obtain ⟨hresult, rfl⟩ := Prod.mk.inj he
    rw [hresult] at hreloading
    exact ⟨rfl, hreloading.get (horderly.cell k (List.mem_of_getElem? hk))⟩
  · intro path after he
    obtain ⟨k, hresult, hkeepers⟩ := (desk.perform_openFile path).2 (by rw [he])
    have hopening := desk.archive.opening path
    rw [hresult] at hopening
    rw [he] at hkeepers
    obtain rfl := hopening.keeper
    exact ⟨_, hkeepers, rfl, fun c hc => (horderly.cell c hc).ne⟩
  · intro i k hk
    rw [Desk.perform_clone hk]
  · intro path text htext
    rw [(desk.perform_openFile path).1]
    exact (desk.archive.opening path).disk htext
  · intro i
    cases hk : desk.keepers[i]? with
    | none =>
      dsimp only [Desk.perform]
      rw [Desk.ask_of_none hk]
    | some k =>
      rw [Desk.perform_reload hk]
      exact (desk.archive.reloading k).disk

/-- The disk on which the file of a keeper has become a directory, and beside it another keeper has
its file, under the name that the first writes to before it moves. -/
def crossed : Disk :=
  ⟨[(["work"], .directory), (["work", "a.json"], .directory),
    (["work", "a.json.tmp"], .file (ofString (pretty {})))], ["work"]⟩

/-- Failures leave traces.  An opening that fails can leave a directory at the very path that was
to be opened, where nothing was, if the directory for the file is reached through the path itself.
And an update that fails can write over the file of another keeper, if that is the file beside the
place. -/
theorem failure_leaves_traces :
    (let before : Desk := ⟨⟨Disk.empty, []⟩, []⟩
      let result := before.perform (.openFile "b.json/../b.json")
      result.1 = .error (unsaved "b.json/../b.json" .isDirectory) ∧
        before.archive.disk.at? "b.json/../b.json" = none ∧
        result.2.archive.disk.at? "b.json/../b.json" = some .directory) ∧
    (let before := performAll ⟨⟨Disk.empty, []⟩, []⟩
        [.openFile "a.json", .openFile "a.json.tmp", .disturb crossed]
      let result := before.perform (.update 0 { timeoutMs := 7 })
      before.keepers = [⟨"a.json", 0⟩, ⟨"a.json.tmp", 1⟩] ∧
        result.1 = .error (unsaved "a.json" .isDirectory) ∧
        result.2.archive.disk.at? "a.json.tmp" ≠ before.archive.disk.at? "a.json.tmp") := by
  refine ⟨⟨rfl, rfl, rfl⟩, rfl, rfl, fun he => ?_⟩
  have hsame : some (DiskEntry.file (ofString (pretty { timeoutMs := 7 }))) =
      some (.file (ofString (pretty {}))) := he
  have heq := ofString_pretty_inj (DiskEntry.file.inj (Option.some.inj hsame))
  exact absurd heq (by decide)

end Courier.Settings

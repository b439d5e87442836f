import Courier.Proofs.Disk.Spots
import Courier.Proofs.Settings.Desk

/-!
The footprint of keepers.  Whatever keepers of one file do, and whatever becomes of it, the disk
changes at the spot of the file, at that of the file beside it, and where directories above it were
missing; an act that succeeds leaves nothing beside the file, unless it left the disk alone.
-/

namespace Courier.Settings

open Disk (GrownAt)
open Text (Bytes)
open Text.Utf8 (ofString)

variable {d e : Disk} {path other : String} {text : Bytes} {s : Settings} {l : Location}

/-! ### Changes -/

/-- A location is that of the file at a path or of the file beside it. -/
def Near (d : Disk) (path : String) (l : Location) : Prop :=
  l = d.spot path ∨ l = d.spot (stagingPath path)

instance : Decidable (Near d path l) := inferInstanceAs (Decidable (_ ∨ _))

/-- A disk changed at most at the file at a path and beside it, where no directory was, and by
directories above it that were missing. -/
structure Confined (path : String) (d e : Disk) : Prop where
  working : e.working = d.working
  entry : ∀ l, e.entry? l = d.entry? l ∨ Near d path l ∧ d.entry? l ≠ some .directory ∨
    d.entry? l = none ∧ e.entry? l = some .directory ∧ ∃ q ∈ parents path, l = d.spot q

namespace Confined

lemma refl (path : String) (d : Disk) : Confined path d d := ⟨rfl, fun _ => .inl rfl⟩

lemma of_grownAt (h : GrownAt (parents path) d e) : Confined path d e :=
  ⟨h.working, fun l => (h.entry l).imp_right .inr⟩

/-- A change of one place near the file. -/
lemma of_near (hw : e.working = d.working) (hnear : Near d path l)
    (hfree : d.entry? l ≠ some .directory) (h : ∀ m, m ≠ l → e.entry? m = d.entry? m) :
    Confined path d e := by
  refine ⟨hw, fun m => ?_⟩
  by_cases hm : m = l
  · exact .inr (.inl (hm ▸ ⟨hnear, hfree⟩))
  · exact .inl (h m hm)

lemma near_iff (h : Confined path d e) : Near e path l ↔ Near d path l := by
  unfold Near
  rw [Disk.spot_congr h.working, Disk.spot_congr h.working]

lemma trans {f : Disk} (h : Confined path d e) (h' : Confined path e f) : Confined path d f := by
  refine ⟨h'.working.trans h.working, fun l => ?_⟩
  rcases h'.entry l with hsame' | ⟨hnear, hfree⟩ | ⟨hnone, hmade, q, hq, hl⟩
  · rw [hsame']
    exact h.entry l
  · have hnear := h.near_iff.mp hnear
    rcases h.entry l with hsame | ⟨-, hfree'⟩ | ⟨-, hmade, -⟩
    · exact .inr (.inl ⟨hnear, hsame ▸ hfree⟩)
    · exact .inr (.inl ⟨hnear, hfree'⟩)
    · exact absurd hmade hfree
  · rw [Disk.spot_congr h.working] at hl
    rcases h.entry l with hsame | hnear | ⟨-, hdirectory, -⟩
    · exact .inr (.inr ⟨hsame ▸ hnone, hmade, q, hq, hl⟩)
    · exact .inr (.inl hnear)
    · cases hnone.symm.trans hdirectory

/-- Directories stay. -/
lemma within (h : Confined path d e) : d.Within e := by
  refine ⟨h.working, fun l hl => ?_⟩
  rcases h.entry l with hsame | ⟨-, hfree⟩ | ⟨hnone, -⟩
  · rw [hsame, hl]
  · exact absurd hl hfree
  · cases hnone.symm.trans hl

/-- A path that leads to another file leads to it as before. -/
lemma at?_file (h : Confined path d e) (hother : d.at? other = some (.file text))
    (hne : ¬Near d path (d.spot other)) : e.at? other = some (.file text) := by
  obtain ⟨l, hl, hentry⟩ := Disk.at?_eq_some_iff.mp hother
  refine Disk.at?_eq_some_iff.mpr ⟨l, h.within.locate hl, ?_⟩
  rcases h.entry l with hsame | ⟨hnear, -⟩ | ⟨hnone, -⟩
  · rw [hsame, hentry]
  · exact absurd (Disk.eq_spot_of_locate hl ▸ hnear) hne
  · cases hnone.symm.trans hentry

/-- A file is found elsewhere only if it was there before. -/
lemma entry?_file (h : Confined path d e) (hentry : e.entry? l = some (.file text))
    (hne : ¬Near d path l) : d.entry? l = some (.file text) := by
  rcases h.entry l with hsame | ⟨hnear, -⟩ | ⟨-, hmade, -⟩
  · rw [← hsame, hentry]
  · exact absurd hnear hne
  · cases hmade.symm.trans hentry

end Confined

/-! ### Saves -/

/-- A text put in place changes the file and what is beside it, and leaves nothing there if it comes
to its place. -/
lemma confined_place (d : Disk) (path : String) (text : Bytes) :
    Confined path d (place d path text).2 ∧
      ((place d path text).1 = .ok () →
        Disk.entry? (place d path text).2 (d.spot (stagingPath path)) = none) := by
  unfold place
  cases hwrite : d.write (stagingPath path) text with
  | error c => exact ⟨.refl path d, nofun⟩
  | ok f =>
    obtain ⟨l, hl, hfree, rfl⟩ := Disk.write_eq_ok hwrite
    have hput : Confined path d (d.put l (.file text)) :=
      .of_near rfl (.inr hl.eq_spot) hfree fun m hm => by rw [Disk.entry?_put hl.ne_nil, if_neg hm]
    dsimp only
    cases hrename : (d.put l (.file text)).rename (stagingPath path) path with
    | error c => exact ⟨hput, nofun⟩
    | ok f =>
      obtain ⟨l', m, content, hl', hm, hcontent, hunheld, rfl⟩ := Disk.rename_eq_ok hrename
      obtain rfl : l' = l := hl'.eq_spot.trans hl.eq_spot.symm
      have hne : m ≠ l' := ne_staging hl' hm.locate
      have herase : Confined path (d.put l' (.file text)) ((d.put l' (.file text)).erase l') :=
        .of_near rfl (.inr hl'.eq_spot) (by rw [hcontent]; nofun) fun k hk => by
          rw [Disk.entry?_erase hl'.ne_nil, if_neg hk]
      have hfree' : Disk.entry? ((d.put l' (.file text)).erase l') m ≠ some .directory := by
        rwa [Disk.entry?_erase hl'.ne_nil, if_neg hne]
      have hlast : Confined path ((d.put l' (.file text)).erase l')
          (((d.put l' (.file text)).erase l').put m (.file content)) :=
        .of_near rfl (.inl hm.eq_spot) hfree' fun k hk => by
          rw [Disk.entry?_put hm.ne_nil, if_neg hk]
      refine ⟨(hput.trans herase).trans hlast, fun _ => ?_⟩
      dsimp only
      rw [← hl.eq_spot, Disk.entry?_put hm.ne_nil, if_neg hne.symm,
        Disk.entry?_erase hl'.ne_nil, if_pos rfl]

lemma confined_save (s : Settings) (d : Disk) (path : String) :
    Confined path d (save s d path).2 ∧
      ((save s d path).1 = .ok () →
        Disk.entry? (save s d path).2 (d.spot (stagingPath path)) = none) := by
  have hprepare := Confined.of_grownAt (grownAt_prepare d path)
  unfold save
  rcases hresult : prepare d path with ⟨_ | _, e⟩ <;> rw [hresult] at hprepare
  · exact ⟨hprepare, nofun⟩
  · obtain ⟨hplace, hbeside⟩ := confined_place e path (ofString s.pretty)
    rw [Disk.spot_congr hprepare.working] at hbeside
    exact ⟨hprepare.trans hplace, hbeside⟩

/-! ### Acts -/

/-- The disk after an act on the file at a path that is done or not: as it was, or as a save leaves
it, which succeeded if the act is done. -/
def Saves (path : String) (d : Disk) (done : Prop) (e : Disk) : Prop :=
  e = d ∨ ∃ s, e = (save s d path).2 ∧ (done → (save s d path).1 = .ok ())

lemma Saves.confined {done : Prop} (h : Saves path d done e) : Confined path d e := by
  obtain rfl | ⟨s, rfl, -⟩ := h
  · exact .refl path e
  · exact (confined_save s d path).1

namespace Archive

variable {a : Archive} {k : Keeper}

lemma saves_openFile (a : Archive) (path : String) :
    Saves path a.disk (∃ k, (a.openFile path).result = .ok k) (a.openFile path).archive.disk := by
  unfold openFile
  split
  next => exact .inl rfl
  next => exact .inl rfl
  next =>
    refine .inr ⟨{}, ?_⟩
    rcases save {} a.disk path with ⟨_ | _, disk⟩
    · exact ⟨rfl, nofun⟩
    · exact ⟨rfl, fun _ => rfl⟩

lemma saves_update (a : Archive) (k : Keeper) (s : Settings) :
    Saves k.path a.disk ((a.update k s).result = .ok ()) (a.update k s).archive.disk := by
  unfold update write
  split
  next => exact .inl rfl
  next =>
    refine .inr ⟨s, ?_⟩
    rcases save s a.disk k.path with ⟨_ | _, disk⟩
    · exact ⟨rfl, nofun⟩
    · exact ⟨rfl, fun _ => rfl⟩

end Archive

/-- The act is one of keepers of the file at a path. -/
def Act.On (path : String) : Act → Prop
  | .openFile path' => path' = path
  | .disturb _ => False
  | _ => True

namespace Desk

variable {desk : Desk} {act : Act}

/-- All keepers at a desk are keepers of the file at a path. -/
def Keeps (path : String) (desk : Desk) : Prop := ∀ k ∈ desk.keepers, k.path = path

/-- An act on the file of all keepers leaves them so, and leaves the disk as it was or as a save
leaves it. -/
lemma keeps_perform (hdesk : desk.Keeps path) (hact : act.On path) :
    (desk.perform act).2.Keeps path ∧
      Saves path desk.archive.disk ((desk.perform act).1 = .ok ())
        (desk.perform act).2.archive.disk := by
  have hupdate : ∀ {i : Nat} {k : Keeper} (s : Settings), desk.keepers[i]? = some k →
      (desk.perform (.update i s)).2.Keeps path ∧
        Saves path desk.archive.disk ((desk.perform (.update i s)).1 = .ok ())
          (desk.perform (.update i s)).2.archive.disk := by
    intro i k s hk
    dsimp only [perform]
    rw [ask_of_some hk]
    have hsaves := desk.archive.saves_update k s
    rw [hdesk k (List.mem_of_getElem? hk)] at hsaves
    exact ⟨hdesk, hsaves⟩
  cases act with
  | openFile path' =>
    obtain rfl : path' = path := hact
    have hsaves := desk.archive.saves_openFile path'
    have hopening := desk.archive.opening path'
    dsimp only [perform]
    split
    next f archive _ heq =>
      rw [heq] at hsaves
      exact ⟨hdesk, hsaves.imp_right fun ⟨s, hs, _⟩ => ⟨s, hs, nofun⟩⟩
    next k archive _ heq =>
      rw [heq] at hsaves hopening
      obtain rfl := hopening.keeper
      refine ⟨List.forall_mem_append.mpr ⟨hdesk, by simp⟩, hsaves.imp_right ?_⟩
      rintro ⟨s, hs, hdone⟩
      exact ⟨s, hs, fun _ => hdone ⟨_, rfl⟩⟩
  | clone i =>
    refine ⟨List.forall_mem_append.mpr ⟨hdesk, fun c hc => hdesk c ?_⟩, .inl rfl⟩
    exact List.mem_of_getElem? (Option.mem_toList.mp hc)
  | update i s =>
    cases hk : desk.keepers[i]? with
    | none =>
      dsimp only [perform]
      rw [ask_of_none hk]
      exact ⟨hdesk, .inl rfl⟩
    | some k => exact hupdate s hk
  | updateWith i edit =>
    cases hk : desk.keepers[i]? with
    | none =>
      dsimp only [perform]
      rw [ask_of_none hk]
      exact ⟨hdesk, .inl rfl⟩
    | some k =>
      rw [perform_updateWith hk]
      exact hupdate _ hk
  | reload i =>
    cases hk : desk.keepers[i]? with
    | none =>
      dsimp only [perform]
      rw [ask_of_none hk]
      exact ⟨hdesk, .inl rfl⟩
    | some k =>
      rw [perform_reload hk]
      exact ⟨hdesk, .inl (desk.archive.reloading k).disk⟩
  | disturb disk => exact hact.elim

/-- All acts on the file of all keepers leave them so, and change the disk at it and near it. -/
lemma confined_performAll {acts : List Act} (hdesk : desk.Keeps path)
    (h : ∀ act ∈ acts, act.On path) : (desk.performAll acts).Keeps path ∧
      Confined path desk.archive.disk (desk.performAll acts).archive.disk := by
  refine performAll_induction
    (fun after => after.Keeps path ∧ Confined path desk.archive.disk after.archive.disk)
    ⟨hdesk, .refl path _⟩ fun after act hmem hafter => ?_
  obtain ⟨hkeeps, hsaves⟩ := keeps_perform hafter.1 (h act hmem)
  exact ⟨hkeeps, hafter.2.trans hsaves.confined⟩

end Desk

open Desk (performAll)

/-- **The footprint of keepers** of the file at a path.  Whatever they do, all of it and each act of it,
whether it succeeds or not, changes the disk at most at that file and at the one beside it and by
directories above it that were missing: paths that lead to other files lead to them as before, and no
other file comes up.  An act that succeeds leaves the disk as it was, or with settings at the path and
nothing beside them. -/
theorem footprint (disk : Disk) (path : String) (acts : List Act)
    (h : ∀ act ∈ acts, act.On path) :
    let desk := performAll ⟨⟨disk, []⟩, []⟩ acts
    Confined path disk desk.archive.disk ∧
    ∀ act, act.On path →
      let before := desk.archive.disk
      let after := (desk.perform act).2.archive.disk
      Confined path before after ∧
      (∀ other text, before.at? other = some (.file text) → ¬Near before path (before.spot other) →
        after.at? other = some (.file text)) ∧
      (∀ l text, after.entry? l = some (.file text) → ¬Near before path l →
        before.entry? l = some (.file text)) ∧
      ((desk.perform act).1 = .ok () → after = before ∨
        (∃ s, after.at? path = some (.file (ofString (pretty s)))) ∧
          after.entry? (before.spot (stagingPath path)) = none) := by
  intro desk
  have hnobody : Desk.Keeps path ⟨⟨disk, []⟩, []⟩ := nofun
  obtain ⟨hkeeps, hconfined⟩ := Desk.confined_performAll hnobody h
  refine ⟨hconfined, fun act hact => ?_⟩
  obtain ⟨-, hsaves⟩ := Desk.keeps_perform hkeeps hact
  refine ⟨hsaves.confined, fun other text => hsaves.confined.at?_file,
    fun l text => hsaves.confined.entry?_file, fun hdone => ?_⟩
  obtain hsame | ⟨s, hs, hsaved⟩ := hsaves
  · exact .inl hsame
  · right
    have hsaving := saving_save s desk.archive.disk path
    rw [hsaved hdone] at hsaving
    rw [hs]
    exact ⟨⟨s, hsaving.at?_of_ok⟩, (confined_save s desk.archive.disk path).2 (hsaved hdone)⟩

/-- A file in the working directory of which keepers know nothing. -/
def strange (name : String) : Disk := Disk.empty.put ["work", name] (.file (ofString "mine"))

theorem footprint_of_stranger : Disk.at? (performAll ⟨⟨strange "o.json", []⟩, []⟩
    [.openFile "c.json", .updateWith 0 fun s => { s with timeoutMs := 7 }]).archive.disk "o.json" =
      some (.file (ofString "mine")) := by
  have h := footprint (strange "o.json") "c.json"
    [.openFile "c.json", .updateWith 0 fun s => { s with timeoutMs := 7 }] (by simp [Act.On])
  exact h.1.at?_file rfl (by decide)

/-- The file beside the place is not spared.  A save that succeeds takes away a strange file that stands
there, and a save that fails can leave its text there, where nothing was. -/
theorem beside_not_spared :
    (let before : Desk := ⟨⟨strange "c.json.tmp", []⟩, []⟩
      let result := before.perform (.openFile "c.json")
      result.1 = .ok () ∧ before.archive.disk.at? "c.json.tmp" = some (.file (ofString "mine")) ∧
        result.2.archive.disk.at? "c.json.tmp" = none) ∧
    (let before : Desk := ⟨⟨Disk.empty, []⟩, []⟩
      let result := before.perform (.openFile "b.json/../b.json")
      result.1 = .error (unsaved "b.json/../b.json" .isDirectory) ∧
        before.archive.disk.at? "b.json.tmp" = none ∧
        result.2.archive.disk.at? "b.json.tmp" = some (.file (ofString (pretty {})))) :=
  ⟨⟨rfl, rfl, rfl⟩, rfl, rfl, rfl⟩

end Courier.Settings

import Courier.Proofs.Disk.Spots
import Courier.Proofs.Settings.Text
import Courier.Proofs.Text.Utf8
import Courier.Settings.File

/-!
What saving settings does to a disk.  It can stop at three points: before anything was written,
with the text beside the place, and with the text in place.  Up to the last of them nothing that a
path leads to has changed but the file beside the place; after it the settings are read back as
they were saved.
-/

namespace Courier.Settings

open Disk (GrownAt)
open Text (Bytes)
open Text.Utf8 (ofString)

variable {d e : Disk} {path other : String} {text : Bytes} {s : Settings}

/-! ### Reading -/

/-- What is read of a file that is there depends on its content alone. -/
lemma readText_of_file (h : d.at? path = some (.file text)) : d.readText path =
    if (Text.Utf8.decode? text).isSome then .ok text else .error .notText := by
  unfold Disk.readText
  rw [Disk.read_eq_ok_iff.mpr h]
  rfl

lemma read_congr (hd : d.at? path = some (.file text)) (he : e.at? path = some (.file text)) :
    read e path = read d path := by
  unfold read
  rw [readText_of_file hd, readText_of_file he]

/-- A file that is there is not taken for missing. -/
lemma read_ne_none (h : d.at? path = some (.file text)) : read d path ≠ .ok none := by
  unfold read
  rw [readText_of_file h]
  split
  next hr => split at hr <;> cases hr
  next => nofun
  next =>
    split
    next => nofun
    next => split <;> nofun

/-- Settings are read of a file that is there, and are valid. -/
lemma read_eq_some (h : read d path = .ok (some s)) :
    (∃ text, d.at? path = some (.file text)) ∧ s.validate = .ok () := by
  unfold read at h
  split at h
  next => cases h
  next => cases h
  next text htext =>
    split at h
    next => cases h
    next t _ =>
      split at h
      next => cases h
      next hvalid =>
        obtain rfl := Option.some.inj (Except.ok.inj h)
        refine ⟨⟨text, Disk.read_eq_ok_iff.mp ?_⟩, hvalid⟩
        unfold Disk.readText at htext
        obtain ⟨content, hread, hcontent⟩ := bind_eq_ok_iff.mp htext
        split at hcontent
        next => exact Except.ok.inj hcontent ▸ hread
        next => cases hcontent

/-- Valid settings are read back where their text is. -/
lemma read_of_pretty (h : d.at? path = some (.file (ofString s.pretty)))
    (hs : s.validate = .ok ()) : read d path = .ok (some s) := by
  have hdecode : (Text.Utf8.decode? (ofString s.pretty)).isSome = true := by
    unfold ofString
    rw [Text.Utf8.decode_encode]
    rfl
  unfold read
  rw [readText_of_file h, if_pos hdecode]
  dsimp only
  rw [ofText_pretty]
  dsimp only
  rw [hs]

/-! ### The ways of a save -/

/-- The directory in which a file is to stand is there. -/
def Ready (d : Disk) (path : String) : Prop :=
  ∀ dir, Path.parent? path = some dir → dir = "" ∨ d.isDirectory dir = true

/-- The paths of the directory in which a file is to stand and of those above it. -/
def parents (path : String) : List String :=
  match Path.parent? path with
  | none => []
  | some dir => Path.ancestors (dir.length + 1) dir

/-- Directories are made for a file where they are missing on its path. -/
lemma grownAt_prepare (d : Disk) (path : String) :
    GrownAt (parents path) d (prepare d path).2 := by
  unfold prepare parents
  cases Path.parent? path with
  | none => exact .refl _ d
  | some dir =>
    have hgrown := Disk.grownAt_createDirectories d dir
    dsimp only
    split
    next => exact .refl _ d
    next => split <;> next h => rwa [h] at hgrown

lemma prepare_of_ready (h : Ready d path) : prepare d path = (.ok (), d) := by
  unfold prepare
  split
  next => rfl
  next dir hdir =>
    rcases h dir hdir with hempty | hthere
    · rw [if_pos hempty]
    · split
      next => rfl
      next => rw [Disk.createDirectories_of_isDirectory hthere]

/-- The disk on which a file is written: directories were made, unless the one in which it is to
stand was there. -/
structure Prepared (d : Disk) (path : String) (e : Disk) : Prop where
  grown : d.Grown e
  ready : Ready d path → e = d

/-- How far the save of a text comes, and the disk that it leaves. -/
inductive Saving (d : Disk) (path : String) (text : Bytes) : Except Fault Unit → Disk → Prop
  /-- nothing was written -/
  | unwritten {f : Fault} {e : Disk} (prepared : Prepared d path e) :
      Saving d path text (.error f) e
  /-- the text was written beside the place, and not moved -/
  | unmoved {f : Fault} {e : Disk} {l : Location} (prepared : Prepared d path e)
      (staging : e.Leads (stagingPath path) l) (free : e.entry? l ≠ some .directory) :
      Saving d path text (.error f) (e.put l (.file text))
  /-- the text is in place -/
  | saved {e : Disk} {l m : Location} (prepared : Prepared d path e)
      (staging : e.Leads (stagingPath path) l) (free : e.entry? l ≠ some .directory)
      (target : (e.put l (.file text)).Leads path m) (unheld : e.entry? m ≠ some .directory) :
      Saving d path text (.ok ()) (((e.put l (.file text)).erase l).put m (.file text))

/-- The file beside a place stands elsewhere. -/
lemma ne_staging {l m : Location} (hl : d.Leads (stagingPath path) l)
    (hm : d.locate path = .ok m) : m ≠ l :=
  Disk.ne_of_withExtension (by decide) (by decide) hl hm

lemma saving_place (h : Prepared d path e) :
    Saving d path text (place e path text).1 (place e path text).2 := by
  unfold place
  cases hwrite : e.write (stagingPath path) text with
  | error c => exact .unwritten h
  | ok f =>
    obtain ⟨l, hstaging, hfree, rfl⟩ := Disk.write_eq_ok hwrite
    have halike := Disk.alike_put hstaging.ne_nil hfree text
    dsimp only
    cases hrename : (e.put l (.file text)).rename (stagingPath path) path with
    | error c => exact .unmoved h hstaging hfree
    | ok f =>
      -- what is moved is the file that was just written
      obtain ⟨l', m, content, hl', htarget, hcontent, hunheld, rfl⟩ := Disk.rename_eq_ok hrename
      obtain rfl : l' = l :=
        Except.ok.inj (hl'.locate.symm.trans (halike.locate_iff.mpr hstaging.locate))
      rw [Disk.entry?_put hstaging.ne_nil, if_pos rfl] at hcontent
      obtain rfl := DiskEntry.file.inj (Option.some.inj hcontent)
      refine .saved h hstaging hfree htarget ?_
      have hne := ne_staging hstaging (halike.locate_iff.mp htarget.locate)
      rwa [Disk.entry?_put hstaging.ne_nil, if_neg hne] at hunheld

lemma saving_save (s : Settings) (d : Disk) (path : String) :
    Saving d path (ofString s.pretty) (save s d path).1 (save s d path).2 := by
  have hprepared : Prepared d path (prepare d path).2 :=
    ⟨(grownAt_prepare d path).grown, fun h => by rw [prepare_of_ready h]⟩
  unfold save
  rcases hresult : prepare d path with ⟨result, e⟩
  rw [hresult] at hprepared
  cases result with
  | error f => exact .unwritten hprepared
  | ok => exact saving_place hprepared

/-! ### What becomes of paths -/

/-- A text that was saved is where the path leads. -/
lemma Saving.at?_of_ok (h : Saving d path text (.ok ()) e) : e.at? path = some (.file text) := by
  cases h with
  | @saved e l m _ staging free target unheld =>
    have hl := staging.ne_nil
    have hm := target.ne_nil
    have hput := Disk.alike_put hl free text
    have hne := ne_staging staging (hput.locate_iff.mp target.locate)
    have herase : (e.put l (.file text)).Alike ((e.put l (.file text)).erase l) := by
      refine Disk.alike_erase hl ?_
      rw [Disk.entry?_put hl, if_pos rfl]
      nofun
    have hplace : Disk.entry? ((e.put l (.file text)).erase l) m ≠ some .directory := by
      rwa [Disk.entry?_erase hl, if_neg hne, Disk.entry?_put hl, if_neg hne]
    have hlast := Disk.alike_put hm hplace text
    rw [Disk.at?_of_locate (hlast.locate_iff.mpr (herase.locate_iff.mpr target.locate)),
      Disk.entry?_put hm, if_pos rfl]

/-- A path leads to what it led to, if it led to something or no directories had to be made. -/
lemma Prepared.at? (h : Prepared d path e) (ho : Ready d path ∨ (d.at? other).isSome = true) :
    e.at? other = d.at? other := by
  rcases ho with hready | hsome
  · rw [h.ready hready]
  · obtain ⟨x, hx⟩ := Option.isSome_iff_exists.mp hsome
    rw [hx, h.grown.at? hx]

/-- Work on the file at a path that came to nothing.  What was at the path is there as it was, and
so is what any other path led to, but for the file beside the place; where nothing was, and the
directory in which the file is to stand was missing, directories may have been made, and nothing
else. -/
structure Intact (d : Disk) (path : String) (e : Disk) : Prop where
  own : Ready d path ∨ (d.at? path).isSome = true → e.at? path = d.at? path
  others : ∀ other, Ready d path ∨ (d.at? other).isSome = true →
    (∀ l, e.locate other = .ok l → ¬e.Leads (stagingPath path) l) → e.at? other = d.at? other
  places : ∀ l, e.entry? l = d.entry? l ∨
    (d.entry? l = none ∧ e.entry? l = some .directory) ∨ e.Leads (stagingPath path) l

lemma Intact.refl (d : Disk) (path : String) : Intact d path d :=
  ⟨fun _ => rfl, fun _ _ _ => rfl, fun _ => .inl rfl⟩

/-- A save that fails leaves the place intact. -/
lemma Saving.intact {f : Fault} (h : Saving d path text (.error f) e) : Intact d path e := by
  have hothers : ∀ other, Ready d path ∨ (d.at? other).isSome = true →
      (∀ l, e.locate other = .ok l → ¬e.Leads (stagingPath path) l) →
      e.at? other = d.at? other := by
    intro other ho hne
    cases h with
    | unwritten prepared => exact prepared.at? ho
    | @unmoved _ e l prepared staging free =>
      have halike := Disk.alike_put staging.ne_nil free text
      rw [Disk.at?_put staging.ne_nil free text fun m hm he => ?_]
      · exact prepared.at? ho
      · exact hne m (halike.locate_iff.mpr hm) (halike.1.leads (he ▸ staging))
  refine ⟨fun ho => hothers path ho fun _ hl hs => ne_staging hs hl rfl, hothers, fun m => ?_⟩
  cases h with
  | unwritten prepared =>
    rcases prepared.grown.entry m with hsame | hmade
    · exact .inl hsame
    · exact .inr (.inl hmade)
  | @unmoved _ e l prepared staging free =>
    rw [Disk.entry?_put staging.ne_nil]
    by_cases hm : m = l
    · exact .inr (.inr ((Disk.alike_put staging.ne_nil free text).1.leads (hm ▸ staging)))
    · rw [if_neg hm]
      rcases prepared.grown.entry m with hsame | hmade
      · exact .inl hsame
      · exact .inr (.inl hmade)

end Courier.Settings

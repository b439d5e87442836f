import Courier.Disk.Basic
import Courier.Proofs.Disk.Paths
import Courier.Proofs.Failing

/-!
What the operations on a disk change.  A walk along a path looks at directories alone, so that it
is the same on two disks with the same directories; files may come and go beside it.  An operation
that writes leads to one location, or to two, and leaves all others as they were; making
directories adds directories where nothing was.
-/

namespace Courier.Disk

open Courier.Path (parts isName Idle)
open Text (Bytes)

variable {d e : Disk} {l m n : Location} {path : String}

/-! ### Entries -/

lemma lookup_filter_ne (xs : List (Location × DiskEntry)) (l m : Location) :
    (xs.filter (·.1 != l)).lookup m = if m = l then none else xs.lookup m := by
  induction xs with
  | nil => simp
  | cons x xs ih =>
    obtain ⟨n, y⟩ := x
    by_cases hnl : n = l <;> by_cases hmn : m = n
    · subst hnl hmn; simp [ih]
    · subst hnl; simp [ih, hmn, List.lookup_cons, beq_eq_false_iff_ne.mpr hmn]
    · subst hmn; simp [hnl]
    · simp [hnl, ih, List.lookup_cons, beq_eq_false_iff_ne.mpr hmn]

lemma entry?_put (hl : l ≠ []) (x : DiskEntry) (m : Location) :
    entry? (d.put l x) m = if m = l then some x else d.entry? m := by
  unfold entry? put
  by_cases hm : m = []
  · subst hm
    simp [hl.symm]
  · by_cases hml : m = l
    · simp [hml, hl]
    · simp [hm, hml, List.lookup_cons, lookup_filter_ne, beq_eq_false_iff_ne.mpr hml]

lemma entry?_erase (hl : l ≠ []) (m : Location) :
    entry? (d.erase l) m = if m = l then none else d.entry? m := by
  unfold entry? erase
  by_cases hm : m = []
  · subst hm
    simp [hl.symm]
  · simp [hm, lookup_filter_ne]

lemma enter_eq_ok_iff : d.enter l = .ok () ↔ d.entry? l = some .directory := by
  unfold enter
  split <;> simp_all

/-! ### Walks -/

/-- Where a walk goes by its first part. -/
def turn (l : Location) (part : String) : Location :=
  if part = "" ∨ part = "." then l else if part = ".." then l.dropLast else l ++ [part]

/-- A walk enters a directory for every part, and takes a name if it is not too long. -/
lemma walk_cons_eq_ok_iff {part : String} {ps : List String} : d.walk l (part :: ps) = .ok m ↔
    d.entry? l = some .directory ∧ (isName part = true → checkName part = .ok ()) ∧
      d.walk (turn l part) ps = .ok m := by
  rw [walk, check_bind_eq_ok_iff, enter_eq_ok_iff, turn]
  by_cases hidle : part = "" ∨ part = "."
  · have hname : isName part = false := by rcases hidle with rfl | rfl <;> rfl
    simp [hidle, hname]
  · by_cases hup : part = ".."
    · have hname : isName ".." = false := rfl
      simp [hup, hname]
    · have hname : isName part = true :=
        Path.isName_iff.mpr ⟨fun h => hidle (.inl h), fun h => hidle (.inr h), hup⟩
      simp [hidle, hup, hname, check_bind_eq_ok_iff]

lemma walk_append_eq_ok_iff {ps qs : List String} : d.walk l (ps ++ qs) = .ok n ↔
    ∃ m, d.walk l ps = .ok m ∧ d.walk m qs = .ok n := by
  induction ps generalizing l with
  | nil => simp [walk]
  | cons part ps ih =>
    rw [List.cons_append, walk_cons_eq_ok_iff, ih]
    simp only [walk_cons_eq_ok_iff]
    constructor
    · rintro ⟨hl, hname, k, hk, hn⟩
      exact ⟨k, ⟨hl, hname, hk⟩, hn⟩
    · rintro ⟨k, ⟨hl, hname, hk⟩, hn⟩
      exact ⟨hl, hname, k, hk, hn⟩

/-- Parts that lead nowhere do not move a walk. -/
lemma walk_idle {idle : List String} (h : ∀ x ∈ idle, Idle x) (hw : d.walk l idle = .ok m) :
    m = l := by
  induction idle with
  | nil => exact (Except.ok.inj hw).symm
  | cons x idle ih =>
    obtain ⟨-, -, hw⟩ := walk_cons_eq_ok_iff.mp hw
    rw [turn, if_pos (show x = "" ∨ x = "." from h x List.mem_cons_self)] at hw
    exact ih (fun y hy => h y (List.mem_cons_of_mem _ hy)) hw

/-- A walk depends on the directories alone. -/
lemma walk_mono (h : ∀ k, d.entry? k = some .directory → e.entry? k = some .directory)
    {ps : List String} (hw : d.walk l ps = .ok m) : e.walk l ps = .ok m := by
  induction ps generalizing l with
  | nil => exact hw
  | cons part ps ih =>
    obtain ⟨hl, hname, hw⟩ := walk_cons_eq_ok_iff.mp hw
    exact walk_cons_eq_ok_iff.mpr ⟨h l hl, hname, ih hw⟩

lemma locate_eq_ok_iff : d.locate path = .ok l ↔
    checkPath path = .ok () ∧ d.walk (d.start path) (parts path) = .ok l := by
  simp [locate, check_bind_eq_ok_iff]

/-! ### Directories in common -/

/-- All directories of a disk are on another, which has the same working directory. -/
structure Within (d e : Disk) : Prop where
  working : e.working = d.working
  directory : ∀ l, d.entry? l = some .directory → e.entry? l = some .directory

lemma Within.locate (h : d.Within e) (hl : d.locate path = .ok l) : e.locate path = .ok l := by
  obtain ⟨hpath, hwalk⟩ := locate_eq_ok_iff.mp hl
  have hstart : e.start path = d.start path := by
    unfold start
    rw [h.working]
  exact locate_eq_ok_iff.mpr ⟨hpath, hstart ▸ walk_mono h.directory hwalk⟩

/-- Two disks have the same directories, and the same working directory. -/
def Alike (d e : Disk) : Prop := d.Within e ∧ e.Within d

lemma Alike.locate_iff (h : d.Alike e) : e.locate path = .ok l ↔ d.locate path = .ok l :=
  ⟨h.2.locate, h.1.locate⟩

/-- A change of one place that neither was nor becomes a directory. -/
lemma alike_of_entry (hw : e.working = d.working) (hd : d.entry? l ≠ some .directory)
    (he : e.entry? l ≠ some .directory) (h : ∀ m, m ≠ l → e.entry? m = d.entry? m) :
    d.Alike e := by
  refine ⟨⟨hw, fun m hm => ?_⟩, ⟨hw.symm, fun m hm => ?_⟩⟩
  · by_cases hml : m = l
    · exact absurd (hml ▸ hm) hd
    · rw [h m hml, hm]
  · by_cases hml : m = l
    · exact absurd (hml ▸ hm) he
    · rw [← h m hml, hm]

lemma alike_put (hl : l ≠ []) (hd : d.entry? l ≠ some .directory) (content : Bytes) :
    d.Alike (d.put l (.file content)) := by
  refine alike_of_entry rfl hd ?_ fun m hm => ?_
  · rw [entry?_put hl, if_pos rfl]
    nofun
  · rw [entry?_put hl, if_neg hm]

lemma alike_erase (hl : l ≠ []) (hd : d.entry? l ≠ some .directory) : d.Alike (d.erase l) := by
  refine alike_of_entry rfl hd ?_ fun m hm => ?_
  · rw [entry?_erase hl, if_pos rfl]
    nofun
  · rw [entry?_erase hl, if_neg hm]

/-- What a path leads to, if it leads to something. -/
def at? (d : Disk) (path : String) : Option DiskEntry :=
  match d.locate path with
  | .ok l => d.entry? l
  | .error _ => none

lemma at?_of_locate (h : d.locate path = .ok l) : d.at? path = d.entry? l := by
  unfold at?
  rw [h]

lemma at?_eq_some_iff {x : DiskEntry} : d.at? path = some x ↔
    ∃ l, d.locate path = .ok l ∧ d.entry? l = some x := by
  unfold at?
  cases d.locate path <;> simp

lemma isDirectory_iff : d.isDirectory path = true ↔ d.at? path = some .directory := by
  unfold isDirectory at?
  cases d.locate path <;> simp

/-- Where two disks have the same directories, a path leads to the same on both if they agree
about the place. -/
lemma at?_congr (h : d.Alike e) (hl : ∀ l, d.locate path = .ok l → e.entry? l = d.entry? l) :
    e.at? path = d.at? path := by
  unfold at?
  cases hd : d.locate path with
  | ok l =>
    rw [h.locate_iff.mpr hd]
    exact hl l hd
  | error c =>
    cases he : e.locate path with
    | ok l =>
      rw [h.locate_iff.mp he] at hd
      cases hd
    | error c => rfl

/-- A file is read as it is. -/
lemma read_eq_ok_iff {content : Bytes} :
    d.read path = .ok content ↔ d.at? path = some (.file content) := by
  simp only [read, bind_eq_ok_iff, at?_eq_some_iff]
  refine exists_congr fun l => and_congr_right fun _ => ?_
  cases hentry : d.entry? l with
  | none => exact iff_of_false nofun nofun
  | some x =>
    cases x with
    | directory => exact iff_of_false nofun (by simp)
    | file bytes => simp [pure, Except.pure]

/-! ### Places -/

/-- A path ends in a name, and leads by it out of a directory that is there. -/
structure Leads (d : Disk) (path : String) (l : Location) : Prop where
  checked : checkPath path = .ok ()
  spelled : ∃ q name m, parts path = q ++ [name] ∧ isName name = true ∧
    checkName name = .ok () ∧ d.walk (d.start path) q = .ok m ∧ d.entry? m = some .directory ∧
    l = m ++ [name]

lemma Leads.ne_nil (h : d.Leads path l) : l ≠ [] := by
  obtain ⟨q, name, m, -, -, -, -, -, rfl⟩ := h.spelled
  exact List.append_ne_nil_of_right_ne_nil m (List.cons_ne_nil _ _)

lemma turn_of_isName {name : String} (h : isName name = true) : turn l name = l ++ [name] := by
  obtain ⟨hne, hone, htwo⟩ := Path.isName_iff.mp h
  unfold turn
  rw [if_neg (by simp [hne, hone]), if_neg htwo]

lemma Leads.locate (h : d.Leads path l) : d.locate path = .ok l := by
  obtain ⟨q, name, m, hparts, hnamed, hname, hwalk, hm, rfl⟩ := h.spelled
  refine locate_eq_ok_iff.mpr ⟨h.checked, ?_⟩
  rw [hparts]
  refine walk_append_eq_ok_iff.mpr ⟨m, hwalk, walk_cons_eq_ok_iff.mpr ⟨hm, fun _ => hname, ?_⟩⟩
  rw [turn_of_isName hnamed]
  rfl

lemma Within.leads (h : d.Within e) (hl : d.Leads path l) : e.Leads path l := by
  obtain ⟨hpath, q, name, m, hparts, hnamed, hname, hwalk, hm, rfl⟩ := hl
  have hstart : e.start path = d.start path := by
    unfold start
    rw [h.working]
  exact ⟨hpath, q, name, m, hparts, hnamed, hname, hstart ▸ walk_mono h.directory hwalk,
    h.directory m hm, rfl⟩

/-- A file written elsewhere is not seen by a path. -/
lemma at?_put (hl : l ≠ []) (hd : d.entry? l ≠ some .directory) (content : Bytes)
    (hne : ∀ m, d.locate path = .ok m → m ≠ l) :
    (d.put l (.file content)).at? path = d.at? path := by
  refine at?_congr (alike_put hl hd content) fun m hm => ?_
  rw [entry?_put hl, if_neg (hne m hm)]

lemma place_eq_ok_iff {p : Place} : d.place path = .ok p ↔ checkPath path = .ok () ∧
    d.walk (d.start path) (solidParts path).dropLast = .ok p.directory ∧
    d.entry? p.directory = some .directory ∧ p.last = (solidParts path).getLast?.getD "" ∧
    p.slash = ((parts path).getLast? == some "") := by
  simp only [place, check_bind_eq_ok_iff]
  constructor
  · rintro ⟨hpath, h⟩
    obtain ⟨m, hwalk, h⟩ := bind_eq_ok_iff.mp h
    obtain ⟨_, hm, hp⟩ := bind_eq_ok_iff.mp h
    obtain rfl := Except.ok.inj hp
    exact ⟨hpath, hwalk, enter_eq_ok_iff.mp hm, rfl, rfl⟩
  · rintro ⟨hpath, hwalk, hm, hlast, hslash⟩
    refine ⟨hpath, bind_eq_ok_iff.mpr ⟨_, hwalk, bind_eq_ok_iff.mpr ⟨(), ?_, ?_⟩⟩⟩
    · exact enter_eq_ok_iff.mpr hm
    · rw [← hlast, ← hslash]
      rfl

/-- Parts of which the last is not empty are all kept. -/
lemma solidParts_of_getLast? (h : (parts path).getLast? ≠ some "") :
    solidParts path = parts path := by
  unfold solidParts
  rcases hrev : (parts path).reverse with _ | ⟨x, xs⟩
  · rw [List.reverse_eq_nil_iff.mp hrev]
    rfl
  · have hlast : (parts path).getLast? = some x := by
      rw [List.getLast?_eq_head?_reverse, hrev]
      rfl
    have hx : (x == "") = false := by simpa [hlast] using h
    rw [List.dropWhile_cons_of_neg (by simpa using hx), ← hrev, List.reverse_reverse]

/-- A place of which the last part is a name is where the path leads. -/
lemma leads_of_place {p : Place} (h : d.place path = .ok p) (hslash : p.slash = false)
    (hnamed : isName p.last = true) (hname : checkName p.last = .ok ()) :
    d.Leads path p.location := by
  obtain ⟨hpath, hwalk, hm, hlast, hsl⟩ := place_eq_ok_iff.mp h
  have hsolid : solidParts path = parts path := by
    refine solidParts_of_getLast? fun he => ?_
    rw [hslash, he] at hsl
    simp at hsl
  rw [hsolid] at hwalk hlast
  have hne : parts path ≠ [] := by
    intro he
    rw [hlast, he] at hnamed
    exact absurd hnamed (by decide)
  refine ⟨hpath, (parts path).dropLast, p.last, p.directory, ?_, hnamed, hname, hwalk, hm, rfl⟩
  rw [hlast, List.getLast?_eq_some_getLast hne, Option.getD_some,
    List.dropLast_concat_getLast hne]

/-! ### What an operation writes -/

lemma write_eq_ok {content : Bytes} (h : d.write path content = .ok e) :
    ∃ l, d.Leads path l ∧ d.entry? l ≠ some .directory ∧ e = d.put l (.file content) := by
  simp only [write, bind_eq_ok_iff, guard_eq_ok_iff] at h
  obtain ⟨p, hp, hguard, _, hname, hfree, he⟩ := h
  obtain ⟨hslash, hnamed⟩ : p.slash = false ∧ isName p.last = true := by simpa using hguard
  exact ⟨_, leads_of_place hp hslash hnamed hname, hfree, (Except.ok.inj he).symm⟩

lemma rename_eq_ok {source target : String} (h : d.rename source target = .ok e) :
    ∃ l m content, d.Leads source l ∧ d.Leads target m ∧ d.entry? l = some (.file content) ∧
      d.entry? m ≠ some .directory ∧ e = (d.erase l).put m (.file content) := by
  simp only [rename, bind_eq_ok_iff, guard_eq_ok_iff] at h
  obtain ⟨s, hs, t, ht, hguard, _, hsname, _, htname, h⟩ := h
  obtain ⟨hsnamed, htnamed⟩ : isName s.last = true ∧ isName t.last = true := by
    simpa using hguard
  cases hentry : d.entry? s.location with
  | none => rw [hentry] at h; cases h
  | some x =>
    cases x with
    | directory => rw [hentry] at h; cases h
    | file content =>
      rw [hentry] at h
      simp only [guard_eq_ok_iff] at h
      obtain ⟨hslash, hfree, he⟩ := h
      obtain ⟨hsslash, htslash⟩ : s.slash = false ∧ t.slash = false := by simpa using hslash
      exact ⟨_, _, content, leads_of_place hs hsslash hsnamed hsname,
        leads_of_place ht htslash htnamed htname, hentry, hfree, (Except.ok.inj he).symm⟩

/-! ### Directories made -/

/-- Directories were made where nothing was, and all else is as it was. -/
structure Grown (d e : Disk) : Prop where
  working : e.working = d.working
  entry : ∀ l, e.entry? l = d.entry? l ∨ d.entry? l = none ∧ e.entry? l = some .directory

lemma Grown.kept (h : d.Grown e) {x : DiskEntry} (hl : d.entry? l = some x) :
    e.entry? l = some x := by
  rcases h.entry l with he | ⟨hnone, -⟩
  · exact he.trans hl
  · rw [hl] at hnone
    cases hnone

lemma Grown.within (h : d.Grown e) : d.Within e := ⟨h.working, fun _ hl => h.kept hl⟩

/-- What a path leads to stays there. -/
lemma Grown.at? (h : d.Grown e) {x : DiskEntry} (hx : d.at? path = some x) :
    e.at? path = some x := by
  obtain ⟨l, hl, hentry⟩ := at?_eq_some_iff.mp hx
  exact at?_eq_some_iff.mpr ⟨l, h.within.locate hl, h.kept hentry⟩

/-- The parts that are left out at the end of a path are empty. -/
lemma parts_eq_solidParts_append (path : String) :
    ∃ idle, (∀ x ∈ idle, x = "") ∧ parts path = solidParts path ++ idle := by
  refine ⟨((parts path).reverse.takeWhile (· == "")).reverse, fun x hx => ?_, ?_⟩
  · simpa using List.mem_takeWhile_imp (List.mem_reverse.mp hx)
  · unfold solidParts
    rw [← List.reverse_append, List.takeWhile_append_dropWhile, List.reverse_reverse]

lemma createDirectory_of_place {p : Place} (h : d.place path = .ok p)
    (hp : isName p.last = true → checkName p.last = .ok () ∧ (d.entry? p.location).isSome = true) :
    d.createDirectory path = .error .alreadyExists := by
  unfold createDirectory
  rw [h]
  by_cases hnamed : isName p.last = true
  · obtain ⟨hname, hsome⟩ := hp hnamed
    simp [bind, Except.bind, throw, throwThe, MonadExceptOf.throw, hnamed, hname, hsome]
  · simp [bind, Except.bind, throw, throwThe, MonadExceptOf.throw, hnamed]

/-- A directory that is there is not made again. -/
lemma createDirectory_of_isDirectory (h : d.isDirectory path = true) :
    d.createDirectory path = .error .alreadyExists := by
  obtain ⟨l, hl, hdir⟩ := at?_eq_some_iff.mp (isDirectory_iff.mp h)
  obtain ⟨hpath, hwalk⟩ := locate_eq_ok_iff.mp hl
  obtain ⟨idle, hidle, hparts⟩ := parts_eq_solidParts_append path
  rw [hparts] at hwalk
  rcases (solidParts path).eq_nil_or_concat with hnil | ⟨init, last, hinit⟩
  · -- nothing but slashes: the place is where the walk starts
    have hstart : d.entry? (d.start path) = some .directory := by
      rw [hnil, List.nil_append] at hwalk
      rw [← walk_idle (fun x hx => .inl (hidle x hx)) hwalk]
      exact hdir
    have hplace : d.place path = .ok ⟨d.start path, "", (parts path).getLast? == some ""⟩ :=
      place_eq_ok_iff.mpr ⟨hpath, by rw [hnil]; rfl, hstart, by rw [hnil]; rfl, rfl⟩
    exact createDirectory_of_place hplace fun hnamed =>
      absurd hnamed (show ¬isName "" = true by decide)
  · rw [hinit, List.concat_eq_append, List.append_assoc] at hwalk
    obtain ⟨m, hm, hwalk⟩ := walk_append_eq_ok_iff.mp hwalk
    obtain ⟨hmdir, hname, hwalk⟩ := walk_cons_eq_ok_iff.mp hwalk
    have hlast : l = turn m last := walk_idle (fun x hx => .inl (hidle x hx)) hwalk
    have hplace : d.place path = .ok ⟨m, last, (parts path).getLast? == some ""⟩ :=
      place_eq_ok_iff.mpr ⟨hpath, by simpa [hinit] using hm, hmdir, by simp [hinit], rfl⟩
    refine createDirectory_of_place hplace fun hnamed => ⟨hname hnamed, ?_⟩
    have hplaced : Place.location ⟨m, last, (parts path).getLast? == some ""⟩ = l := by
      rw [hlast, turn_of_isName hnamed]
      rfl
    rw [hplaced, hdir]
    rfl

/-- Making a directory that is there changes nothing. -/
lemma createDirectories_of_isDirectory (h : d.isDirectory path = true) :
    d.createDirectories path = (.ok (), d) := by
  have hne : path ≠ "" := by
    rintro rfl
    obtain ⟨l, hl, -⟩ := at?_eq_some_iff.mp (isDirectory_iff.mp h)
    obtain ⟨hpath, -⟩ := locate_eq_ok_iff.mp hl
    exact absurd hpath (by decide)
  unfold createDirectories Path.ancestors
  rw [if_neg hne]
  unfold ensureAll
  rw [createDirectory_of_isDirectory h]
  exact if_pos h

/-! ### Files beside another -/

/-- The file of the same path but for its extension stands elsewhere. -/
lemma ne_of_withExtension {ext : String} (hslash : '/' ∉ ext.toList) (hpoint : '.' ∈ ext.toList)
    (hl : d.Leads (Path.withExtension path ext) l) (hm : d.locate path = .ok m) : m ≠ l := by
  obtain ⟨q, name, k, hparts, hnamed, -, hwalk, -, rfl⟩ := hl.spelled
  cases hfile : Path.fileName? path with
  | none =>
    have hsame : Path.withExtension path ext = path := by
      unfold Path.withExtension
      rw [hfile]
    rw [hsame] at hparts
    rw [Path.fileName?_of_parts hparts hnamed] at hfile
    cases hfile
  | some last =>
    obtain ⟨q', idle, hidle, hpath, hother, habsolute⟩ := Path.parts_withExtension hfile hslash
    obtain ⟨rfl, hname⟩ := List.append_inj' (hparts.symm.trans hother) rfl
    obtain rfl := List.singleton_inj.mp hname
    have hstart : d.start (Path.withExtension path ext) = d.start path := by
      unfold start
      rw [habsolute]
    obtain ⟨-, hm⟩ := locate_eq_ok_iff.mp hm
    rw [hpath] at hm
    obtain ⟨k', hk, hm⟩ := walk_append_eq_ok_iff.mp hm
    obtain rfl : k' = k := Except.ok.inj (hk.symm.trans (hstart ▸ hwalk))
    obtain ⟨-, -, hm⟩ := walk_cons_eq_ok_iff.mp hm
    rw [walk_idle hidle hm, turn_of_isName (Path.fileName?_eq_some_iff.mp hfile).2]
    intro he
    exact Path.renamed_ne hpoint (List.singleton_inj.mp (List.append_cancel_left he)).symm

end Courier.Disk

import Courier.Proofs.Disk.Files

/-!
The spot that a path names.  A walk goes where its parts say, and the disk only decides whether it
gets there; so the place to which an operation leads is known from the path alone, and what an
operation can change is told by the paths it was given.
-/

namespace Courier.Disk

open Courier.Path (parts isName)

variable {d e : Disk} {l m : Location} {path : String} {paths : List String}

/-- The location that a path names from the working directory, whatever there is on the disk. -/
def spot (d : Disk) (path : String) : Location := (parts path).foldl turn (d.start path)

lemma spot_congr (h : e.working = d.working) (path : String) : e.spot path = d.spot path := by
  unfold spot start
  rw [h]

lemma eq_foldl_of_walk {ps : List String} (h : d.walk l ps = .ok m) : m = ps.foldl turn l := by
  induction ps generalizing l with
  | nil => exact (Except.ok.inj h).symm
  | cons part ps ih => exact ih (walk_cons_eq_ok_iff.mp h).2.2

/-- A path that leads somewhere leads to its spot. -/
lemma eq_spot_of_locate (h : d.locate path = .ok l) : l = d.spot path :=
  eq_foldl_of_walk (locate_eq_ok_iff.mp h).2

lemma Leads.eq_spot (h : d.Leads path l) : l = d.spot path := eq_spot_of_locate h.locate

lemma foldl_turn_idle {idle : List String} (h : ∀ x ∈ idle, x = "") (l : Location) :
    idle.foldl turn l = l := by
  induction idle with
  | nil => rfl
  | cons x idle ih =>
    rw [h x List.mem_cons_self, List.foldl_cons]
    exact ih fun y hy => h y (List.mem_cons_of_mem _ hy)

/-- The place of a path whose last part is a name is its spot, also if slashes follow. -/
lemma location_of_place {p : Place} (h : d.place path = .ok p) (hnamed : isName p.last = true) :
    p.location = d.spot path := by
  obtain ⟨-, hwalk, -, hlast, -⟩ := place_eq_ok_iff.mp h
  obtain ⟨idle, hidle, hparts⟩ := parts_eq_solidParts_append path
  rcases (solidParts path).eq_nil_or_concat with hnil | ⟨init, last, hinit⟩
  · rw [hlast, hnil] at hnamed
    exact absurd hnamed (by decide)
  · rw [hinit, List.concat_eq_append] at hwalk hlast hparts
    have hdirectory := eq_foldl_of_walk hwalk
    rw [List.dropLast_concat] at hdirectory
    unfold spot Place.location
    rw [hparts, List.foldl_append, foldl_turn_idle hidle, List.foldl_append, List.foldl_cons,
      List.foldl_nil, ← hdirectory, turn_of_isName (by simpa [hlast] using hnamed), hlast]
    simp

/-- A directory is made at the spot of its path, where nothing was. -/
lemma createDirectory_eq_put (h : d.createDirectory path = .ok e) :
    d.spot path ≠ [] ∧ d.entry? (d.spot path) = none ∧ e = d.put (d.spot path) .directory := by
  simp only [createDirectory, bind_eq_ok_iff, guard_eq_ok_iff] at h
  obtain ⟨p, hp, hnamed, _, -, hfree, he⟩ := h
  rw [← location_of_place hp (by simpa using hnamed)]
  refine ⟨?_, by simpa using hfree, (Except.ok.inj he).symm⟩
  exact List.append_ne_nil_of_right_ne_nil _ (List.cons_ne_nil _ _)

/-- Directories were made at the spots of some paths, where nothing was, and all else is as it
was. -/
structure GrownAt (paths : List String) (d e : Disk) : Prop where
  working : e.working = d.working
  entry : ∀ l, e.entry? l = d.entry? l ∨
    d.entry? l = none ∧ e.entry? l = some .directory ∧ ∃ path ∈ paths, l = d.spot path

lemma GrownAt.grown (h : GrownAt paths d e) : d.Grown e := by
  refine ⟨h.working, fun l => (h.entry l).imp_right ?_⟩
  rintro ⟨hnone, hmade, -⟩
  exact ⟨hnone, hmade⟩

lemma GrownAt.refl (paths : List String) (d : Disk) : GrownAt paths d d := ⟨rfl, fun _ => .inl rfl⟩

lemma GrownAt.mono {more : List String} (h : GrownAt paths d e) (hsub : paths ⊆ more) :
    GrownAt more d e := by
  refine ⟨h.working, fun l => (h.entry l).imp_right ?_⟩
  rintro ⟨hnone, hmade, path, hpath, hl⟩
  exact ⟨hnone, hmade, path, hsub hpath, hl⟩

lemma GrownAt.trans {f : Disk} (h : GrownAt paths d e) (h' : GrownAt paths e f) :
    GrownAt paths d f := by
  refine ⟨h'.working.trans h.working, fun l => ?_⟩
  rcases h'.entry l with hsame | ⟨hnone, hmade, path, hpath, hl⟩
  · rw [hsame]
    exact h.entry l
  · rw [spot_congr h.working] at hl
    rcases h.entry l with hsame | ⟨-, hdirectory, -⟩
    · exact .inr ⟨hsame ▸ hnone, hmade, path, hpath, hl⟩
    · cases hnone.symm.trans hdirectory

lemma grownAt_createDirectory (h : d.createDirectory path = .ok e) : GrownAt [path] d e := by
  obtain ⟨hne, hnone, rfl⟩ := createDirectory_eq_put h
  refine ⟨rfl, fun l => ?_⟩
  rw [entry?_put hne]
  by_cases hl : l = d.spot path
  · exact .inr ⟨hl ▸ hnone, if_pos hl, path, List.mem_cons_self, hl⟩
  · exact .inl (if_neg hl)

lemma grownAt_ensureDirectory (d : Disk) (path : String) :
    GrownAt [path] d (d.ensureDirectory path).2 := by
  unfold ensureDirectory
  split
  next e h => exact grownAt_createDirectory h
  next => split <;> exact .refl _ d

lemma grownAt_ensureAll (paths : List String) (d : Disk) : GrownAt paths d (ensureAll paths d).2 := by
  induction paths with
  | nil => exact .refl _ d
  | cons path above ih =>
    have hfirst : [path] ⊆ path :: above := by simp
    unfold ensureAll
    split
    next e h => exact (grownAt_createDirectory h).mono hfirst
    next =>
      have habove := ih.mono (List.subset_cons_self path above)
      split
      next e h => rwa [h] at habove
      next e h =>
        rw [h] at habove
        exact habove.trans ((grownAt_ensureDirectory e path).mono hfirst)
    next => split <;> exact .refl _ d

lemma grownAt_createDirectories (d : Disk) (path : String) :
    GrownAt (Path.ancestors (path.length + 1) path) d (d.createDirectories path).2 :=
  grownAt_ensureAll _ d

end Courier.Disk

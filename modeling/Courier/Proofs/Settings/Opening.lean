import Courier.Proofs.Settings.Saving
import Courier.Settings.Keeper

/-!
Opening a settings file.  A keeper comes of it if the file holds valid settings, or if there is no
file and one with the default settings can be made; a file that is there is never touched.
-/

namespace Courier

/-- Nothing is at a path if reading it says so. -/
lemma Disk.at?_of_notFound {d : Disk} {path : String} (h : d.readText path = .error .notFound) :
    d.at? path = none := by
  cases hx : d.at? path with
  | none => rfl
  | some x =>
    cases x with
    | file text =>
      rw [Settings.readText_of_file hx] at h
      split at h <;> cases h
    | directory =>
      obtain ⟨l, hl, hentry⟩ := at?_eq_some_iff.mp hx
      simp [readText, read, hl, hentry, bind, Except.bind, throw, throwThe,
        MonadExceptOf.throw] at h

namespace Settings

variable {d : Disk} {path : String} {s : Settings}

/-- The file at a path holds settings, and they are valid. -/
def Held (d : Disk) (path : String) (s : Settings) : Prop :=
  ∃ text, d.readText path = .ok text ∧ ofText text = .ok s ∧ s.validate = .ok ()

/-- The settings that a keeper of the file at a path begins with: those that the file holds, or the
default ones if there is no file and it can be made. -/
def Opens (d : Disk) (path : String) (s : Settings) : Prop :=
  Held d path s ∨ d.readText path = .error .notFound ∧ (save {} d path).1 = .ok () ∧ s = {}

lemma read_eq_some_iff : read d path = .ok (some s) ↔ Held d path s := by
  unfold read Held
  cases d.readText path with
  | error c => cases c <;> exact iff_of_false nofun nofun
  | ok text =>
    dsimp only
    cases ht : ofText text with
    | error e =>
      refine iff_of_false nofun ?_
      rintro ⟨text', htext, hof, -⟩
      cases htext
      cases ht.symm.trans hof
    | ok t =>
      dsimp only
      cases hv : t.validate with
      | error f =>
        refine iff_of_false nofun ?_
        rintro ⟨text', htext, hof, hvalid⟩
        cases htext
        cases ht.symm.trans hof
        cases hv.symm.trans hvalid
      | ok =>
        constructor
        · intro h
          cases h
          exact ⟨text, rfl, ht, hv⟩
        · rintro ⟨text', htext, hof, -⟩
          cases htext
          cases ht.symm.trans hof
          rfl

lemma read_eq_none_iff : read d path = .ok none ↔ d.readText path = .error .notFound := by
  unfold read
  cases d.readText path with
  | error c => cases c <;> simp
  | ok text =>
    refine iff_of_false ?_ nofun
    dsimp only
    split
    next => nofun
    next => split <;> nofun

namespace Archive

variable {a : Archive}

/-- What is read of a keeper that was just opened. -/
lemma openFile_eq_ok_iff : (a.openFile path).result.map (a.openFile path).archive.get = .ok s ↔
    Opens a.disk path s := by
  unfold Opens openFile
  rw [← read_eq_some_iff, ← read_eq_none_iff]
  cases read a.disk path with
  | error f => exact iff_of_false nofun (by simp)
  | ok found =>
    cases found with
    | some t => simp [Except.map, keep, get]
    | none =>
      rcases save {} a.disk path with ⟨_ | _, e⟩
      · exact iff_of_false nofun (by simp)
      · simp [Except.map, keep, get, eq_comm]

lemma disk_openFile_of_missing (h : a.disk.readText path = .error .notFound) :
    (a.openFile path).archive.disk = (save {} a.disk path).2 := by
  unfold openFile
  rw [read_eq_none_iff.mpr h]
  dsimp only
  rcases save {} a.disk path with ⟨_ | _, e⟩ <;> rfl

/-- A file that is there is not touched, whether it holds settings or not. -/
lemma disk_openFile (h : a.disk.readText path ≠ .error .notFound) :
    (a.openFile path).archive.disk = a.disk := by
  unfold openFile
  split
  next => rfl
  next => rfl
  next hread => exact absurd (read_eq_none_iff.mp hread) h

end Archive

end Settings

end Courier

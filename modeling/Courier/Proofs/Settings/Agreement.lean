import Courier.Proofs.Settings.Desk

/-!
Memory and disk agree.  A keeper that was opened, and its clones, have the settings that are in
their file, as long as nobody else touches the disk: an update writes the file before it replaces
the copy, a reload takes the copy from the file, and what fails leaves both as they were.
-/

namespace Courier.Settings

variable {a : Archive} {k : Keeper} {s : Settings} {path : String} {cell : Nat}

/-- The file at a path and a copy in memory hold the same settings, which are valid. -/
structure Agree (a : Archive) (path : String) (cell : Nat) (s : Settings) : Prop where
  valid : s.validate = .ok ()
  memory : a.memory[cell]? = some s
  disk : read a.disk path = .ok (some s)

lemma Agree.get (h : Agree a path cell s) (hc : k.cell = cell) : a.get k = s := by
  unfold Archive.get
  rw [hc, h.memory]
  rfl

lemma Agree.lt (h : Agree a path cell s) : cell < a.memory.length :=
  (List.getElem?_eq_some_iff.mp h.memory).1

/-- Settings whose text is at the path are in agreement with their copy. -/
lemma agree_of_saving {d disk : Disk} (hvalid : s.validate = .ok ())
    (hsaving : Saving d path (Text.Utf8.ofString s.pretty) (.ok ()) disk)
    {memory : List Settings} (hmemory : memory[cell]? = some s) :
    Agree ⟨disk, memory⟩ path cell s :=
  ⟨hvalid, hmemory, read_of_pretty hsaving.at?_of_ok hvalid⟩

/-- A keeper that was opened agrees with its file. -/
lemma Archive.Opening.agree {b : Archive} (h : a.Opening path (.ok k) b) :
    k.path = path ∧ ∃ s, Agree b path k.cell s := by
  cases h with
  | found hread => exact ⟨rfl, _, (read_eq_some hread).2, by simp, hread⟩
  | made hread saving => exact ⟨rfl, _, agree_of_saving rfl saving (by simp)⟩

/-- Where the file is as it was, and the memory too, there is still agreement. -/
lemma Agree.of_intact (h : Agree a path cell s) {b : Archive} (hmemory : b.memory = a.memory)
    (hintact : Intact a.disk path b.disk) : Agree b path cell s := by
  obtain ⟨⟨text, htext⟩, -⟩ := read_eq_some h.disk
  have hkept : b.disk.at? path = some (.file text) := by
    rw [hintact.own (.inr (by rw [htext]; rfl)), htext]
  exact ⟨h.valid, hmemory ▸ h.memory, (read_congr htext hkept).trans h.disk⟩

lemma Archive.Updating.agree (h : Agree a k.path k.cell s) {t : Settings} {r : Except Fault Unit}
    {b : Archive} (hu : a.Updating k t r b) : ∃ s, Agree b k.path k.cell s := by
  cases r with
  | error f =>
    obtain ⟨hmemory, hintact⟩ := hu.of_error
    exact ⟨s, h.of_intact hmemory hintact⟩
  | ok =>
    cases hu with
    | saved hvalid saving =>
      exact ⟨t, agree_of_saving hvalid saving (List.getElem?_set_self h.lt)⟩

lemma Archive.Reloading.agree (h : Agree a k.path k.cell s) {r : Except Fault Unit} {b : Archive}
    (hr : a.Reloading k r b) : ∃ s, Agree b k.path k.cell s := by
  cases hr with
  | refused => exact ⟨s, h⟩
  | loaded hread =>
    exact ⟨_, (read_eq_some hread).2, List.getElem?_set_self h.lt, hread⟩

/-! ### One keeper and its clones -/

namespace Desk

/-- All keepers are clones of one, and agree with its file. -/
structure Family (desk : Desk) (k : Keeper) : Prop where
  founder : k ∈ desk.keepers
  kin : ∀ c ∈ desk.keepers, c = k
  agree : ∃ s, Agree desk.archive k.path k.cell s

variable {desk : Desk}

/-- Acts of the family keep it in agreement. -/
lemma Step.family {act : Act} (hown : act.Own) {r : Except Fault Unit} {after : Desk}
    (h : Step desk act r after) (hf : desk.Family k) : after.Family k := by
  obtain ⟨hfounder, hkin, s, hagree⟩ := hf
  cases h with
  | idle => exact ⟨hfounder, hkin, s, hagree⟩
  | refused _ foreign => exact absurd hown foreign
  | opened foreign => exact absurd hown foreign
  | disturbed foreign => exact absurd hown foreign
  | @cloned c mem =>
    refine ⟨List.mem_append_left _ hfounder, List.forall_mem_append.mpr ⟨hkin, ?_⟩, s, hagree⟩
    exact List.forall_mem_singleton.mpr (hkin c mem)
  | @updated c _ _ _ mem _ updating =>
    obtain rfl := hkin c mem
    exact ⟨hfounder, hkin, updating.agree hagree⟩
  | @reloaded c _ _ mem _ reloading =>
    obtain rfl := hkin c mem
    exact ⟨hfounder, hkin, reloading.agree hagree⟩

/-- An act of the family works on its file. -/
lemma Family.target? (h : desk.Family k) {act : Act} (hown : act.Own) {path : String}
    (ht : desk.target? act = some path) : path = k.path := by
  have hpath : ∀ {i : Nat}, desk.keepers[i]?.map Keeper.path = some path → path = k.path := by
    intro i hi
    obtain ⟨c, hc, rfl⟩ := Option.map_eq_some_iff.mp hi
    rw [h.kin c (List.mem_of_getElem? hc)]
  cases act with
  | openFile => exact absurd hown not_false
  | disturb => exact absurd hown not_false
  | clone => cases ht
  | update | updateWith | reload => exact hpath ht

end Desk

open Desk (performAll)

/-- **Memory and disk agree.**  For every disk on which a keeper of `path` can be opened, and after
all acts of this keeper and its clones while nobody else touches the disk: all of them have the
same settings, these are valid, and opening `path` anew succeeds, gives the same settings, and
leaves the disk as it is.  Any further act of theirs that fails changes neither the memory, nor who
keeps it, nor what is at `path`. -/
theorem agreement {a : Archive} {path : String} {k : Keeper}
    (h : (a.openFile path).result = .ok k) (acts : List Act) (hown : ∀ act ∈ acts, act.Own) :
    let desk := performAll ⟨(a.openFile path).archive, [k]⟩ acts
    (∃ s, s.validate = .ok () ∧ k ∈ desk.keepers ∧
      (∀ c ∈ desk.keepers, c.path = path ∧ desk.archive.get c = s) ∧
      ∃ fresh, (desk.archive.openFile path).result = .ok fresh ∧
        (desk.archive.openFile path).archive.get fresh = s ∧
        (desk.archive.openFile path).archive.disk = desk.archive.disk) ∧
    ∀ act f after, act.Own → desk.perform act = (.error f, after) →
      after.archive.memory = desk.archive.memory ∧ after.keepers = desk.keepers ∧
        after.archive.disk.at? path = desk.archive.disk.at? path := by
  intro desk
  have hopening := a.opening path
  rw [h] at hopening
  obtain ⟨rfl, hagree⟩ := hopening.agree
  have hfamily : desk.Family k := by
    refine Desk.performAll_induction (·.Family k)
      ⟨List.mem_singleton_self k, by simp, hagree⟩ ?_
    exact fun d act hact hd => (d.step_perform act).family (hown act hact) hd
  obtain ⟨hfounder, hkin, s, hs⟩ := hfamily
  refine ⟨⟨s, hs.valid, hfounder, fun c hc => ?_, ?_⟩, fun act f after hact he => ?_⟩
  · rw [hkin c hc]
    exact ⟨rfl, hs.get rfl⟩
  · obtain ⟨hresult, harchive⟩ := Archive.openFile_of_read hs.disk
    exact ⟨_, hresult, Archive.get_openFile hs.disk, by rw [harchive]⟩
  · have hstep := desk.step_perform act
    rw [he] at hstep
    obtain ⟨hmemory, hkeepers, path, ht, hintact⟩ := hstep.of_error
    obtain rfl := Desk.Family.target? ⟨hfounder, hkin, s, hs⟩ hact ht
    obtain ⟨⟨text, htext⟩, -⟩ := read_eq_some hs.disk
    exact ⟨hmemory, hkeepers, hintact.own (.inr (by rw [htext]; rfl))⟩

/-- For instance a keeper makes a file on an empty disk, its clone changes the settings, and it
fails to take its time away. -/
theorem agreement_of_clone :
    (Archive.openFile ⟨Disk.empty, []⟩ "c.json").result = .ok ⟨"c.json", 0⟩ ∧
    let desk := performAll ⟨(Archive.openFile ⟨Disk.empty, []⟩ "c.json").archive, [⟨"c.json", 0⟩]⟩
      [.clone 0, .updateWith 1 fun s => { s with baseUrl := some "http://h", timeoutMs := 5000 },
        .update 0 { timeoutMs := 0 }]
    desk.keepers = [⟨"c.json", 0⟩, ⟨"c.json", 0⟩] ∧
      ∃ fresh, (desk.archive.openFile "c.json").result = .ok fresh ∧
        (desk.archive.openFile "c.json").archive.get fresh =
          { baseUrl := some "http://h", timeoutMs := 5000 } := by
  have hopen : (Archive.openFile ⟨Disk.empty, []⟩ "c.json").result = .ok ⟨"c.json", 0⟩ := rfl
  refine ⟨hopen, ?_⟩
  intro desk
  obtain ⟨⟨s, -, hk, hs, fresh, hfresh, hget, -⟩, -⟩ := agreement hopen
    [.clone 0, .updateWith 1 fun s => { s with baseUrl := some "http://h", timeoutMs := 5000 },
      .update 0 { timeoutMs := 0 }] (by simp [Act.Own])
  refine ⟨rfl, fresh, hfresh, hget.trans ?_⟩
  rw [← (hs _ hk).2]
  rfl

end Courier.Settings

import Courier.Cli.Plan
import Courier.Proofs.Settings.Opening

/-!
What the arguments of a command line come to.  A plan comes of them if each of its parts can be had:
the settings of the file that is named, the same with the options before them, the method, the pairs
of the query, the headers and the data.  It is made of these parts and of nothing else, and the
options leave no trace in the file.
-/

namespace Courier

open Http (Method)
open Settings (Opens)
open Text.Utf8 (ofString)

/-! ### Methods -/

namespace Http.Method

/-- A method is known by its name, in letters of either case. -/
lemma parse_eq_ok_iff {s : String} {m : Method} : parse s = .ok m ↔ m.name = upper s := by
  unfold parse
  cases hfind : all.find? (·.name == upper s) with
  | none =>
    refine iff_of_false nofun fun h => ?_
    have hmem : m ∈ all := by cases m <;> decide
    exact absurd (by simpa using h) (List.find?_eq_none.mp hfind m hmem)
  | some m' =>
    have hname : m'.name = upper s := by simpa using List.find?_some hfind
    have hinj : m'.name = m.name → m' = m := by cases m' <;> cases m <;> decide
    constructor
    · intro h
      cases h
      exact hname
    · intro h
      rw [hinj (hname.trans h.symm)]

end Http.Method

namespace Cli

variable {a : Arguments} {o : Options} {d : Disk} {s : Settings} {e t : Endpoint} {p : Plan}
variable {text path : String}

/-! ### Settings -/

/-- The settings behind the options: those that the file which is named gives, or the default ones if
none is named. -/
def Options.Founded (o : Options) (d : Disk) (s : Settings) : Prop :=
  o.config = none ∧ s = {} ∨ ∃ path, o.config = some path ∧ Opens d path s

namespace Options

lemma load_of_config (h : o.config = some path) : (o.load d).result =
      let done := Settings.Archive.openFile { disk := d } path
      (done.result.map done.archive.get).mapError (Trouble.unloaded path) := by
  unfold load
  rw [h]

lemma disk_load_of_config (h : o.config = some path) :
    (o.load d).disk = (Settings.Archive.openFile { disk := d } path).archive.disk := by
  unfold load
  rw [h]

lemma load_eq_ok_iff : (o.load d).result = .ok s ↔ o.Founded d s := by
  unfold Founded
  cases hc : o.config with
  | none =>
    unfold load
    rw [hc]
    simp [eq_comm]
  | some path =>
    rw [load_of_config hc]
    dsimp only
    rw [mapError_eq_ok_iff, Settings.Archive.openFile_eq_ok_iff]
    simp

end Options

lemma checked_eq_ok_iff {c : Settings} : checked s = .ok c ↔ s.validate = .ok () ∧ c = s := by
  unfold checked
  rw [mapError_eq_ok_iff]
  cases s.validate with
  | error f => exact iff_of_false nofun (fun h => nomatch h.1)
  | ok => simp [Except.map, eq_comm]

/-! ### Endpoints -/

/-- A text is two parts with a mark between them, and it is the first mark of the text. -/
def Divides (mark : Char) (text : String) (p : String × String) : Prop :=
  text.toList = p.1.toList ++ mark :: p.2.toList ∧ mark ∉ p.1.toList

/-- A text writes a header: its name and its value with a colon between them, and white space around
both. -/
def Heads (text : String) (h : String × String) : Prop :=
  ∃ p, Divides ':' text p ∧ h = (Text.trim p.1, Text.trim p.2)

lemma divides_iff {mark : Char} {q : String × String} :
    Divides mark text q ↔ Text.splitOnce mark text.toList = some (q.1.toList, q.2.toList) :=
  Text.splitOnce_eq_some_iff.symm

lemma exists_divides_iff {mark : Char} : (∃ q, Divides mark text q) ↔ mark ∈ text.toList := by
  constructor
  · rintro ⟨q, htext, -⟩
    rw [htext]
    exact List.mem_append_right _ List.mem_cons_self
  · intro hmem
    cases hsplit : Text.splitOnce mark text.toList with
    | none => exact absurd hmem (Text.splitOnce_eq_none_iff.mp hsplit)
    | some cs => exact ⟨(.ofList cs.1, .ofList cs.2), divides_iff.mpr (by simpa using hsplit)⟩

lemma exists_heads_iff : (∃ h, Heads text h) ↔ ':' ∈ text.toList := by
  rw [← exists_divides_iff]
  exact ⟨fun ⟨_, q, hq, _⟩ => ⟨q, hq⟩, fun ⟨q, hq⟩ => ⟨_, q, hq, rfl⟩⟩

/-- A text writes one header at most. -/
lemma Heads.unique {h h' : String × String} (heads : Heads text h) (heads' : Heads text h') :
    h = h' := by
  obtain ⟨p, hp, rfl⟩ := heads
  obtain ⟨p', hp', rfl⟩ := heads'
  have hparts := Option.some.inj ((divides_iff.mp hp).symm.trans (divides_iff.mp hp'))
  obtain ⟨hname, hvalue⟩ := Prod.mk.inj hparts
  rw [String.toList_injective hname, String.toList_injective hvalue]

lemma addQuery_eq_ok_iff : addQuery e text = .ok t ↔
    ∃ q, Divides '=' text q ∧ t = e.withQuery q.1 q.2 := by
  simp only [divides_iff]
  unfold addQuery
  cases Text.splitOnce '=' text.toList with
  | none => exact iff_of_false nofun (by simp)
  | some cs =>
    constructor
    · intro h
      cases h
      exact ⟨(.ofList cs.1, .ofList cs.2), by simp, rfl⟩
    · rintro ⟨q, hq, rfl⟩
      cases hq
      simp

lemma addHeader_eq_ok_iff : addHeader e text = .ok t ↔
    ∃ h, Heads text h ∧ t = e.withHeader h.1 h.2 := by
  simp only [Heads, divides_iff]
  unfold addHeader
  cases Text.splitOnce ':' text.toList with
  | none => exact iff_of_false nofun (by simp)
  | some cs =>
    constructor
    · intro h
      cases h
      exact ⟨_, ⟨(.ofList cs.1, .ofList cs.2), by simp, rfl⟩, rfl⟩
    · rintro ⟨h, ⟨q, hq, rfl⟩, rfl⟩
      cases hq
      simp

lemma addQueries_eq_ok_iff {texts : List String} : texts.foldlM addQuery e = .ok t ↔
    ∃ qs, List.Forall₂ (Divides '=') texts qs ∧ t = { e with query := e.query ++ qs } := by
  have hfold : ∀ (qs : List (String × String)) (e : Endpoint),
      qs.foldl (fun e q => e.withQuery q.1 q.2) e = { e with query := e.query ++ qs } := by
    intro qs
    induction qs with
    | nil => simp
    | cons q qs ih =>
      intro e
      rw [List.foldl_cons, ih]
      simp [Endpoint.withQuery]
  rw [foldlM_eq_ok_iff (f := addQuery) fun _ _ _ => addQuery_eq_ok_iff]
  simp only [hfold]

lemma addHeaders_eq_ok_iff {texts : List String} : texts.foldlM addHeader e = .ok t ↔
    ∃ hs, List.Forall₂ Heads texts hs ∧ t = { e with headers := e.headers ++ hs } := by
  have hfold : ∀ (hs : Http.Headers) (e : Endpoint),
      hs.foldl (fun e h => e.withHeader h.1 h.2) e = { e with headers := e.headers ++ hs } := by
    intro hs
    induction hs with
    | nil => simp
    | cons h hs ih =>
      intro e
      rw [List.foldl_cons, ih]
      simp [Endpoint.withHeader]
  rw [foldlM_eq_ok_iff (f := addHeader) fun _ _ _ => addHeader_eq_ok_iff]
  simp only [hfold]

/-- The header that says that the body is JSON, if there is a body. -/
def jsonHeader (data : Option String) : Http.Headers :=
  data.toList.map fun _ => (Http.contentTypeName, Http.jsonType)

lemma addData_eq_ok_iff {data : Option String} (he : e.body = none) : addData e data = .ok t ↔
    (∀ text ∈ data, ∃ v, Json.parseString text = .ok v) ∧
      t = { e with headers := e.headers ++ jsonHeader data, body := data.map ofString } := by
  cases data with
  | none =>
    have hsame : { e with headers := e.headers ++ jsonHeader none, body := none } = e := by
      rw [← he]
      simp [jsonHeader]
    rw [Option.map_none, hsame]
    simp [addData, eq_comm]
  | some text =>
    unfold addData
    dsimp only
    cases hread : Json.parseString text with
    | error c => exact iff_of_false nofun (by simp [hread])
    | ok v =>
      constructor
      · intro h
        cases h
        exact ⟨fun t ht => Option.some.inj ht ▸ ⟨v, hread⟩, rfl⟩
      · rintro ⟨-, rfl⟩
        rfl

/-- The endpoint as the target alone makes it. -/
lemma aim_eq (m : Method) (base : Option String) (target : String) :
    aim m base target = { method := m, url := (aim m base target).url } := by
  unfold aim
  split
  next => split <;> rfl
  next => rfl

/-- The endpoint of a request follows its arguments. -/
structure Arguments.Shapes (a : Arguments) (e : Endpoint) : Prop where
  /-- the method has the name that is given, but for the case of its letters -/
  method : e.method.name = Method.upper a.method
  /-- the query has the pairs that are given, in order -/
  query : List.Forall₂ (Divides '=') a.options.queries e.query
  /-- the headers are those that are given, in order, and one that tells of a body -/
  headers : ∃ hs, List.Forall₂ Heads a.options.headers hs ∧
    e.headers = hs ++ jsonHeader a.options.data
  /-- the body is what is given, byte for byte -/
  body : e.body = a.options.data.map ofString

lemma endpoint_eq_ok_iff : a.endpoint s = .ok e ↔
    (∀ text ∈ a.options.data, ∃ v, Json.parseString text = .ok v) ∧ a.Shapes e ∧
      e.url = (aim e.method s.baseUrl a.target).url := by
  unfold Arguments.endpoint
  simp only [bind_eq_ok_iff, mapError_eq_ok_iff, Method.parse_eq_ok_iff, addQueries_eq_ok_iff,
    addHeaders_eq_ok_iff]
  constructor
  · rintro ⟨m, hm, -, ⟨qs, hqs, rfl⟩, -, ⟨hs, hhs, rfl⟩, hdata⟩
    rw [aim_eq] at hdata
    obtain ⟨hread, rfl⟩ := (addData_eq_ok_iff rfl).mp hdata
    exact ⟨hread, ⟨hm, hqs, ⟨hs, hhs, rfl⟩, rfl⟩, rfl⟩
  · rintro ⟨hread, ⟨hm, hqs, ⟨hs, hhs, hheaders⟩, hbody⟩, hurl⟩
    refine ⟨e.method, hm, _, ⟨e.query, hqs, rfl⟩, _, ⟨hs, hhs, rfl⟩, ?_⟩
    rw [aim_eq]
    refine (addData_eq_ok_iff rfl).mpr ⟨hread, ?_⟩
    obtain ⟨method, url, query, headers, body⟩ := e
    dsimp only at hurl hheaders hbody
    subst hurl hheaders hbody
    rfl

/-- There is an endpoint if each of its parts can be had. -/
lemma exists_endpoint_iff : (∃ e, a.endpoint s = .ok e) ↔
    (∃ m : Method, m.name = Method.upper a.method) ∧
    (∀ text ∈ a.options.queries, '=' ∈ text.toList) ∧
    (∀ text ∈ a.options.headers, ':' ∈ text.toList) ∧
    ∀ text ∈ a.options.data, ∃ v, Json.parseString text = .ok v := by
  simp only [← exists_heads_iff]
  simp only [endpoint_eq_ok_iff, ← exists_divides_iff, ← exists_forall₂_iff]
  constructor
  · rintro ⟨e, hread, ⟨hm, hqs, ⟨hs, hhs, -⟩, -⟩, -⟩
    exact ⟨⟨_, hm⟩, ⟨_, hqs⟩, ⟨_, hhs⟩, hread⟩
  · rintro ⟨⟨m, hm⟩, ⟨qs, hqs⟩, ⟨hs, hhs⟩, hread⟩
    exact ⟨⟨m, (aim m s.baseUrl a.target).url, qs, hs ++ jsonHeader a.options.data,
      a.options.data.map ofString⟩, hread, ⟨hm, hqs, ⟨hs, hhs, rfl⟩, rfl⟩, rfl⟩

/-! ### Plans -/

lemma plan_eq_ok_iff : (a.plan d).result = .ok p ↔ ∃ s, a.options.Founded d s ∧
    (a.options.override s).validate = .ok () ∧ p.settings = a.options.override s ∧
    a.endpoint p.settings = .ok p.endpoint := by
  have hresult : (a.plan d).result = (a.options.load d).result >>= fun s =>
      checked (a.options.override s) >>= fun c => (a.endpoint c).map fun e => ⟨c, e⟩ := by
    unfold Arguments.plan Options.settings Loaded.andThen
    cases (a.options.load d).result <;> rfl
  rw [hresult]
  simp only [bind_eq_ok_iff, Options.load_eq_ok_iff, checked_eq_ok_iff]
  refine exists_congr fun s => and_congr_right fun _ => ?_
  constructor
  · rintro ⟨_, ⟨hvalid, rfl⟩, hp⟩
    cases he : a.endpoint (a.options.override s) with
    | error t =>
      rw [he] at hp
      cases hp
    | ok e =>
      rw [he] at hp
      cases hp
      exact ⟨hvalid, rfl, he⟩
  · rintro ⟨hvalid, hs, he⟩
    refine ⟨_, ⟨hvalid, hs⟩, ?_⟩
    rw [he]
    rfl

lemma disk_plan : (a.plan d).disk = (a.options.load d).disk := rfl

/-- What a named file leads to is left alone, and so is all else on the disk. -/
lemma disk_plan_of_there (hc : a.options.config = some path) (h : (d.at? path).isSome = true) :
    (a.plan d).disk = d := by
  rw [disk_plan, Options.disk_load_of_config hc, Settings.Archive.disk_openFile]
  intro hmissing
  rw [Disk.at?_of_notFound hmissing] at h
  cases h

/-- The settings of a file that holds an object have the members of the object, and the default ones
for keys that it lacks. -/
lemma members_of_founded {bs : Text.Bytes} {ms : Json.Members} (hs : a.options.Founded d s)
    (hc : a.options.config = some path) (htext : d.at? path = some (.file bs))
    (hparse : Json.parse bs = .ok (.obj ms)) :
    s.members = ({} : Settings).members.map fun m => (m.1, (ms.get? m.1).getD m.2) := by
  obtain ⟨hnone, -⟩ | ⟨path', hc', hopens⟩ := hs
  · cases hc.symm.trans hnone
  cases hc.symm.trans hc'
  obtain ⟨bs', hbs', hof, -⟩ | ⟨hmissing, -, -⟩ := hopens
  · rw [Settings.readText_of_file htext] at hbs'
    split at hbs' <;> cases hbs'
    exact Settings.members_of_ofText hparse hof
  · rw [Disk.at?_of_notFound hmissing] at htext
    cases htext

/-- A file that was made holds the default settings. -/
lemma at?_plan_of_missing (hc : a.options.config = some path)
    (hmissing : d.readText path = .error .notFound) (hp : (a.plan d).result = .ok p) :
    (a.plan d).disk.at? path = some (.file (ofString (Settings.pretty {}))) := by
  obtain ⟨s, hfounded, -⟩ := plan_eq_ok_iff.mp hp
  obtain ⟨hnone, -⟩ | ⟨path', hc', hopens⟩ := hfounded
  · cases hc.symm.trans hnone
  · cases hc.symm.trans hc'
    obtain ⟨text, htext, -⟩ | ⟨-, hsaved, -⟩ := hopens
    · cases hmissing.symm.trans htext
    · rw [disk_plan, Options.disk_load_of_config hc,
        Settings.Archive.disk_openFile_of_missing (a := { disk := d }) hmissing]
      have hsaving := Settings.saving_save {} d path
      rw [hsaved] at hsaving
      exact hsaving.at?_of_ok

/-- **The arguments of a command line** come to a plan if and only if there are settings behind the
options and those with the options before them are valid, the method is one of the seven, each pair
of the query has an equals sign, each header has a colon, and the data is JSON.  The settings of the
plan are then the options where they are given and those behind them elsewhere, which have the members
of an object in the file and the default ones where it lacks them, and the endpoint follows the
arguments.  No options get into a file: the disk depends on the file that is named
alone, nothing changes if none is named or if there is something at its path, and a file that had to
be made holds the default settings. -/
theorem planning (a : Arguments) (d : Disk) :
    ((∃ p, (a.plan d).result = .ok p) ↔
      (∃ s, a.options.Founded d s ∧ (a.options.override s).validate = .ok ()) ∧
      (∃ m : Method, m.name = Method.upper a.method) ∧
      (∀ text ∈ a.options.queries, '=' ∈ text.toList) ∧
      (∀ text ∈ a.options.headers, ':' ∈ text.toList) ∧
      ∀ text ∈ a.options.data, ∃ v, Json.parseString text = .ok v) ∧
    (∀ p, (a.plan d).result = .ok p → a.Shapes p.endpoint ∧ ∃ s, a.options.Founded d s ∧
      p.settings.baseUrl = a.options.baseUrl.or s.baseUrl ∧
      p.settings.timeoutMs = a.options.timeoutMs.getD s.timeoutMs ∧
      p.settings.maxConcurrent = a.options.maxConcurrent.or s.maxConcurrent ∧
      p.settings.successStatus = a.options.successStatus.getD s.successStatus ∧
      p.settings.userAgent = s.userAgent ∧
      ∀ path bs (ms : Json.Members), a.options.config = some path →
        d.at? path = some (.file bs) → Json.parse bs = .ok (.obj ms) →
        s.members = ({} : Settings).members.map fun m => (m.1, (ms.get? m.1).getD m.2)) ∧
    (∀ a' : Arguments, a'.options.config = a.options.config → (a'.plan d).disk = (a.plan d).disk) ∧
    (a.options.config = none → (a.plan d).disk = d) ∧
    ∀ path, a.options.config = some path →
      ((d.at? path).isSome = true → (a.plan d).disk = d) ∧
      ∀ p, d.readText path = .error .notFound → (a.plan d).result = .ok p →
        (a.plan d).disk.at? path = some (.file (ofString (Settings.pretty {}))) := by
  refine ⟨⟨?_, ?_⟩, ?_, ?_, ?_, ?_⟩
  · rintro ⟨p, hp⟩
    obtain ⟨s, hfounded, hvalid, -, he⟩ := plan_eq_ok_iff.mp hp
    exact ⟨⟨s, hfounded, hvalid⟩, exists_endpoint_iff.mp ⟨_, he⟩⟩
  · rintro ⟨⟨s, hfounded, hvalid⟩, hparts⟩
    obtain ⟨e, he⟩ := exists_endpoint_iff (s := a.options.override s) |>.mpr hparts
    exact ⟨⟨_, e⟩, plan_eq_ok_iff.mpr ⟨s, hfounded, hvalid, rfl, he⟩⟩
  · intro p hp
    obtain ⟨s, hfounded, -, hs, he⟩ := plan_eq_ok_iff.mp hp
    refine ⟨(endpoint_eq_ok_iff.mp he).2.1, s, hfounded, ?_⟩
    rw [hs]
    exact ⟨rfl, rfl, rfl, rfl, rfl, fun _ _ _ => members_of_founded hfounded⟩
  · intro a' hc
    rw [disk_plan, disk_plan]
    unfold Options.load
    rw [hc]
  · intro hc
    rw [disk_plan]
    unfold Options.load
    rw [hc]
  · intro path hc
    exact ⟨disk_plan_of_there hc, fun p hmissing hp => at?_plan_of_missing hc hmissing hp⟩

end Cli

end Courier

import Courier.Entity.Catalogue
import Courier.Proofs.Cli.Planning
import Courier.Proofs.Json.Forms
import Courier.Proofs.Queue.Sending
import Courier.Proofs.Url.Query

/-!
Endpoints as they are built.  An endpoint is built by calls in any order: pairs of the query and
headers are put behind those that are there, and a body takes the place of the one before.  An entity
brings a body and a header that tells of it; where it is the last to bring a body, the body that is
sent is its text, and the last header tells that it is JSON.
-/

namespace Courier

/-! ### Figures as members -/

namespace Metrics

open Json (Members)

/-- The declared members of figures. -/
def declared (m : Metrics) : Members :=
  [("count", .nat m.count.toNat), ("delta", .int m.delta.toInt), ("ratio", .num (.real m.ratio)),
    ("on", .bool m.on), ("note", .optStr m.note)]

lemma toMapping_eq (m : Metrics) :
    Entity.toMapping m = .ok (Members.ofList m.declared) := rfl

lemma canonical (m : Metrics) :
    Json.Canonical Json.maxDepth (.obj (Members.ofList m.declared)) := by
  have hcount := m.count.toNat_lt
  have hdelta := m.delta.toInt_lt
  have hdelta' := m.delta.le_toInt
  have hall : ∀ p ∈ m.declared, Json.Canonical 126 p.2 := by
    unfold declared
    simp only [List.forall_mem_cons]
    refine ⟨.num ⟨by omega, by omega⟩, .num ⟨by omega, by omega⟩, .num trivial, .bool _, ?_, nofun⟩
    cases m.note with
    | none => exact .null
    | some s => exact .str s
  exact .obj (Json.ordered_ofList _) fun p hp => hall p (Json.mem_of_mem_ofList hp)

/-- The ratio is the only binary64 number of figures. -/
lemma holds_iff {m : Metrics} {x : Number.Binary64} :
    Json.Holds (.num (.real x)) (.obj (Members.ofList m.declared)) ↔ x = m.ratio := by
  have hall : ∀ p ∈ m.declared, Json.Holds (.num (.real x)) p.2 → x = m.ratio := by
    unfold declared
    simp only [List.forall_mem_cons]
    refine ⟨nofun, nofun, fun h => ?_, nofun, ?_, nofun⟩
    · cases h
      rfl
    · cases m.note <;> exact nofun
  constructor
  · rintro (_ | _ | ⟨hm, hx⟩)
    exact hall _ (Json.mem_of_mem_ofList hm) hx
  · rintro rfl
    have hratio : ("ratio", .num (.real m.ratio)) ∈ m.declared := by simp [declared]
    have keys : (m.declared.map Prod.fst).Nodup :=
      show ["count", "delta", "ratio", "on", "note"].Nodup by decide
    exact .member (Json.subset_ofList keys hratio) .self

end Metrics

namespace Endpoint

open Http (Headers contentTypeName jsonType sameName)
open Json (Members)
open Text (Bytes)
open Text.Utf8 (ofString)

/-! ### Calls -/

/-- A call with which an endpoint is built. -/
inductive Build : Type 1
  | query (key value : String)
  | header (name value : String)
  | body (bytes : Bytes)
  | entity {α : Type} [Entity α] (a : α)

namespace Build

def apply (e : Endpoint) : Build → Except Fault Endpoint
  | query key value => .ok (e.withQuery key value)
  | header name value => .ok (e.withHeader name value)
  | body bytes => .ok (e.withBody bytes)
  | entity a => e.withEntity a

/-- The headers that a call brings. -/
def headers : Build → Headers
  | header name value => [(name, value)]
  | entity _ => [(contentTypeName, jsonType)]
  | _ => []

end Build

/-- The endpoint after calls, one after another; the first that fails ends them. -/
def build (e : Endpoint) (calls : List Build) : Except Fault Endpoint := calls.foldlM Build.apply e

variable {e e' : Endpoint} {α : Type} [Entity α] {a : α}

lemma withEntity_eq_ok_iff : e.withEntity a = .ok e' ↔
    ∃ ms, Entity.toMapping a = .ok ms ∧ e' = e.withJsonText (ofString (Json.compact (.obj ms))) := by
  unfold withEntity
  rw [bind_eq_ok_iff]
  refine exists_congr fun ms => and_congr_right fun _ => ?_
  exact ⟨fun h => (Except.ok.inj h).symm, fun h => h ▸ rfl⟩

lemma headers_apply {c : Build} (h : c.apply e = .ok e') : e'.headers = e.headers ++ c.headers := by
  cases c with
  | query key value =>
    cases h
    exact (List.append_nil _).symm
  | header name value =>
    cases h
    rfl
  | body bytes =>
    cases h
    exact (List.append_nil _).symm
  | entity a =>
    obtain ⟨ms, -, rfl⟩ := withEntity_eq_ok_iff.mp h
    rfl

/-- Headers only ever come behind those that are there. -/
lemma headers_build {calls : List Build} (h : e.build calls = .ok e') :
    e'.headers = e.headers ++ calls.flatMap Build.headers := by
  induction calls generalizing e with
  | nil =>
    cases h
    exact (List.append_nil _).symm
  | cons c calls ih =>
    obtain ⟨e₁, h₁, h₂⟩ := bind_eq_ok_iff.mp h
    rw [ih h₂, headers_apply h₁, List.flatMap_cons, List.append_assoc]

lemma build_append (calls calls' : List Build) :
    e.build (calls ++ calls') = e.build calls >>= fun e => e.build calls' := List.foldlM_append ..

/-- Pairs of the query leave headers and body alone. -/
lemma build_queries (e : Endpoint) (pairs : List (String × String)) :
    e.build (pairs.map fun p => .query p.1 p.2) = .ok { e with query := e.query ++ pairs } := by
  induction pairs generalizing e with
  | nil => simp [build, pure, Except.pure]
  | cons p pairs ih =>
    show (e.withQuery p.1 p.2).build (pairs.map fun p => .query p.1 p.2) = _
    rw [ih]
    simp [withQuery]

/-- What calls make of an endpoint where an entity brings the last body. -/
lemma build_entity {before : List Build} {pairs : List (String × String)}
    (h : e.build (before ++ .entity a :: pairs.map fun p => .query p.1 p.2) = .ok e') :
    ∃ ms, Entity.toMapping a = .ok ms ∧ e'.body = some (ofString (Json.compact (.obj ms))) ∧
      e'.headers = (e.headers ++ before.flatMap Build.headers) ++ [(contentTypeName, jsonType)] := by
  rw [build_append] at h
  obtain ⟨e₁, h₁, h⟩ := bind_eq_ok_iff.mp h
  obtain ⟨e₂, h₂, h⟩ := bind_eq_ok_iff.mp h
  obtain ⟨ms, mapping, rfl⟩ := withEntity_eq_ok_iff.mp h₂
  have built := (build_queries (e₁.withJsonText (ofString (Json.compact (.obj ms)))) pairs).symm.trans h
  cases built
  refine ⟨ms, mapping, rfl, ?_⟩
  rw [← headers_build h₁]
  rfl

lemma of_toRequest {r : Http.Request} (h : e.toRequest = .ok r) :
    r.headers = e.headers ∧ r.body = e.body := by
  obtain ⟨u, -, hr⟩ := bind_eq_ok_iff.mp h
  cases hr
  exact ⟨rfl, rfl⟩

/-! ### Headers of one name -/

/-- The headers that tell the type of a body. -/
def types (hs : Headers) : Headers := hs.filter fun h => sameName h.1 contentTypeName

/-- A header comes last that tells that a body is JSON; it is the only one to tell of the body exactly
if none does before. -/
lemma types_concat_eq_iff {hs : Headers} :
    types (hs ++ [(contentTypeName, jsonType)]) = [(contentTypeName, jsonType)] ↔
      ∀ h ∈ hs, ¬ sameName h.1 contentTypeName := by
  have last : types [(contentTypeName, jsonType)] = [(contentTypeName, jsonType)] := rfl
  have split : types (hs ++ [(contentTypeName, jsonType)]) =
      types hs ++ types [(contentTypeName, jsonType)] := List.filter_append ..
  rw [split, last, List.append_left_eq_self]
  exact List.filter_eq_nil_iff

/-! ### The last body -/

/-- **The body and the header that tells of it.**  Where an entity brings the last body and only
pairs of the query come behind it, the body of the request is the compact text of the entity's
mapping.  It is read as that mapping, whose keys ascend and whose integers have 64 bits, if that is
nested no deeper than a reader goes and its binary64 numbers are read from their texts.  The last
header tells that the body is JSON; those before it are the ones that were brought before, so it is
the only one that tells of the body exactly if none of these does.  The data of a command line is
JSON, is sent as it is given, and comes with the same last header behind those that are given. -/
theorem body_and_type :
    (∀ {α : Type} [Entity α] (e e' : Endpoint) (before : List Build) (a : α)
      (pairs : List (String × String)) (r : Http.Request),
      e.build (before ++ .entity a :: pairs.map fun p => .query p.1 p.2) = .ok e' →
      e'.toRequest = .ok r →
      ∃ ms, Entity.toMapping a = .ok ms ∧ r.body = some (ofString (Json.compact (.obj ms))) ∧
        ((∃ depth, Json.Canonical depth (.obj ms)) → (Json.obj ms).depth ≤ Json.maxDepth →
          Json.Legible (.obj ms) → ∀ body ∈ r.body, Json.parse body = .ok (.obj ms)) ∧
        r.headers = (e.headers ++ before.flatMap Build.headers) ++ [(contentTypeName, jsonType)] ∧
        (types r.headers = [(contentTypeName, jsonType)] ↔
          ∀ h ∈ e.headers ++ before.flatMap Build.headers, ¬ sameName h.1 contentTypeName)) ∧
    ∀ (args : Cli.Arguments) (s : Settings) (e : Endpoint) (text : String) (r : Http.Request),
      args.options.data = some text → args.endpoint s = .ok e → e.toRequest = .ok r →
      r.body = some (ofString text) ∧ (∃ v, Json.parse (ofString text) = .ok v) ∧
      ∃ given, List.Forall₂ Cli.Heads args.options.headers given ∧
        r.headers = given ++ [(contentTypeName, jsonType)] ∧
        (types r.headers = [(contentTypeName, jsonType)] ↔
          ∀ h ∈ given, ¬ sameName h.1 contentTypeName) := by
  constructor
  · intro α _ e e' before a pairs r built sent
    obtain ⟨ms, mapping, body, headers⟩ := build_entity built
    obtain ⟨hheaders, hbody⟩ := of_toRequest sent
    rw [hheaders, hbody, body, headers]
    refine ⟨ms, mapping, rfl, ?_, rfl, types_concat_eq_iff⟩
    rintro ⟨_, canonical⟩ shallow legible text ⟨⟩
    exact Json.parse_compact_of_legible (canonical.of_depth_le shallow) legible
  · intro args s e text r data made sent
    obtain ⟨json, ⟨-, -, ⟨given, heads, headers⟩, body⟩, -⟩ := Cli.endpoint_eq_ok_iff.mp made
    obtain ⟨hheaders, hbody⟩ := of_toRequest sent
    rw [hheaders, hbody, body, headers, data]
    exact ⟨rfl, json text data, given, heads, rfl, types_concat_eq_iff⟩

/-- Where endpoints are built from here. -/
def blank : Endpoint := { method := .post, url := "http://a/" }

/-- What its URL is read as. -/
def home : Url := ⟨.http, ⟨"", "", .domain "a", none⟩, [""], none, none⟩

lemma toRequest_of_home (url : e.url = "http://a/") :
    e.toRequest = .ok ⟨e.method, (home.addPairs e.query).text, e.headers, e.body⟩ := by
  have hread : Url.read "http://a/" = .ok (.url home) := rfl
  rw [← url] at hread
  exact toRequest_of_resolved (resolve_of_read hread rfl)

def half : Number.Binary64 := ⟨false, 4503599627370496, -53⟩

lemma readAs_half : Json.ReadAs half (.real half) := by
  have htext : Json.compact (.num (.real half)) = "0.5" := by decide +kernel
  have hread : Json.numeral false (ofString "0.5") = .ok (.real half, []) := by decide +kernel
  exact Json.readAs_of_numeral (congrArg ofString htext) rfl hread

/-- Figures with the ratio 0.5 are read back from the body, behind a header of another name; the data
of a command line is sent as it is given. -/
theorem body_and_type_of_half :
    (∃ e r, blank.build ([.header "x-a" "1"] ++ .entity (⟨7, -1, half, true, none⟩ : Metrics) ::
        [("k", "v")].map fun p => .query p.1 p.2) = .ok e ∧ e.toRequest = .ok r ∧
      (∀ body ∈ r.body, Json.parse body =
        .ok (.obj (Members.ofList (Metrics.declared ⟨7, -1, half, true, none⟩)))) ∧
      types r.headers = [(contentTypeName, jsonType)]) ∧
    ∃ e r, (⟨"POST", "http://a/", { headers := ["x-a: 1"], data := some "1" }⟩ :
        Cli.Arguments).endpoint {} = .ok e ∧ e.toRequest = .ok r ∧
      r.body = some (ofString "1") ∧ types r.headers = [(contentTypeName, jsonType)] := by
  obtain ⟨called, given⟩ := body_and_type
  constructor
  · have legible : Json.Legible (.obj (Members.ofList (Metrics.declared ⟨7, -1, half, true, none⟩))) :=
      fun x hx => Metrics.holds_iff.mp hx ▸ readAs_half
    have canonical := Metrics.canonical ⟨7, -1, half, true, none⟩
    have built : blank.build ([.header "x-a" "1"] ++
        .entity (⟨7, -1, half, true, none⟩ : Metrics) :: [("k", "v")].map fun p => .query p.1 p.2) =
        .ok _ := rfl
    obtain ⟨ms, mapping, -, read, -, only⟩ := called _ _ _ _ _ _ built (toRequest_of_home rfl)
    cases (Metrics.toMapping_eq _).symm.trans mapping
    exact ⟨_, _, built, toRequest_of_home rfl, read ⟨_, canonical⟩ canonical.depth_le legible,
      only.mpr (by decide)⟩
  · have made : (⟨"POST", "http://a/", { headers := ["x-a: 1"], data := some "1" }⟩ :
        Cli.Arguments).endpoint {} = .ok _ := rfl
    obtain ⟨body, -, headers, heads, -, only⟩ := given _ _ _ _ _ rfl made (toRequest_of_home rfl)
    refine ⟨_, _, made, toRequest_of_home rfl, body, only.mpr ?_⟩
    have heads' : Cli.Heads "x-a: 1" ("x-a", "1") := ⟨("x-a", " 1"), ⟨by decide, by decide⟩, rfl⟩
    obtain _ | ⟨head, ⟨⟩⟩ := heads
    cases head.unique heads'
    decide

/-! ### Bodies that are not read back, and headers that contradict -/

/-- A number whose text has more digits than a significand holds: a reader rounds it twice, and comes
to the number below. -/
def bruised : Number.Binary64 := ⟨false, 6305039478318695, -52⟩

lemma readAs_bruised : Json.ReadAs bruised (.real ⟨false, 6305039478318694, -52⟩) := by
  have htext : Json.compact (.num (.real bruised)) = "1.4000000000000001" := by decide +kernel
  have hread : Json.numeral false (ofString "1.4000000000000001") =
      .ok (.real ⟨false, 6305039478318694, -52⟩, []) := by decide +kernel
  exact Json.readAs_of_numeral (congrArg ofString htext) rfl hread

/-- Figures that hold such a number. -/
def figures : Metrics := ⟨0, 0, bruised, true, none⟩

/-- The number is not read back from the body. -/
lemma parse_figures :
    Json.parse (ofString (Json.compact (.obj (Members.ofList figures.declared)))) ≠
      .ok (.obj (Members.ofList figures.declared)) := by
  intro hread
  have canonical := Metrics.canonical figures
  -- the body is read, but with the number below in the place of the ratio
  have hrounded := Json.parse_compact_reals (f := fun _ => .real ⟨false, 6305039478318694, -52⟩)
    canonical fun x hx => Metrics.holds_iff.mp hx ▸ readAs_bruised
  have same := Except.ok.inj (hrounded.symm.trans hread)
  have hbruised := (Json.mapReals_eq_self_iff canonical).mp same bruised (Metrics.holds_iff.mpr rfl)
  exact absurd hbruised (by decide)

/-- Objects inside each other. -/
def nested : Nat → Json
  | 0 => .obj []
  | n + 1 => .obj [("next", nested n)]

/-- A thing of so many links, each inside the one before. -/
structure Chain where
  links : Nat

instance : Entity Chain where
  label := "Chain"
  shape := .any
  toJson c := nested c.links
  ofShaped v := some ⟨v.depth - 1⟩

lemma depth_nested (n : Nat) : (nested n).depth = n + 1 := by
  induction n with
  | zero => rfl
  | succ n ih =>
    show 1 + max (nested n).depth 0 = n + 1 + 1
    rw [ih, Nat.max_zero, Nat.add_comm]

/-- A request with an entity's mapping as its body. -/
def sentWith (hs : Headers) (ms : Members) : Http.Request :=
  ⟨.post, home.text, hs ++ [(contentTypeName, jsonType)], some (ofString (Json.compact (.obj ms)))⟩

lemma build_blank (before : List Build) {hs : Headers} {ms : Members}
    (mapping : Entity.toMapping a = .ok ms)
    (h : blank.build before = .ok { blank with headers := hs }) :
    (blank.build (before ++ [.entity a]) >>= toRequest) = .ok (sentWith hs ms) := by
  have added : ({ blank with headers := hs } : Endpoint).build [.entity a] =
      .ok ({ blank with headers := hs }.withJsonText (ofString (Json.compact (.obj ms)))) := by
    show (withEntity _ a >>= pure) = _
    rw [withEntity_eq_ok_iff.mpr ⟨ms, mapping, rfl⟩]
    rfl
  rw [build_append, h]
  show (build _ _ >>= toRequest) = _
  rw [added]
  exact toRequest_of_home rfl

/-- **A header that came before stays, and a body need not be read back.**  An entity's header comes
behind one of the same name that contradicts it, for calls as for a command line; a number with more
digits than a significand holds, and objects nested deeper than a reader goes, are not read back. -/
theorem not_always_one_type_and_read_back :
    (∃ r, (blank.build [.header "content-type" "text/plain", .entity (⟨1, "a"⟩ : Item)] >>=
        toRequest) = .ok r ∧
      types r.headers = [("content-type", "text/plain"), (contentTypeName, jsonType)]) ∧
    (∃ e r, (⟨"POST", "http://a/", { headers := ["content-type: text/plain"], data := some "1" }⟩ :
        Cli.Arguments).endpoint {} = .ok e ∧ e.toRequest = .ok r ∧
      types r.headers = [("content-type", "text/plain"), (contentTypeName, jsonType)]) ∧
    (∃ r ms body, (blank.build [.entity figures] >>= toRequest) = .ok r ∧
      Entity.toMapping figures = .ok ms ∧ r.body = some body ∧ Json.parse body ≠ .ok (.obj ms)) ∧
    ∃ r ms body, (blank.build [.entity (⟨127⟩ : Chain)] >>= toRequest) = .ok r ∧
      Entity.toMapping (⟨127⟩ : Chain) = .ok ms ∧ r.body = some body ∧
        Json.parse body ≠ .ok (.obj ms) := by
  refine ⟨⟨_, build_blank [.header "content-type" "text/plain"] rfl rfl, rfl⟩,
    ⟨_, _, rfl, rfl, rfl⟩, ⟨_, _, _, build_blank [] (Metrics.toMapping_eq figures) rfl, rfl, rfl,
      parse_figures⟩,
    ⟨_, _, _, build_blank [] rfl rfl, rfl, rfl, fun h => ?_⟩⟩
  have shallow := (Json.canonical_of_parse h).depth_le
  exact absurd ((depth_nested 127).symm.trans_le shallow) (by decide)

end Endpoint

end Courier

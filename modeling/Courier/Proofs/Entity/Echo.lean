import Courier.Endpoint
import Courier.Entity.Catalogue
import Courier.Proofs.Json.Fits
import Courier.Proofs.Json.Forms
import Courier.Proofs.Review.Classes

/-!
Entities come back as they were sent.  The body that carries an entity, sent back as a successful
response, is read as that entity again; then the entity's own validation decides.
-/

namespace Courier

open Json (Members Plain Shape)
open Text.Utf8 (ofString)

/-! ### Writing and reading -/

section

variable {α : Type} [Entity α] {a : α} {declared : Members}

/-- An entity is written as an object with certain members, from which it can be read. -/
structure Entity.Written (a : α) (declared : Members) : Prop where
  toJson_eq : toJson a = Json.object declared
  nodup : (declared.map Prod.fst).Nodup
  plain : ∀ m ∈ declared, Plain 126 m.2
  fits : ∃ type fields, shape α = .record type fields ∧
    List.Forall₂ (fun f (m : String × Json) => f.name = m.1 ∧ f.fit m.2 = .ok m.2)
      (Shape.fieldFits fields) declared
  ofShaped_eq : ofShaped (.obj declared) = some a

/-- What is said of an entity that was sent and came back. -/
structure Entity.Echoed (a : α) (declared : Members) : Prop where
  /-- no declared member is missing from the mapping -/
  mapping : ∃ ms, toMapping a = .ok ms ∧ ∀ m ∈ declared, ms.get? m.1 = some m.2
  /-- every endpoint takes the entity, and the body that it then has, sent back with the status of
  success, completes with the entity or fails for what its validation says -/
  echo (e : Endpoint) : ∃ e' body, e.withEntity a = .ok e' ∧ e'.body = some body ∧
    ∀ (url : String) (r : Http.Response), r.SaysJson → r.body = body →
      let verdict :=
        (Review.ofResponse url r.status (Processor.entity α) (some r)).runThrough.verdict
      (validate a = .ok () → verdict = .completed a) ∧
        ∀ f, validate a = .error f →
          verdict = .failed (.service ⟨.resultMapping, url, some r.text, f.message⟩)

namespace Entity.Written

variable (h : Written a declared)
include h

lemma toMapping_eq : toMapping a = .ok (Members.ofList declared) := by
  unfold toMapping
  rw [h.toJson_eq]
  rfl

lemma fit_eq : (shape α).fit (Json.object declared) = .ok (.obj declared) := by
  obtain ⟨type, fields, hshape, hfits⟩ := h.fits
  rw [hshape]
  exact Shape.fitRecord_object hfits h.nodup

/-- The mapping is read as the entity, whatever its validation says. -/
lemma ofMapping_eq : ofMapping (Members.ofList declared) = .ok a := by
  show ((((shape α).fit (Json.object declared)).mapError Fault.mismatched).bind ofFitted) = _
  rw [h.fit_eq]
  show ofFitted (.obj declared) = _
  unfold ofFitted
  rw [h.ofShaped_eq]

lemma ofValidMapping_eq : ofValidMapping (Members.ofList declared) =
    (validate a).map fun _ => a := by
  show (ofMapping (Members.ofList declared)).bind _ = _
  rw [h.ofMapping_eq]
  show (validate a).bind _ = _
  cases validate a <;> rfl

/-- **An entity that can be read from what is written** is echoed. -/
theorem echoed : Echoed a declared where
  mapping := ⟨_, h.toMapping_eq, fun m hm => Json.get_of_mem
    (Json.nodup_of_ordered (Json.ordered_ofList declared)) (Json.subset_ofList h.nodup hm)⟩
  echo e := by
    refine ⟨e.withJsonText (ofString (Json.compact (Json.object declared))), _, ?_, rfl, ?_⟩
    · show (toMapping a).bind _ = _
      rw [h.toMapping_eq]
      rfl
    intro url r hmarked hbody
    have hobject : Json.parse r.body = .ok (Json.object declared) := by
      rw [hbody]
      have hplain : Plain Json.maxDepth (Json.object declared) := Json.plain_object h.plain
      exact Json.parse_compact hplain.1 hplain.2
    have htype := Http.Response.saysJson_iff.mp hmarked
    dsimp only
    rw [(Review.runThrough_eq _).1]
    refine ⟨fun hvalid => ?_, fun f hf => ?_⟩
    · have haccepted : Processor.entity α (Members.ofList declared) = .accepted a := by
        unfold Processor.entity
        rw [h.ofValidMapping_eq, hvalid]
        rfl
      exact congrArg (Review.verdictOf ·.1) (Review.outcome_of_accepted htype hobject rfl haccepted)
    · have hrefused : (Processor.entity α (Members.ofList declared)).complaint? =
          some f.message := by
        unfold Processor.entity
        rw [h.ofValidMapping_eq, hf]
        rfl
      exact congrArg (Review.verdictOf ·.1) (Review.outcome_of_complaint htype hobject rfl hrefused)

end Entity.Written

end

/-! ### The entities of a catalogue -/

lemma Item.written (i : Item) :
    Entity.Written i [("id", .nat i.id.toNat), ("name", .str i.name)] where
  toJson_eq := rfl
  nodup := show ["id", "name"].Nodup by decide
  plain := by
    simp only [List.forall_mem_cons]
    exact ⟨Json.plain_nat i.id.toNat_lt, Json.plain_str _, nofun⟩
  fits := ⟨_, _, rfl, .cons ⟨rfl, Shape.fit_unsigned64 _⟩ (.cons ⟨rfl, rfl⟩ .nil)⟩
  ofShaped_eq := by
    show some (⟨.ofNat i.id.toNat, i.name⟩ : Item) = some i
    rw [UInt64.ofNat_toNat]

lemma Tag.written (t : Tag) : Entity.Written t [("label", .str t.label)] where
  toJson_eq := rfl
  nodup := List.nodup_singleton _
  plain := List.forall_mem_singleton.mpr (Json.plain_str _)
  fits := ⟨_, _, rfl, .cons ⟨rfl, rfl⟩ .nil⟩
  ofShaped_eq := rfl

lemma Account.written (a : Account) : Entity.Written a [("email", .str a.email)] where
  toJson_eq := rfl
  nodup := List.nodup_singleton _
  plain := List.forall_mem_singleton.mpr (Json.plain_str _)
  fits := ⟨_, _, rfl, .cons ⟨rfl, rfl⟩ .nil⟩
  ofShaped_eq := rfl

lemma Tag.fits (t : Tag) :
    (Entity.shape Tag).fit (Entity.toJson t) = .ok (Entity.toJson t) := t.written.fit_eq

lemma Tag.plain {depth : Nat} (t : Tag) : Plain (depth + 1) (Entity.toJson t) :=
  Json.plain_object (List.forall_mem_singleton.mpr (Json.plain_str _))

namespace CatalogueEntry

/-- The declared members of a catalogue entry. -/
def declared (e : CatalogueEntry) : Members :=
  [("id", .nat e.id.toNat), ("name", .optStr e.name), ("tags", .arr (e.tags.map Entity.toJson)),
    ("attributes", .obj (e.attributes.map fun m => (m.1, Entity.toJson m.2))),
    ("owner", e.owner.elim .null Entity.toJson)]

variable {e : CatalogueEntry} {depth : Nat}

lemma fits_declared (e : CatalogueEntry) : List.Forall₂
    (fun f (m : String × Json) => f.name = m.1 ∧ f.fit m.2 = .ok m.2)
    (Shape.fieldFits [Shape.required "id" .unsigned64, Shape.possible "name" .text,
      Shape.required "tags" (.list (Entity.shape Tag)),
      Shape.required "attributes" (.dictionary (Entity.shape Tag)),
      Shape.possible "owner" (Entity.shape Tag)]) e.declared := by
  refine .cons ⟨rfl, Shape.fit_unsigned64 _⟩ (.cons ⟨rfl, ?_⟩ (.cons ⟨rfl, ?_⟩
    (.cons ⟨rfl, ?_⟩ (.cons ⟨rfl, ?_⟩ .nil))))
  · cases e.name <;> rfl
  · refine Shape.fit_list fun v hv => ?_
    obtain ⟨t, -, rfl⟩ := List.mem_map.mp hv
    exact t.fits
  · refine Shape.fit_dictionary fun m hm => ?_
    obtain ⟨a, -, rfl⟩ := List.mem_map.mp hm
    exact a.2.fits
  · cases e.owner with
    | none => rfl
    | some t => exact Shape.fit_optional t.fits

/-- The declared members are read as the entry. -/
lemma ofShaped_declared (e : CatalogueEntry) : Entity.ofShaped (.obj e.declared) = some e := by
  have hname : (Json.optStr e.name).optional? Json.str? = some e.name := by
    cases e.name <;> rfl
  have htags : (e.tags.map Entity.toJson).mapM (Entity.ofShaped (α := Tag)) = some e.tags :=
    Shape.mapM_map_eq_pure fun t _ => t.written.ofShaped_eq
  have hattributes : (e.attributes.map fun m => (m.1, Entity.toJson m.2)).mapM
      (fun m => (Entity.ofShaped (α := Tag) m.2).map fun t => (m.1, t)) = some e.attributes :=
    Shape.mapM_map_eq_pure fun m _ => congrArg (Option.map _) m.2.written.ofShaped_eq
  have howner : (e.owner.elim Json.null Entity.toJson).optional? (Entity.ofShaped (α := Tag)) =
      some e.owner := by
    cases e.owner <;> rfl
  show (((Json.optStr e.name).optional? Json.str?).bind fun name =>
    ((e.tags.map Entity.toJson).mapM Entity.ofShaped).bind fun tags =>
    ((e.attributes.map fun m => (m.1, Entity.toJson m.2)).mapM fun m =>
      (Entity.ofShaped m.2).map fun t => (m.1, t)).bind fun attributes =>
    ((e.owner.elim Json.null Entity.toJson).optional? Entity.ofShaped).bind fun owner =>
    some (⟨.ofNat e.id.toNat, name, tags, attributes, owner⟩ : CatalogueEntry)) = some e
  rw [hname, htags, hattributes, howner, UInt64.ofNat_toNat]
  rfl

/-- The attributes come by ascending names, so that writing them does not move them. -/
lemma written (h : e.attributes.Pairwise fun m m' => m.1 < m'.1) :
    Entity.Written e e.declared := by
  have hordered : Members.Ordered (e.attributes.map fun m => (m.1, Entity.toJson m.2)) :=
    List.pairwise_map.mpr h
  have hattributes := congrArg Json.obj (Json.ofList_of_ordered hordered)
  refine ⟨?_, show ["id", "name", "tags", "attributes", "owner"].Nodup by decide, ?_,
    ⟨_, _, rfl, e.fits_declared⟩, e.ofShaped_declared⟩
  · unfold declared
    rw [← hattributes]
    rfl
  · unfold declared
    simp only [List.forall_mem_cons]
    refine ⟨Json.plain_nat e.id.toNat_lt, ?_, ?_, ?_, ?_, nofun⟩
    · cases e.name with
      | none => exact Json.plain_null
      | some s => exact Json.plain_str s
    · refine Json.plain_arr fun v hv => ?_
      obtain ⟨t, -, rfl⟩ := List.mem_map.mp hv
      exact t.plain
    · rw [← hattributes]
      refine Json.plain_object fun m hm => ?_
      obtain ⟨a, -, rfl⟩ := List.mem_map.mp hm
      exact a.2.plain
    · cases e.owner with
      | none => exact Json.plain_null
      | some t => exact t.plain

end CatalogueEntry

namespace Entity

/-- **Entities are echoed**, with all members that they declare. -/
theorem echo :
    (∀ i : Item, Echoed i [("id", .nat i.id.toNat), ("name", .str i.name)]) ∧
      (∀ t : Tag, Echoed t [("label", .str t.label)]) ∧
      (∀ a : Account, Echoed a [("email", .str a.email)]) ∧
      ∀ e : CatalogueEntry, (e.attributes.Pairwise fun m m' => m.1 < m'.1) →
        Echoed e [("id", .nat e.id.toNat), ("name", .optStr e.name),
          ("tags", .arr (e.tags.map toJson)),
          ("attributes", .obj (e.attributes.map fun m => (m.1, toJson m.2))),
          ("owner", e.owner.elim .null toJson)] :=
  ⟨fun i => i.written.echoed, fun t => t.written.echoed, fun a => a.written.echoed,
    fun _ h => (CatalogueEntry.written h).echoed⟩

/-- An entry without a name comes back too, and then fails its validation. -/
theorem echo_of_nameless :
    let e : CatalogueEntry := ⟨7, none, [⟨"new"⟩], [("colour", ⟨"red"⟩), ("size", ⟨"\\"⟩)], none⟩
    (e.attributes.Pairwise fun m m' => m.1 < m'.1) ∧ validate e = .error (.missing "name") ∧
      Echoed e [("id", .nat 7), ("name", .null), ("tags", .arr [toJson (⟨"new"⟩ : Tag)]),
        ("attributes", .obj [("colour", toJson (⟨"red"⟩ : Tag)), ("size", toJson (⟨"\\"⟩ : Tag))]),
        ("owner", .null)] :=
  ⟨by decide, rfl, echo.2.2.2 _ (by decide)⟩

end Entity

end Courier

import Courier.Entity.Basic

/-!
The entities of a catalogue of goods: items, tags, accounts, whole catalogue entries with their
tags and attributes, and measured figures.
-/

namespace Courier

open Json.Shape (required possible)

/-! ### Items -/

/-- A numbered thing with a name. -/
structure Item where
  id : UInt64
  name : String
  deriving DecidableEq, Repr

instance : Entity Item where
  label := "Item"
  toJson i := .object [("id", .nat i.id.toNat), ("name", .str i.name)]
  shape := .record "Item" [required "id" .unsigned64, required "name" .text]
  ofShaped v := do
    return ⟨.ofNat (← (← v.member? "id").nat?), ← (← v.member? "name").str?⟩
  validate i := if i.name = "" then .error (.missing "name") else .ok ()

/-! ### Tags and accounts -/

/-- A label on something. -/
structure Tag where
  label : String
  deriving DecidableEq, Repr

instance : Entity Tag where
  label := "Tag"
  toJson t := .object [("label", .str t.label)]
  shape := .record "Tag" [required "label" .text]
  ofShaped v := do return ⟨← (← v.member? "label").str?⟩

/-- Somebody with an address. -/
structure Account where
  email : String
  deriving DecidableEq, Repr

instance : Entity Account where
  label := "Account"
  toJson a := .object [("email", .str a.email)]
  shape := .record "Account" [required "email" .text]
  ofShaped v := do return ⟨← (← v.member? "email").str?⟩

/-! ### Catalogue entries -/

/-- An entry of a catalogue: a thing with its tags, its attributes by ascending names, and
perhaps an owner. -/
structure CatalogueEntry where
  id : UInt64
  name : Option String
  tags : List Tag
  attributes : List (String × Tag)
  owner : Option Tag
  deriving DecidableEq, Repr

instance : Entity CatalogueEntry where
  label := "Catalog"
  toJson e := .object
    [("id", .nat e.id.toNat), ("name", .optStr e.name), ("tags", .arr (e.tags.map Entity.toJson)),
      ("attributes", .object (e.attributes.map fun (k, t) => (k, Entity.toJson t))),
      ("owner", e.owner.elim .null Entity.toJson)]
  shape := .record "Catalog"
    [required "id" .unsigned64, possible "name" .text,
      required "tags" (.list (Entity.shape Tag)),
      required "attributes" (.dictionary (Entity.shape Tag)),
      possible "owner" (Entity.shape Tag)]
  ofShaped v := do
    return {
      id := .ofNat (← (← v.member? "id").nat?)
      name := ← (← v.member? "name").optional? Json.str?
      tags := ← (← (← v.member? "tags").items?).mapM Entity.ofShaped
      attributes := ← (← (← v.member? "attributes").members?).mapM fun (m : String × Json) =>
        (Entity.ofShaped m.2).map fun t => (m.1, t)
      owner := ← (← v.member? "owner").optional? Entity.ofShaped }
  validate e := if e.name.getD "" = "" then .error (.missing "name") else .ok ()

/-! ### Figures -/

/-- Measured figures. -/
structure Metrics where
  count : UInt32
  delta : Int16
  ratio : Number.Binary64
  on : Bool
  note : Option String
  deriving DecidableEq, Repr

instance : Entity Metrics where
  label := "Metrics"
  toJson m := .object
    [("count", .nat m.count.toNat), ("delta", .int m.delta.toInt), ("ratio", .num (.real m.ratio)),
      ("on", .bool m.on), ("note", .optStr m.note)]
  shape := .record "Metrics"
    [required "count" .unsigned32, required "delta" .signed16, required "ratio" .real,
      required "on" .flag, possible "note" .text]
  ofShaped v := do
    return {
      count := .ofNat (← (← v.member? "count").nat?)
      delta := .ofInt (← (← v.member? "delta").int?)
      ratio := ← (← v.member? "ratio").real?
      on := ← (← v.member? "on").bool?
      note := ← (← v.member? "note").optional? Json.str? }

end Courier

import SchemaChange.Column.Json
import SchemaChange.Proofs.Json.Ordering
import SchemaChange.Proofs.Json.Record

/-!
# Proofs.Column.Json — columns that are decoded as they were encoded

- `AutoIncrement.ofJson?_toJson`, `Column.ofJson?_toJson` : the record is decoded again
- `AutoIncrement.isPlain_toJson`, `Column.isPlain_toJson` : and is a plain tree
- `AutoIncrement.ignoresOrder_ofJson?`, `Column.ignoresOrder_ofJson?` : its fields may stand in any
  order
-/

namespace SchemaChange

open Json (Members IsPlain IgnoresOrder ignoresOrder_textOf? ignoresOrder_boolOf?
  ignoresOrder_int32Of? ignoresOrder_int64Of?)

namespace AutoIncrement

@[simp] theorem ofJson?_toJson (a : AutoIncrement) : ofJson? a.toJson = some a := by
  simp [ofJson?, toJson, ofMembers?, Members.field?]

theorem isPlain_toJson (levels : Nat) (a : AutoIncrement) : IsPlain (levels + 1) a.toJson :=
  .object (by simp)

theorem ignoresOrder_ofJson? : IgnoresOrder AutoIncrement.ofJson? := by
  refine Json.ignoresOrder_record fields ?_
  intro ms others orders
  simp only [ofMembers?, Members.field?_ordered orders, ignoresOrder_textOf?, ignoresOrder_boolOf?,
    ignoresOrder_int64Of?, IgnoresOrder.nullable?]

end AutoIncrement

namespace Column

theorem autoIncrement?_ofOption (o : Option AutoIncrement) :
    Json.nullable? AutoIncrement.ofJson? (Json.ofOption AutoIncrement.toJson o) = some o :=
  Json.nullable?_ofOption (fun _ h => by cases h) AutoIncrement.ofJson?_toJson o

theorem ofJson?_toJson (c : Column) : ofJson? c.toJson = some c := by
  unfold ofJson? toJson
  rw [Json.recordOf?_object, Option.bind_some, ofMembers?]
  simp [text?, number?, Members.field?, autoIncrement?_ofOption]

theorem isPlain_toJson (levels : Nat) (c : Column) : IsPlain (levels + 2) c.toJson := by
  have autoIncrement : IsPlain (levels + 1) (Json.ofOption AutoIncrement.toJson c.autoIncrement) :=
    Json.isPlain_ofOption (AutoIncrement.isPlain_toJson levels) c.autoIncrement
  exact .object (by simp [autoIncrement])

theorem ignoresOrder_ofJson? : IgnoresOrder Column.ofJson? := by
  refine Json.ignoresOrder_record fields ?_
  intro ms others orders
  simp only [ofMembers?, text?, number?, Members.field?_ordered orders, ignoresOrder_textOf?,
    ignoresOrder_boolOf?, ignoresOrder_int32Of?, IgnoresOrder.nullable?,
    AutoIncrement.ignoresOrder_ofJson?]

end Column
end SchemaChange

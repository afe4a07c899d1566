import SchemaChange.Constraint.Json
import SchemaChange.Proofs.Json.Ordering
import SchemaChange.Proofs.Json.Record

/-!
# Proofs.Constraint.Json — constraints that are decoded as they were encoded

The word of the kind of object stands in front of the fields, and is passed over as a member that is
no field.

- `Kind.ofWord?_word`, `Rule.ofWord?_word`, `Direction.ofWord?_word` : words are read again
- `Constraint.ofJson?_toMembers`    : the record is decoded again
- `Constraint.isPlain_toMembers`    : and is a plain tree
- `Constraint.ignoresOrder_ofJson?` : its fields may stand in any order
-/

namespace SchemaChange
namespace Constraint

open Json (Value Members IsPlain IgnoresOrder ignoresOrder_textOf? ignoresOrder_boolOf?
  ignoresOrder_wordOf?)

/-! ## Words -/

@[simp] theorem Kind.ofWord?_word (kind : Kind) : ofWord? kind.word = some kind := by
  cases kind <;> rfl

@[simp] theorem Rule.ofWord?_word (rule : Rule) : ofWord? rule.word = some rule := by
  cases rule <;> rfl

@[simp] theorem Direction.ofWord?_word (direction : Direction) :
    ofWord? direction.word = some direction := by
  cases direction <;> rfl

/-! ## Records -/

theorem Index.ofJson?_toJson (i : Index) : ofJson? i.toJson = some i := by
  simp [ofJson?, toJson, ofMembers?, Members.field?, Members.required?]

theorem Index.isPlain_toJson (levels : Nat) (i : Index) : IsPlain (levels + 1) i.toJson :=
  .object (by simp)

theorem index?_ofOption (o : Option Index) :
    Json.nullable? Index.ofJson? (Json.ofOption Index.toJson o) = some o :=
  Json.nullable?_ofOption (fun _ h => by cases h) Index.ofJson?_toJson o

theorem ofJson?_toMembers (kind : Value) (c : Constraint) :
    ofJson? (.object (("object", kind) :: c.toMembers)) = some c := by
  simp [ofJson?, toMembers, ofMembers?, Members.field?, index?_ofOption]

/-- The values of all fields, in their order, are enough. -/
theorem ofJson?_values (c : Constraint) : ofJson? (.array (c.toMembers.map Prod.snd)) = some c := by
  have names : c.toMembers.map Prod.fst <+: fields := List.prefix_rfl
  rw [ofJson?, Json.recordOf?_array names, Option.bind_some]
  simp [toMembers, ofMembers?, Members.field?, index?_ofOption]

theorem isPlain_toMembers (levels : Nat) (c : Constraint) :
    ∀ member ∈ c.toMembers, IsPlain (levels + 1) member.2 := by
  have index : IsPlain (levels + 1) (Json.ofOption Index.toJson c.index) :=
    Json.isPlain_ofOption (Index.isPlain_toJson levels) c.index
  simp [toMembers, index]

theorem Index.ignoresOrder_ofJson? : IgnoresOrder Index.ofJson? := by
  refine Json.ignoresOrder_record fields ?_
  intro ms others orders
  simp only [ofMembers?, Members.field?_ordered orders, Members.required?_ordered orders,
    ignoresOrder_textOf?, ignoresOrder_wordOf?]

theorem ignoresOrder_ofJson? : IgnoresOrder Constraint.ofJson? := by
  refine Json.ignoresOrder_record fields ?_
  intro ms others orders
  simp only [ofMembers?, Members.field?_ordered orders, ignoresOrder_textOf?, ignoresOrder_boolOf?,
    ignoresOrder_wordOf?, IgnoresOrder.nullable?, IgnoresOrder.listOf?,
    Index.ignoresOrder_ofJson?]

end Constraint
end SchemaChange

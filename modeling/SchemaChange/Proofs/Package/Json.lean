import SchemaChange.Package.Json
import SchemaChange.Proofs.Json.Ordering
import SchemaChange.Proofs.Json.Record

/-!
# Proofs.Package.Json — packages that are decoded as they were encoded

- `Package.ofJson?_toMembers`    : the record is decoded again
- `Package.isPlain_toMembers`    : and is a plain tree
- `Package.ignoresOrder_ofJson?` : its fields may stand in any order
-/

namespace SchemaChange
namespace Package

open Json (Value Members IsPlain)

theorem ofJson?_toMembers (kind : Value) (p : Package) :
    ofJson? (.object (("object", kind) :: p.toMembers)) = some p := by
  simp [ofJson?, toMembers, ofMembers?, Members.field?]

/-- The values of all fields, in their order, are enough. -/
theorem ofJson?_values (p : Package) : ofJson? (.array (p.toMembers.map Prod.snd)) = some p := by
  have names : p.toMembers.map Prod.fst <+: fields := List.prefix_rfl
  rw [ofJson?, Json.recordOf?_array names, Option.bind_some]
  simp [toMembers, ofMembers?, Members.field?]

theorem isPlain_toMembers (levels : Nat) (p : Package) :
    ∀ member ∈ p.toMembers, IsPlain levels member.2 := by
  simp [toMembers]

theorem ignoresOrder_ofJson? : Json.IgnoresOrder Package.ofJson? := by
  refine Json.ignoresOrder_record fields ?_
  intro ms others orders
  simp only [ofMembers?, Members.field?_ordered orders, Json.ignoresOrder_textOf?,
    Json.ignoresOrder_boolOf?, Json.IgnoresOrder.nullable?]

end Package
end SchemaChange

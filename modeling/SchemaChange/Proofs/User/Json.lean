import SchemaChange.Proofs.Json.Ordering
import SchemaChange.Proofs.Json.Record
import SchemaChange.User.Json

/-!
# Proofs.User.Json — users that are decoded without their passwords

A password is not written, so none is read, and the text is the same whatever it is. Tags are the
only values whose order is kept, so they are sorted with the members of the record.

- `User.withPassword`   : the user with another password
- `User.ofJson?_toJson` : the record is decoded again, without a password
- `User.isPlain_toJson` : and is a plain tree
- `User.sortTags`       : the user with its tags in the order of their names
- `User.commutes_ofJson?` : what is decoded from sorted members
-/

namespace SchemaChange
namespace User

open Json (Members IsPlain)

def withPassword (password : Option String) (u : User) : User :=
  { u with password := password }

theorem toJson_withPassword (password : Option String) (u : User) :
    (u.withPassword password).toJson = u.toJson := rfl

theorem ofJson?_toJson (u : User) : ofJson? u.toJson = some (u.withPassword none) := by
  simp [ofJson?, toJson, ofMembers?, Members.field?, withPassword]

theorem isPlain_toJson (levels : Nat) (u : User) : IsPlain (levels + 2) u.toJson :=
  .object (by simp)

/-- The user with its tags in the order of their names. -/
def sortTags (u : User) : User :=
  { u with tags := u.tags.sorted }

/-- A user without values has no tags to sort. -/
theorem sortTags_default : sortTags {} = {} :=
  congrArg (fun tags => ({ tags := tags } : User)) Attributes.sorted_empty

theorem commutes_ofJson? : Json.Commutes sortTags ofJson? := by
  refine Json.commutes_record fields ?_
  intro ms others orders
  have tags := Members.field?_commutes orders "tags" Json.commutes_attributesOf?
    Attributes.sorted_empty
  simp only [ofMembers?, Members.field?_ordered orders, Json.ignoresOrder_textOf?,
    Json.ignoresOrder_boolOf?, Json.IgnoresOrder.nullable?, tags, Option.bind_eq_bind,
    Option.pure_def, Option.bind_map, Option.map_bind, Option.map_some, Function.comp_def]
  rfl

end User
end SchemaChange

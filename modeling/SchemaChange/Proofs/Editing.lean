import SchemaChange.Proofs.Column.Edit
import SchemaChange.Proofs.User.Edit

/-!
# Proofs.Editing — edits of columns and of users

Columns and users are edited under the same rules, whether they are there already or still to be
created. The values in front of the edits are remembered, what was touched stays marked, and of the
calls of one setter the last one counts; so edits that do not touch the same value may change places.

- `Draft.applyEdits_account` : the rules, for columns and for users
-/

namespace SchemaChange
namespace Draft

/-- A draft behind edits is accounted for by the edits, setter by setter. So it does not depend on
the places of the calls of different setters, and neither do its statements. -/
theorem applyEdits_account :
    (∀ (values : Column) (existing : Bool) (edits : List Column.Edit),
      ColumnDraft.Account values existing edits
        (ColumnDraft.applyEdits (start existing values) edits)) ∧
    (∀ (values : User) (existing : Bool) (edits : List User.Edit),
      UserDraft.Account values existing edits
        (UserDraft.applyEdits (start existing values) edits)) ∧
    (∀ (values : Column) (existing : Bool) (edits others : List Column.Edit),
      SameOrder Column.Edit.setter edits others →
      ColumnDraft.applyEdits (start existing values) edits =
          ColumnDraft.applyEdits (start existing values) others ∧
        ColumnDraft.toBatch (ColumnDraft.applyEdits (start existing values) edits) =
          ColumnDraft.toBatch (ColumnDraft.applyEdits (start existing values) others)) ∧
    (∀ (values : User) (existing : Bool) (edits others : List User.Edit),
      SameOrder User.Edit.part edits others →
      UserDraft.applyEdits (start existing values) edits =
          UserDraft.applyEdits (start existing values) others ∧
        UserDraft.toBatch (UserDraft.applyEdits (start existing values) edits) =
          UserDraft.toBatch (UserDraft.applyEdits (start existing values) others)) := by
  refine ⟨ColumnDraft.account_applyEdits, UserDraft.account_applyEdits, ?_, ?_⟩
  · intro values existing edits others h
    have same := ColumnDraft.applyEdits_congr values existing h
    exact ⟨same, congrArg ColumnDraft.toBatch same⟩
  · intro values existing edits others h
    have same := UserDraft.applyEdits_congr values existing h
    exact ⟨same, congrArg UserDraft.toBatch same⟩

/-- Two sizes keep their order, and so do two edits of one tag; a rename that was taken back moves
past the sizes, and the activity past the tag. -/
theorem applyEdits_account_moved :
    SameOrder Column.Edit.setter
        [.size (some 10), .name "A", .size (some 20), .name "C"]
        [.name "A", .name "C", .size (some 10), .size (some 20)] ∧
      SameOrder User.Edit.part
        [.setTag "K" "1", .active false, .removeTag "K"]
        [.setTag "K" "1", .removeTag "K", .active false] ∧
      ColumnDraft.applyEdits (start true { table := "T", name := "C" })
          [.size (some 10), .name "A", .size (some 20), .name "C"] =
        ColumnDraft.applyEdits (start true { table := "T", name := "C" })
          [.name "A", .name "C", .size (some 10), .size (some 20)] ∧
      UserDraft.applyEdits (start true { name := "U" })
          [.setTag "K" "1", .active false, .removeTag "K"] =
        UserDraft.applyEdits (start true { name := "U" })
          [.setTag "K" "1", .removeTag "K", .active false] := by
  have columns : SameOrder Column.Edit.setter
      [.size (some 10), .name "A", .size (some 20), .name "C"]
      [.name "A", .name "C", .size (some 10), .size (some 20)] := by
    intro s
    cases s <;> rfl
  have users : SameOrder User.Edit.part
      [.setTag "K" "1", .active false, .removeTag "K"]
      [.setTag "K" "1", .removeTag "K", .active false] := by
    intro part
    cases part <;> rfl
  rcases applyEdits_account with ⟨-, -, columnsMove, usersMove⟩
  exact ⟨columns, users, (columnsMove { table := "T", name := "C" } true _ _ columns).1,
    (usersMove { name := "U" } true _ _ users).1⟩

end Draft
end SchemaChange

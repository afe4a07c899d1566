import SchemaChange.Proofs.Draft
import SchemaChange.User.Statements

/-!
# Proofs.User.Edit — users behind edits

Every attribute of a user has one setter, but for the tags: they are edited one at a time, and what
is left of them is what all edits of tags make of the old ones.

- `User.Part.read`, `User.Part.argument?` : what an attribute is, and what an edit sets it to
- `User.Edit.retag`                       : what an edit does to tags
- `UserDraft.Account`                     : all that is said of a user behind edits
- `UserDraft.applyEdits_congr`            : only the order of the edits of one attribute matters
-/

namespace SchemaChange
namespace User

instance : LawfulAttribute Part where
  bit_lt := by
    intro part
    cases part <;> decide
  bit_injective := by
    intro a b h
    cases a <;> cases b <;> first | rfl | cases h
  mem_all := by
    intro part
    cases part <;> decide

/-! ## Setters -/

namespace Part

def Value : Part → Type
  | .password | .firstName | .middleName | .lastName | .comment | .plugin => Option String
  | .active | .admin => Bool
  | .tags => Attributes

def read (part : Part) (u : User) : part.Value :=
  match part with
  | .password => u.password
  | .firstName => u.firstName
  | .middleName => u.middleName
  | .lastName => u.lastName
  | .active => u.active
  | .admin => u.admin
  | .comment => u.comment
  | .plugin => u.plugin
  | .tags => u.tags

/-- What an edit sets the attribute to. No edit sets all tags. -/
def argument? : (part : Part) → Edit → Option part.Value
  | .password, .password v => some (some v)
  | .firstName, .firstName v => some v
  | .middleName, .middleName v => some v
  | .lastName, .lastName v => some v
  | .active, .active v => some v
  | .admin, .admin v => some v
  | .comment, .comment v => some v
  | .plugin, .plugin v => some v
  | _, _ => none

theorem argument?_eq_none {part : Part} {e : Edit} (h : e.part ≠ part) :
    part.argument? e = none := by
  cases e <;> cases part <;> first | rfl | exact absurd rfl h

end Part

/-- What an edit does to tags. -/
def Edit.retag (tags : Attributes) : Edit → Attributes
  | .setTag k v => tags.insert k v
  | .removeTag k => tags.erase k
  | _ => tags

theorem Edit.retag_eq_self {e : Edit} (h : e.part ≠ .tags) (tags : Attributes) :
    e.retag tags = tags := by
  cases e <;> first | rfl | exact absurd rfl h

theorem Edit.tags_apply (e : Edit) (u : User) : (e.apply u).tags = e.retag u.tags := by
  cases e <;> rfl

theorem Edit.name_apply (e : Edit) (u : User) : (e.apply u).name = u.name := by
  cases e <;> rfl

/-- An edit sets the value of its attribute and no other one. -/
theorem read_apply {part : Part} (single : part ≠ .tags) (e : Edit) (u : User) :
    part.read (e.apply u) = (part.argument? e).getD (part.read u) := by
  cases e <;> cases part <;> first | rfl | exact absurd rfl single

/-- An edit of another attribute leaves the value as it is. -/
theorem read_apply_of_ne {part : Part} {e : Edit} (h : e.part ≠ part) (u : User) :
    part.read (e.apply u) = part.read u := by
  cases e <;> cases part <;> first | rfl | exact absurd rfl h

/-- The attributes and the name make up the whole user. -/
theorem eq_of_read {u other : User} (values : ∀ part : Part, part.read u = part.read other)
    (name : u.name = other.name) : u = other := by
  rcases u
  rcases other
  exact User.mk.injEq .. ▸
    ⟨name, values .password, values .firstName, values .middleName, values .lastName,
      values .active, values .admin, values .comment, values .plugin, values .tags⟩

end User

namespace UserDraft

open User (Edit Part)

/-! ## Runs of edits -/

/-- All that is said of a user that had the given values in front of edits. -/
structure Account (values : User) (existing : Bool) (edits : List Edit) (d : UserDraft) :
    Prop extends Draft.Follows Edit.part values existing edits d where
  /-- Each setter left the argument of its last call; without a call the value is as it was. -/
  current : ∀ part : Part, part ≠ .tags →
    part.read d.current = (edits.filterMap part.argument?).getLast?.getD (part.read values)
  tags : d.current.tags = edits.foldl Edit.retag values.tags
  name : d.current.name = values.name
  /-- Nothing changed without a mark. -/
  changed : ∀ part : Part, part.read d.current ≠ part.read values → d.isMarked part = true

theorem tags_foldl (u : User) (edits : List Edit) :
    (edits.foldl (fun u e => e.apply u) u).tags = edits.foldl Edit.retag u.tags := by
  induction edits generalizing u with
  | nil => rfl
  | cons e rest ih => rw [List.foldl_cons, ih, e.tags_apply, List.foldl_cons]

theorem account_applyEdits (values : User) (existing : Bool) (edits : List Edit) :
    Account values existing edits (applyEdits (Draft.start existing values) edits) := by
  have follows : Draft.Follows Edit.part values existing edits
      (applyEdits (Draft.start existing values) edits) :=
    Draft.follows_run Edit.part Edit.apply values existing edits
  have final : (applyEdits (Draft.start existing values) edits).current =
      edits.foldl (fun u e => e.apply u) values :=
    Draft.current_run_start Edit.part Edit.apply values existing edits
  refine { follows with current := ?_, tags := ?_, name := ?_, changed := ?_ }
  · intro part single
    rw [final]
    exact read_foldl part.read (User.read_apply single) values edits
  · rw [final, tags_foldl]
  · rw [final]
    exact read_foldl_of_untouched User.name (fun e _ u => e.name_apply u) values
  · intro part
    exact Draft.isMarked_of_ne Edit.part Edit.apply part.read
      fun e u untouched => User.read_apply_of_ne untouched u

/-- Edits of different attributes may change places; tags are one attribute. -/
theorem applyEdits_congr (values : User) (existing : Bool) {edits others : List Edit}
    (h : SameOrder Edit.part edits others) :
    applyEdits (Draft.start existing values) edits =
      applyEdits (Draft.start existing values) others := by
  have account := account_applyEdits values existing edits
  have account' := account_applyEdits values existing others
  refine account.toFollows.eq account'.toFollows h.mem_iff ?_
  apply User.eq_of_read
  · intro part
    by_cases tags : part = .tags
    · subst tags
      have same := h.foldl_eq .tags (fun tags e other => Edit.retag_eq_self other tags) values.tags
      exact account.tags.trans (same.trans account'.tags.symm)
    · rw [account.current part tags, account'.current part tags,
        h.filterMap_eq part fun e other => Part.argument?_eq_none other]
  · rw [account.name, account'.name]

/-- An edit whose attribute is not edited again may come last. -/
theorem applyEdits_move (values : User) (existing : Bool) (before : List Edit) {after : List Edit}
    {e : Edit} (others : ∀ other ∈ after, other.part ≠ e.part) :
    applyEdits (Draft.start existing values) (before ++ e :: after) =
      (applyEdits (Draft.start existing values) (before ++ after)).applyEdit e := by
  rw [applyEdits_congr values existing (sameOrder_move others before), applyEdits,
    List.foldl_append]
  rfl

end UserDraft
end SchemaChange

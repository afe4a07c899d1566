import SchemaChange.Column.Statements
import SchemaChange.Proofs.Draft

/-!
# Proofs.Column.Edit — columns behind edits

Every edit is a call of one setter, and several setters touch the attribute `type`. Setters do not
disturb each other: what a setter has set stays until it is called again.

- `Column.Setter`                 : the setters, and what each of them reads and sets
- `Column.read_apply`             : one edit
- `ColumnDraft.Account`           : all that is said of a column behind edits
- `ColumnDraft.applyEdits_congr`  : only the order of the calls of one setter matters
-/

namespace SchemaChange
namespace Column

instance : LawfulAttribute Part where
  bit_lt := by
    intro part
    cases part <;> decide
  bit_injective := by
    intro a b h
    cases a <;> cases b <;> first | rfl | cases h
  mem_all := by
    intro part
    cases part <;> decide

/-! ## Setters -/

/-- What an edit can set. A type is set with its code and its name. -/
inductive Setter
  | name
  | type
  | size
  | scale
  | subtype
  | charset
  | collate
  | domain
  | nullable
  | defaultValue
  | computed
  | description
  | autoIncrement
  deriving DecidableEq, Repr

namespace Setter

/-- The attribute that the setter touches. -/
def part : Setter → Part
  | .name => .name
  | .type | .size | .scale | .subtype | .charset | .collate => .type
  | .domain => .domain
  | .nullable => .nullable
  | .defaultValue => .defaultValue
  | .computed => .computed
  | .description => .description
  | .autoIncrement => .autoIncrement

/-- The arguments that the setter takes. -/
def Value : Setter → Type
  | .name => String
  | .type => Sql.TypeCode × String
  | .size | .scale | .subtype => Option Int32
  | .charset | .collate | .domain => Option String
  | .nullable => Bool
  | .defaultValue | .computed | .description => Option String
  | .autoIncrement => Option AutoIncrement

/-- What a column has in the place of the setter. -/
def read (s : Setter) (c : Column) : s.Value :=
  match s with
  | .name => c.name
  | .type => (c.typeCode, c.typeName)
  | .size => c.size
  | .scale => c.scale
  | .subtype => c.subtype
  | .charset => c.charset
  | .collate => c.collate
  | .domain => c.domain
  | .nullable => c.nullable
  | .defaultValue => c.defaultValue
  | .computed => c.computed
  | .description => c.description
  | .autoIncrement => c.autoIncrement

/-- The argument of an edit that is a call of the setter. -/
def argument? : (s : Setter) → Edit → Option s.Value
  | .name, .name v => some v
  | .type, .type v w => some (v, w)
  | .size, .size v => some v
  | .scale, .scale v => some v
  | .subtype, .subtype v => some v
  | .charset, .charset v => some v
  | .collate, .collate v => some v
  | .domain, .domain v => some v
  | .nullable, .nullable v => some v
  | .defaultValue, .defaultValue v => some v
  | .computed, .computed v => some v
  | .description, .description v => some v
  | .autoIncrement, .autoIncrement v => some v
  | _, _ => none

end Setter

/-- The setter that an edit is a call of. -/
def Edit.setter : Edit → Setter
  | .name _ => .name
  | .type _ _ => .type
  | .size _ => .size
  | .scale _ => .scale
  | .subtype _ => .subtype
  | .charset _ => .charset
  | .collate _ => .collate
  | .domain _ => .domain
  | .nullable _ => .nullable
  | .defaultValue _ => .defaultValue
  | .computed _ => .computed
  | .description _ => .description
  | .autoIncrement _ => .autoIncrement

theorem Edit.part_setter (e : Edit) : e.setter.part = e.part := by
  cases e <;> rfl

theorem Setter.argument?_eq_none {s : Setter} {e : Edit} (h : e.setter ≠ s) :
    s.argument? e = none := by
  cases e <;> cases s <;> first | rfl | exact absurd rfl h

/-- An edit sets the value of its setter and no other one. -/
theorem read_apply (s : Setter) (e : Edit) (c : Column) :
    s.read (e.apply c) = (s.argument? e).getD (s.read c) := by
  cases e <;> cases s <;> rfl

/-- The values that no setter sets: the table, the condition, whether the column is the primary key,
and whether the system keeps it. -/
def base (c : Column) : String × Option String × Bool × Bool :=
  (c.table, c.check, c.primaryKey, c.keptBySystem)

theorem base_apply (e : Edit) (c : Column) : (e.apply c).base = c.base := by
  cases e <;> rfl

/-- The values of the setters and the other ones make up the whole column. -/
theorem eq_of_read {c other : Column} (values : ∀ s : Setter, s.read c = s.read other)
    (others : c.base = other.base) : c = other := by
  have type := Prod.mk.inj (values .type)
  simp only [base, Prod.mk.injEq] at others
  rcases others with ⟨table, check, primaryKey, keptBySystem⟩
  rcases c
  rcases other
  exact Column.mk.injEq .. ▸
    ⟨table, values .name, type.1, type.2, values .size, values .scale, values .subtype,
      values .charset, values .collate, values .domain, values .nullable, values .defaultValue,
      values .computed, values .description, values .autoIncrement, check, primaryKey,
      keptBySystem⟩

end Column

namespace ColumnDraft

open Column (Edit Setter)

/-! ## Runs of edits -/

/-- All that is said of a column that had the given values in front of edits. -/
structure Account (values : Column) (existing : Bool) (edits : List Edit) (d : ColumnDraft) :
    Prop extends Draft.Follows Edit.part values existing edits d where
  /-- Each setter left the argument of its last call; without a call the value is as it was. -/
  current : ∀ s : Setter,
    s.read d.current = (edits.filterMap s.argument?).getLast?.getD (s.read values)
  base : d.current.base = values.base
  /-- Nothing changed without a mark. -/
  changed : ∀ s : Setter, s.read d.current ≠ s.read values → d.isMarked s.part = true

theorem account_applyEdits (values : Column) (existing : Bool) (edits : List Edit) :
    Account values existing edits (applyEdits (Draft.start existing values) edits) := by
  have follows : Draft.Follows Edit.part values existing edits
      (applyEdits (Draft.start existing values) edits) :=
    Draft.follows_run Edit.part Edit.apply values existing edits
  have final : (applyEdits (Draft.start existing values) edits).current =
      edits.foldl (fun c e => e.apply c) values :=
    Draft.current_run_start Edit.part Edit.apply values existing edits
  refine { follows with current := ?_, base := ?_, changed := ?_ }
  · intro s
    rw [final]
    exact read_foldl s.read (Column.read_apply s) values edits
  · rw [final]
    exact read_foldl_of_untouched Column.base (fun e _ c => Column.base_apply e c) values
  · intro s
    refine Draft.isMarked_of_ne Edit.part Edit.apply s.read ?_
    intro e c untouched
    have other : e.setter ≠ s := by
      rintro rfl
      exact untouched e.part_setter.symm
    rw [Column.read_apply, Setter.argument?_eq_none other, Option.getD_none]

/-- Calls of different setters may change places. -/
theorem applyEdits_congr (values : Column) (existing : Bool) {edits others : List Edit}
    (h : SameOrder Edit.setter edits others) :
    applyEdits (Draft.start existing values) edits =
      applyEdits (Draft.start existing values) others := by
  have account := account_applyEdits values existing edits
  have account' := account_applyEdits values existing others
  refine account.toFollows.eq account'.toFollows h.mem_iff ?_
  apply Column.eq_of_read
  · intro s
    rw [account.current, account'.current,
      h.filterMap_eq s fun e other => Setter.argument?_eq_none other]
  · rw [account.base, account'.base]

/-- An edit whose setter is not called again may come last. -/
theorem applyEdits_move (values : Column) (existing : Bool) (before : List Edit) {after : List Edit}
    {e : Edit} (others : ∀ other ∈ after, other.setter ≠ e.setter) :
    applyEdits (Draft.start existing values) (before ++ e :: after) =
      (applyEdits (Draft.start existing values) (before ++ after)).applyEdit e := by
  rw [applyEdits_congr values existing (sameOrder_move others before), applyEdits,
    List.foldl_append]
  rfl

end ColumnDraft
end SchemaChange

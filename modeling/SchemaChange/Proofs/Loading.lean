import SchemaChange.Column.Load
import SchemaChange.Package.Load
import SchemaChange.Proofs.Catalog.Ending
import SchemaChange.Proofs.Constraint.Recreation
import SchemaChange.User.Load

/-!
# Proofs.Loading — what loading comes to, whatever the catalog answers

A loader asks a few queries and no more. If one of them fails, loading ends there and says so. If
all are answered, either the object is absent and loading says that, or it is there and loading
leaves it as it is in the database, with nothing changed.

- `LoadAccount`            : all that is said of a loader
- `Draft.IsUntouched`      : a draft of something that exists, before its first edit
- `Constraint.IsAbsentIn`  : the answers that describe no constraint
- `loadAccount_of_loaders` : the accounts of the four loaders
-/

namespace SchemaChange

open Catalog (Answers Query)

/-! ## Accounts -/

section Account

variable {α : Type}

/-- What a loader comes to with a catalog: its first query, when and how it fails, when it finds
nothing, when it finds something, and how many queries it takes. -/
structure LoadAccount (catalog : Catalog) (first : Query) (absent : Prop) (untouched : α → Prop)
    (limit : Nat) (outcome : Catalog.Outcome LoadProblem α) : Prop where
  first : outcome.queries.head? = some first
  fails : (∃ failure, outcome.result = .error (.catalog failure)) ↔
    ∃ query ∈ outcome.queries, ∃ failure, catalog query = .error failure
  /-- The query that failed was the last one, and its failure is the one that is told. -/
  told : ∀ failure, outcome.result = .error (.catalog failure) →
    ∃ answered last, outcome.queries = answered ++ [last] ∧
      (∀ query ∈ answered, Answers catalog query) ∧ catalog last = .error failure ∧
      (LoadProblem.catalog failure).message = "catalog query failed: " ++ failure.text
  misses : (∃ kind name, outcome.result = .error (.notFound kind name)) ↔
    (∀ query ∈ outcome.queries, Answers catalog query) ∧ absent
  finds : (∃ a, outcome.result = .ok a) ↔
    (∀ query ∈ outcome.queries, Answers catalog query) ∧ ¬absent
  untouched : ∀ a, outcome.result = .ok a → untouched a
  limit : outcome.queries.length ≤ limit

variable {catalog : Catalog} {first : Query} {absent : Prop} {untouched : α → Prop} {limit : Nat}
variable {outcome : Catalog.Outcome LoadProblem α}

/-- The three endings exclude each other, so each of them is told by the result and by the answers
alike. -/
theorem Ending.account (h : Ending catalog absent outcome)
    (begins : outcome.queries.head? = some first) (ok : ∀ a, outcome.result = .ok a → untouched a)
    (few : outcome.queries.length ≤ limit) :
    LoadAccount catalog first absent untouched limit outcome := by
  cases h with
  | @found a queries answered present =>
      exact
        { first := begins
          fails := iff_of_false nofun (Catalog.not_exists_error_of_answers answered)
          told := nofun
          misses := iff_of_false nofun fun both => present both.2
          finds := iff_of_true ⟨a, rfl⟩ ⟨answered, present⟩
          untouched := ok
          limit := few }
  | @notFound kind name queries answered gone =>
      exact
        { first := begins
          fails := iff_of_false nofun (Catalog.not_exists_error_of_answers answered)
          told := nofun
          misses := iff_of_true ⟨kind, name, rfl⟩ ⟨answered, gone⟩
          finds := iff_of_false nofun fun both => both.2 gone
          untouched := nofun
          limit := few }
  | @failed queries last failure answered refused =>
      have issued : last ∈ queries ++ [last] := List.mem_append_right _ (List.mem_singleton_self _)
      -- Whatever was answered before, the last query was not.
      have unanswered : ¬∀ query ∈ queries ++ [last], Answers catalog query :=
        fun all => Catalog.not_answers_of_error refused (all last issued)
      refine
        { first := begins
          fails := iff_of_true ⟨failure, rfl⟩ ⟨last, issued, failure, refused⟩
          told := ?_
          misses := iff_of_false nofun fun both => unanswered both.1
          finds := iff_of_false nofun fun both => unanswered both.1
          untouched := nofun
          limit := few }
      intro told same
      cases same
      exact ⟨queries, last, rfl, answered, refused, rfl⟩

end Account

/-- The draft of something that exists, before its first edit. -/
structure Draft.IsUntouched {V A : Type} (d : Draft V A) : Prop where
  existing : d.existing = true
  same : d.initial = d.current
  unmarked : d.marks = Marks.empty

theorem Draft.isUntouched_ofExisting {V A : Type} (values : V) :
    (ofExisting values : Draft V A).IsUntouched :=
  ⟨rfl, rfl, rfl⟩

variable {catalog : Catalog}

/-! ## Columns -/

namespace ColumnDraft

variable {table name : String}

theorem ending_load : Ending catalog (catalog ⟨Column.catalogSql, [.text table, .text name]⟩ = .ok [])
    ((load table name).run catalog) :=
  ending_row id fun _ _ answer => ending_pure (Catalog.not_empty_of_row answer)

theorem asksAtMost_load : Lookup.AsksAtMost 1 (load table name) :=
  Lookup.asksAtMost_row fun _ => Lookup.asksAtMost_pure _

theorem isUntouched_of_load {d : ColumnDraft} (h : (load table name).Finds catalog d) :
    d.IsUntouched := by
  rcases finds_row.1 h with ⟨row, rest, -, found⟩
  cases Lookup.finds_pure.1 found
  exact Draft.isUntouched_ofExisting _

end ColumnDraft

/-! ## Users -/

namespace UserDraft

variable {name : String}

theorem ending_loadTags (u : User) : Ending catalog False (u.loadTags.run catalog) := by
  unfold User.loadTags
  cases u.plugin with
  | none => exact ending_done id
  | some plugin => exact (ending_loadRows _ _).bind id fun _ _ _ => ending_pure id

theorem asksAtMost_loadTags (u : User) : Lookup.AsksAtMost 1 u.loadTags := by
  unfold User.loadTags
  cases u.plugin with
  | none => exact (Lookup.asksAtMost_done _).mono (Nat.zero_le 1)
  | some plugin =>
      exact (Lookup.asksAtMost_loadRows _ _).bind fun _ => Lookup.asksAtMost_pure _

theorem ending_load : Ending catalog (catalog ⟨User.catalogSql, [.text name]⟩ = .ok [])
    ((load name).run catalog) :=
  ending_row id fun _ _ answer =>
    (ending_loadTags _).bind False.elim fun _ _ _ => ending_pure (Catalog.not_empty_of_row answer)

theorem asksAtMost_load : Lookup.AsksAtMost 2 (load name) :=
  Lookup.asksAtMost_row fun _ => (asksAtMost_loadTags _).bind fun _ => Lookup.asksAtMost_pure _

theorem isUntouched_of_load {d : UserDraft} (h : (load name).Finds catalog d) : d.IsUntouched := by
  rcases finds_row.1 h with ⟨row, rest, -, behindRow⟩
  rcases Lookup.finds_bind.1 behindRow with ⟨tags, -, found⟩
  cases Lookup.finds_pure.1 found
  exact Draft.isUntouched_ofExisting _

end UserDraft

/-! ## Packages -/

namespace Package

variable {name : String}

theorem ending_load : Ending catalog (catalog ⟨catalogSql, [.text name]⟩ = .ok [])
    ((load name).run catalog) :=
  ending_row id fun _ _ answer => ending_pure (Catalog.not_empty_of_row answer)

theorem asksAtMost_load : Lookup.AsksAtMost 1 (load name) :=
  Lookup.asksAtMost_row fun _ => Lookup.asksAtMost_pure _

theorem existing_of_load {p : Package} (h : (load name).Finds catalog p) :
    p.existing = true ∧ p.name = name := by
  rcases finds_row.1 h with ⟨row, rest, -, found⟩
  cases Lookup.finds_pure.1 found
  exact ⟨rfl, rfl⟩

end Package

/-! ## Constraints -/

namespace Constraint

variable {table name : String}

/-- The query for the row of a constraint. -/
def firstQuery (table name : String) : Query :=
  ⟨catalogSql, [.text table, .text name]⟩

/-- The answers of the catalog describe no constraint: there is no row, or its kind is missing or
unknown, or it is a foreign key and there is no row about what it refers to. -/
inductive IsAbsentIn (catalog : Catalog) (table name : String) : Prop
  | row (none : catalog (firstQuery table name) = .ok [])
  | kind {row : Catalog.Row} {rest : List Catalog.Row}
      (answer : catalog (firstQuery table name) = .ok (row :: rest))
      (unknown : (row.text? "RDB$CONSTRAINT_TYPE").bind Kind.ofKeyword? = none)
  | reference {row : Catalog.Row} {rest : List Catalog.Row}
      (answer : catalog (firstQuery table name) = .ok (row :: rest))
      (foreign : (row.text? "RDB$CONSTRAINT_TYPE").bind Kind.ofKeyword? = some .foreign)
      (none : catalog ⟨referenceSql, [.text name]⟩ = .ok [])

/-- The reference that goes with a kind is missing. -/
def LacksReference (catalog : Catalog) (name : String) (kind : Kind) : Prop :=
  kind = .foreign ∧ catalog ⟨referenceSql, [.text name]⟩ = .ok []

theorem ending_loadColumns (index : Option String) :
    Ending catalog False ((loadColumns index).run catalog) := by
  cases index with
  | none => exact ending_done id
  | some index => exact (ending_loadRows _ _).bind id fun _ _ _ => ending_pure id

theorem ending_loadCheck : Ending catalog False ((loadCheck table name).run catalog) :=
  (ending_loadRows _ _).bind id fun _ _ _ => ending_pure id

theorem ending_loadKey (kind : Kind) (index : Option String) :
    Ending catalog False ((loadKey kind table index).run catalog) :=
  (ending_loadColumns index).bind id fun _ _ _ => ending_pure id

theorem ending_withReference (c : Constraint) :
    Ending catalog (catalog ⟨referenceSql, [.text name]⟩ = .ok [])
      ((withReference name c).run catalog) :=
  ending_row id fun _ _ answer =>
    (ending_loadColumns _).bind False.elim fun _ _ _ => ending_pure (Catalog.not_empty_of_row answer)

theorem ending_loadBody (index : Option String) (kind : Kind) :
    Ending catalog (LacksReference catalog name kind)
      ((loadBody table name index kind).run catalog) := by
  -- A reference can be missing only where one is asked for.
  cases kind with
  | check => exact ending_loadCheck.congr (by simp [LacksReference])
  | primary => exact (ending_loadKey _ index).congr (by simp [LacksReference])
  | unique => exact (ending_loadKey _ index).congr (by simp [LacksReference])
  | foreign =>
      exact (ending_loadKey _ index).bind False.elim fun key _ _ =>
        (ending_withReference key).congr (by simp [LacksReference])

theorem ending_loadKind (row : Catalog.Row) :
    Ending catalog ((row.text? "RDB$CONSTRAINT_TYPE").bind Kind.ofKeyword? = none)
      ((loadKind name row).run catalog) := by
  unfold loadKind
  cases known : (row.text? "RDB$CONSTRAINT_TYPE").bind Kind.ofKeyword? with
  | none => exact ending_notFound rfl
  | some kind => exact ending_done (Option.some_ne_none kind)

theorem not_isAbsentIn_of_row {row : Catalog.Row} {rest : List Catalog.Row} {kind : Kind}
    (answer : catalog (firstQuery table name) = .ok (row :: rest))
    (known : (row.text? "RDB$CONSTRAINT_TYPE").bind Kind.ofKeyword? = some kind)
    (referred : ¬LacksReference catalog name kind) : ¬IsAbsentIn catalog table name := by
  intro absent
  cases absent with
  | row none => exact Catalog.not_empty_of_row answer none
  | kind answer' unknown =>
      cases answer.symm.trans answer'
      rw [known] at unknown
      cases unknown
  | reference answer' foreign none =>
      cases answer.symm.trans answer'
      exact referred ⟨Option.some.inj (known.symm.trans foreign), none⟩

theorem ending_load :
    Ending catalog (IsAbsentIn catalog table name) ((load table name).run catalog) := by
  refine ending_row .row fun row rest answer => ?_
  refine (ending_loadKind row).bind (.kind answer) fun kind found _ => ?_
  have known := named_of_finds_loadKind found
  -- Behind the row and its kind the constraint is absent only for want of its reference.
  refine (ending_loadBody _ kind).bind ?_ fun body _ referred => ?_
  · rintro ⟨rfl, none⟩
    exact .reference answer known none
  · exact ending_pure (not_isAbsentIn_of_row answer known referred)

theorem asksAtMost_loadColumns (index : Option String) :
    Lookup.AsksAtMost 1 (loadColumns index) := by
  cases index with
  | none => exact (Lookup.asksAtMost_done _).mono (Nat.zero_le 1)
  | some index =>
      exact (Lookup.asksAtMost_loadRows _ _).bind fun _ => Lookup.asksAtMost_pure _

theorem asksAtMost_loadKey (kind : Kind) (index : Option String) :
    Lookup.AsksAtMost 1 (loadKey kind table index) :=
  (asksAtMost_loadColumns index).bind fun _ => Lookup.asksAtMost_pure _

theorem asksAtMost_withReference (c : Constraint) : Lookup.AsksAtMost 2 (withReference name c) :=
  Lookup.asksAtMost_row fun _ => (asksAtMost_loadColumns _).bind fun _ => Lookup.asksAtMost_pure _

theorem asksAtMost_loadBody (index : Option String) (kind : Kind) :
    Lookup.AsksAtMost 3 (loadBody table name index kind) := by
  cases kind with
  | check =>
      have one : Lookup.AsksAtMost 1 (loadCheck table name) :=
        (Lookup.asksAtMost_loadRows _ _).bind fun _ => Lookup.asksAtMost_pure _
      exact one.mono (by decide)
  | primary => exact (asksAtMost_loadKey _ index).mono (by decide)
  | unique => exact (asksAtMost_loadKey _ index).mono (by decide)
  | foreign => exact (asksAtMost_loadKey _ index).bind asksAtMost_withReference

theorem asksAtMost_loadKind (row : Catalog.Row) : Lookup.AsksAtMost 0 (loadKind name row) := by
  unfold loadKind
  split
  · exact Lookup.asksAtMost_done _
  · exact Lookup.asksAtMost_fail _

theorem asksAtMost_load : Lookup.AsksAtMost 4 (load table name) :=
  Lookup.asksAtMost_row fun row =>
    (asksAtMost_loadKind row).bind fun kind =>
      (asksAtMost_loadBody _ kind).bind fun _ => Lookup.asksAtMost_pure _

/-- An existing constraint before its first edit. -/
structure IsUntouched (name : String) (c : Constraint) : Prop where
  existing : c.existing = true
  initialName : c.initialName = some name
  named : c.name = name
  nameByHand : c.nameByHand = false

theorem isUntouched_of_load {c : Constraint} (h : (load table name).Finds catalog c) :
    IsUntouched name c := by
  rcases body_of_finds_load h with ⟨row, rest, kind, body, -, -, -, rfl⟩
  exact ⟨rfl, rfl, rfl, rfl⟩

end Constraint

/-- Whatever the catalog answers and whatever the names are: loading fails exactly when a query
fails, and with that query it ends; it finds nothing exactly when all queries are answered and the
answers describe no such object; otherwise it finds the object as it is, with nothing changed. -/
theorem loadAccount_of_loaders (catalog : Catalog) (table name : String) :
    LoadAccount catalog ⟨Column.catalogSql, [.text table, .text name]⟩
        (catalog ⟨Column.catalogSql, [.text table, .text name]⟩ = .ok []) Draft.IsUntouched 1
        ((ColumnDraft.load table name).run catalog) ∧
      LoadAccount catalog (Constraint.firstQuery table name)
        (Constraint.IsAbsentIn catalog table name) (Constraint.IsUntouched name) 4
        ((Constraint.load table name).run catalog) ∧
      LoadAccount catalog ⟨User.catalogSql, [.text name]⟩
        (catalog ⟨User.catalogSql, [.text name]⟩ = .ok []) Draft.IsUntouched 2
        ((UserDraft.load name).run catalog) ∧
      LoadAccount catalog ⟨Package.catalogSql, [.text name]⟩
        (catalog ⟨Package.catalogSql, [.text name]⟩ = .ok [])
        (fun p => p.existing = true ∧ p.name = name) 1
        ((Package.load name).run catalog) :=
  ⟨ColumnDraft.ending_load.account head?_queries_loadRows
      (fun _ => ColumnDraft.isUntouched_of_load) (ColumnDraft.asksAtMost_load catalog),
    Constraint.ending_load.account head?_queries_loadRows
      (fun _ => Constraint.isUntouched_of_load) (Constraint.asksAtMost_load catalog),
    UserDraft.ending_load.account head?_queries_loadRows
      (fun _ => UserDraft.isUntouched_of_load) (UserDraft.asksAtMost_load catalog),
    Package.ending_load.account head?_queries_loadRows
      (fun _ => Package.existing_of_load) (Package.asksAtMost_load catalog)⟩

/-- A user whose tags cannot be read is not taken for a user without tags. -/
example :
    let catalog : Catalog := fun query =>
      if query.sql = User.tagsSql then .error (.timeout "no answer")
      else .ok [⟨["SEC$PLUGIN"], [.text "Srp"]⟩]
    (UserDraft.load "ANN").run catalog =
      ⟨.error (.catalog (.timeout "no answer")),
        [⟨User.catalogSql, [.text "ANN"]⟩, ⟨User.tagsSql, [.text "ANN", .text "Srp"]⟩]⟩ := by
  rfl

end SchemaChange

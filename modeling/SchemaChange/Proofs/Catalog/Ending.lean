import SchemaChange.Proofs.Catalog.Lookup

/-!
# Proofs.Catalog.Ending — how loading ends

A failed query is the last one that is asked, and it is told. Where every query was answered the
object is found unless it is absent. Both go from the steps of a loader to the loader as a whole.

- `Catalog.Answers`  : a catalog answers a query
- `Ending`           : how the run of a loader ends
- `Ending.bind`, `ending_row` : one step after another
- `Lookup.AsksAtMost`, `Lookup.asksAtMost_row` : how many queries a lookup asks
-/

namespace SchemaChange

/-- The catalog answers the query with rows, be it none. -/
def Catalog.Answers (catalog : Catalog) (query : Catalog.Query) : Prop :=
  ∃ rows, catalog query = .ok rows

theorem Catalog.not_answers_of_error {catalog : Catalog} {query : Catalog.Query}
    {failure : Catalog.Failure} (refused : catalog query = .error failure) :
    ¬catalog.Answers query := by
  rintro ⟨rows, answer⟩
  rw [refused] at answer
  cases answer

theorem Catalog.not_exists_error_of_answers {catalog : Catalog} {queries : List Catalog.Query}
    (answered : ∀ query ∈ queries, catalog.Answers query) :
    ¬∃ query ∈ queries, ∃ failure, catalog query = .error failure := by
  rintro ⟨query, issued, failure, refused⟩
  exact not_answers_of_error refused (answered query issued)

theorem Catalog.not_empty_of_row {catalog : Catalog} {query : Catalog.Query} {row : Catalog.Row}
    {rest : List Catalog.Row} (answer : catalog query = .ok (row :: rest)) :
    ¬catalog query = .ok [] := by
  intro none
  rw [answer] at none
  cases none

/-- How the run of a loader ends: with a result, unless what it looks for is absent, with the notice
that it is absent, or with the failure of the last query. -/
inductive Ending {α : Type} (catalog : Catalog) (absent : Prop) :
    Catalog.Outcome LoadProblem α → Prop
  | found {a : α} {queries : List Catalog.Query}
      (answered : ∀ query ∈ queries, catalog.Answers query) (present : ¬absent) :
      Ending catalog absent ⟨.ok a, queries⟩
  | notFound {kind name : String} {queries : List Catalog.Query}
      (answered : ∀ query ∈ queries, catalog.Answers query) (gone : absent) :
      Ending catalog absent ⟨.error (.notFound kind name), queries⟩
  | failed {queries : List Catalog.Query} {last : Catalog.Query} {failure : Catalog.Failure}
      (answered : ∀ query ∈ queries, catalog.Answers query)
      (refused : catalog last = .error failure) :
      Ending catalog absent ⟨.error (.catalog failure), queries ++ [last]⟩

section Steps

variable {α β : Type} {catalog : Catalog} {absent : Prop}

/-! ## Steps of loaders -/

theorem ending_done {a : α} (present : ¬absent) :
    Ending catalog absent ((Lookup.done a).run catalog) :=
  .found (List.forall_mem_nil _) present

theorem ending_pure {a : α} (present : ¬absent) :
    Ending catalog absent ((pure a : Lookup LoadProblem α).run catalog) :=
  ending_done present

theorem ending_notFound {kind name : String} (gone : absent) :
    Ending catalog absent ((Lookup.fail (.notFound kind name) : Lookup LoadProblem α).run catalog) :=
  .notFound (List.forall_mem_nil _) gone

theorem ending_loadRows (sql : String) (params : List String) :
    Ending catalog False ((loadRows sql params).run catalog) := by
  unfold loadRows
  cases answer : catalog ⟨sql, params.map .text⟩ with
  | ok rows =>
      rw [Lookup.run_ask_of_ok answer]
      exact .found (List.forall_mem_singleton.2 ⟨rows, answer⟩) id
  | error failure =>
      rw [Lookup.run_ask_of_error answer, ← List.nil_append [_]]
      exact .failed (List.forall_mem_nil _) answer

theorem ending_headRow {kind name : String} (rows : List Catalog.Row) :
    Ending catalog (rows = []) ((headRow kind name rows).run catalog) := by
  cases rows with
  | nil => exact ending_notFound rfl
  | cons row rest => exact ending_done (List.cons_ne_nil row rest)

theorem Ending.congr {missed : Prop} {outcome : Catalog.Outcome LoadProblem α}
    (h : Ending catalog missed outcome) (same : missed ↔ absent) : Ending catalog absent outcome :=
  propext same ▸ h

/-! ## Steps in a row -/

/-- A run that goes on behind answered queries ends as its last part does. -/
theorem Ending.behind {queries : List Catalog.Query}
    (answered : ∀ query ∈ queries, catalog.Answers query)
    {later : Catalog.Outcome LoadProblem α} (h : Ending catalog absent later) :
    Ending catalog absent ⟨later.result, queries ++ later.queries⟩ := by
  cases h with
  | found answered' present => exact .found (List.forall_mem_append.2 ⟨answered, answered'⟩) present
  | notFound answered' gone => exact .notFound (List.forall_mem_append.2 ⟨answered, answered'⟩) gone
  | failed answered' refused =>
      rw [← List.append_assoc]
      exact .failed (List.forall_mem_append.2 ⟨answered, answered'⟩) refused

/-- Whatever is done with its rows, the first query is the first one that is asked. -/
theorem head?_queries_loadRows {sql : String} {params : List String}
    {next : List Catalog.Row → Lookup LoadProblem α} :
    ((loadRows sql params >>= next).run catalog).queries.head? = some ⟨sql, params.map .text⟩ := by
  unfold loadRows
  cases answer : catalog ⟨sql, params.map .text⟩ with
  | ok rows =>
      rw [Lookup.run_bind_of_ok (Lookup.run_ask_of_ok answer)]
      rfl
  | error failure =>
      rw [Lookup.run_bind_of_error (Lookup.run_ask_of_error answer)]
      rfl

/-- What the first step misses is missed by both, and what it finds is left to the second. -/
theorem Ending.bind {x : Lookup LoadProblem α} {next : α → Lookup LoadProblem β} {missed : Prop}
    (h : Ending catalog missed (x.run catalog)) (gone : missed → absent)
    (later : ∀ a, x.Finds catalog a → ¬missed → Ending catalog absent ((next a).run catalog)) :
    Ending catalog absent ((x >>= next).run catalog) := by
  generalize outcome : x.run catalog = first at h
  cases h with
  | @found a queries answered present =>
      rw [Lookup.run_bind_of_ok outcome]
      have finds : x.Finds catalog a := by rw [Lookup.Finds, outcome]
      exact (later a finds present).behind answered
  | notFound answered missing =>
      rw [Lookup.run_bind_of_error outcome]
      exact .notFound answered (gone missing)
  | failed answered refused =>
      rw [Lookup.run_bind_of_error outcome]
      exact .failed answered refused

/-- The description of an object begins with the first row of an answer. -/
theorem ending_row {sql kind name : String} {params : List String}
    {next : Catalog.Row → Lookup LoadProblem α}
    (gone : catalog ⟨sql, params.map .text⟩ = .ok [] → absent)
    (later : ∀ row rest, catalog ⟨sql, params.map .text⟩ = .ok (row :: rest) →
      Ending catalog absent ((next row).run catalog)) :
    Ending catalog absent
      ((loadRows sql params >>= fun rows => headRow kind name rows >>= next).run catalog) := by
  refine (ending_loadRows sql params).bind False.elim fun rows asked _ => ?_
  have answer := finds_loadRows.1 asked
  refine (ending_headRow rows).bind (fun none => gone (none ▸ answer)) fun row first _ => ?_
  rcases List.head?_eq_some_iff.1 (finds_headRow.1 first) with ⟨rest, rfl⟩
  exact later row rest answer

end Steps

/-! ## Numbers of queries -/

namespace Lookup

variable {ε α β : Type} {n m : Nat}

/-- Whatever the answers are, the lookup asks no more queries. -/
def AsksAtMost (n : Nat) (x : Lookup ε α) : Prop :=
  ∀ catalog, (x.run catalog).queries.length ≤ n

theorem asksAtMost_done (a : α) : AsksAtMost 0 (done a : Lookup ε α) :=
  fun _ => Nat.le_refl 0

theorem asksAtMost_pure (a : α) : AsksAtMost 0 (pure a : Lookup ε α) :=
  asksAtMost_done a

theorem asksAtMost_fail (e : ε) : AsksAtMost 0 (fail e : Lookup ε α) :=
  fun _ => Nat.le_refl 0

theorem asksAtMost_loadRows (sql : String) (params : List String) :
    AsksAtMost 1 (loadRows sql params) :=
  fun _ => Nat.le_refl 1

theorem asksAtMost_headRow (kind name : String) (rows : List Catalog.Row) :
    AsksAtMost 0 (headRow kind name rows) := by
  cases rows with
  | nil => exact asksAtMost_fail _
  | cons row rest => exact asksAtMost_done row

theorem AsksAtMost.mono {x : Lookup ε α} (h : AsksAtMost n x) (le : n ≤ m) : AsksAtMost m x :=
  fun catalog => (h catalog).trans le

theorem AsksAtMost.bind {x : Lookup ε α} {next : α → Lookup ε β} (h : AsksAtMost n x)
    (later : ∀ a, AsksAtMost m (next a)) : AsksAtMost (n + m) (x >>= next) := by
  intro catalog
  have first := h catalog
  cases outcome : x.run catalog with
  | mk result queries =>
      rw [outcome] at first
      cases result with
      | error e =>
          rw [run_bind_of_error outcome]
          exact first.trans (Nat.le_add_right n m)
      | ok a =>
          rw [run_bind_of_ok outcome, List.length_append]
          exact Nat.add_le_add first (later a catalog)

/-- The row that the description of an object begins with takes one query. -/
theorem asksAtMost_row {sql kind name : String} {params : List String}
    {next : Catalog.Row → Lookup LoadProblem α} (later : ∀ row, AsksAtMost m (next row)) :
    AsksAtMost (1 + m) (loadRows sql params >>= fun rows => headRow kind name rows >>= next) := by
  refine (asksAtMost_loadRows sql params).bind fun rows => ?_
  exact ((asksAtMost_headRow kind name rows).bind later).mono (Nat.le_of_eq (Nat.zero_add m))

end Lookup
end SchemaChange

import SchemaChange.Catalog.Lookup
import SchemaChange.Proofs.Text.Trim

/-!
# Proofs.Catalog.Lookup — lookups that come to a result

A lookup comes to a result if each of its steps does. What a step asks is answered by the catalog
alone, so the result is known as soon as the answers are.

- `Lookup.Finds`      : a lookup comes to a result
- `Lookup.finds_bind` : one step after another
- `Lookup.run_bind_of_ok`, `Lookup.run_bind_of_error` : the same, with the queries
- `finds_row`         : the row that a description begins with
- `Row.text?_eq_some` : texts of a row are trimmed and not empty
- `Catalog.ofAnswers` : a catalog with a few answers
-/

namespace SchemaChange
namespace Lookup

variable {ε α β : Type} {x : Lookup ε α} {catalog : Catalog}

/-- The lookup comes to the result. -/
def Finds (x : Lookup ε α) (catalog : Catalog) (a : α) : Prop :=
  (x.run catalog).result = .ok a

theorem finds_done {a b : α} : (done a : Lookup ε α).Finds catalog b ↔ a = b := by
  simp [Finds, run, done]

theorem finds_pure {a b : α} : (pure a : Lookup ε α).Finds catalog b ↔ a = b :=
  finds_done

theorem not_finds_fail {e : ε} {a : α} : ¬(fail e : Lookup ε α).Finds catalog a := by
  simp [Finds, run, fail]

theorem finds_bind {next : α → Lookup ε β} {b : β} :
    (x >>= next).Finds catalog b ↔ ∃ a, x.Finds catalog a ∧ (next a).Finds catalog b := by
  have step : (x >>= next).run catalog = x.andThen next catalog := rfl
  unfold Finds
  rw [step, andThen]
  unfold run
  -- Either the first step ends the run, or the second one goes on with its result.
  rcases x catalog with ⟨_ | a, queries⟩
  · simp
  · simp

/-! ### Runs with their queries -/

variable {queries : List Catalog.Query} {next : α → Lookup ε β}

theorem run_bind_of_ok {a : α} (h : x.run catalog = ⟨.ok a, queries⟩) :
    (x >>= next).run catalog =
      ⟨((next a).run catalog).result, queries ++ ((next a).run catalog).queries⟩ := by
  have step : (x >>= next).run catalog = x.andThen next catalog := rfl
  rw [step, andThen, show x catalog = _ from h]
  rfl

theorem run_bind_of_error {e : ε} (h : x.run catalog = ⟨.error e, queries⟩) :
    (x >>= next).run catalog = ⟨.error e, queries⟩ := by
  have step : (x >>= next).run catalog = x.andThen next catalog := rfl
  rw [step, andThen, show x catalog = _ from h]

theorem run_ask_of_ok {onFailure : Catalog.Failure → ε} {query : Catalog.Query}
    {rows : List Catalog.Row} (answer : catalog query = .ok rows) :
    (ask onFailure query).run catalog = ⟨.ok rows, [query]⟩ := by
  rw [run, ask, answer]
  rfl

theorem run_ask_of_error {onFailure : Catalog.Failure → ε} {query : Catalog.Query}
    {failure : Catalog.Failure} (answer : catalog query = .error failure) :
    (ask onFailure query).run catalog = ⟨.error (onFailure failure), [query]⟩ := by
  rw [run, ask, answer]
  rfl

end Lookup

/-! ## Steps of loaders -/

theorem finds_loadRows {catalog : Catalog} {sql : String} {params : List String}
    {rows : List Catalog.Row} :
    (loadRows sql params).Finds catalog rows ↔ catalog ⟨sql, params.map .text⟩ = .ok rows := by
  unfold loadRows Lookup.Finds Lookup.run Lookup.ask
  cases catalog ⟨sql, params.map .text⟩ with
  | error failure => simp [Except.mapError]
  | ok answer => simp [Except.mapError]

theorem finds_headRow {catalog : Catalog} {kind name : String} {rows : List Catalog.Row}
    {row : Catalog.Row} : (headRow kind name rows).Finds catalog row ↔ rows.head? = some row := by
  cases rows with
  | nil => simp [headRow, Lookup.not_finds_fail]
  | cons first rest => simp [headRow, Lookup.finds_done]

/-- What is found behind the first row of an answer is found in that row. -/
theorem finds_row {α : Type} {catalog : Catalog} {sql kind name : String} {params : List String}
    {next : Catalog.Row → Lookup LoadProblem α} {a : α} :
    (loadRows sql params >>= fun rows => headRow kind name rows >>= next).Finds catalog a ↔
      ∃ row rest, catalog ⟨sql, params.map .text⟩ = .ok (row :: rest) ∧
        (next row).Finds catalog a := by
  constructor
  · intro h
    rcases Lookup.finds_bind.1 h with ⟨rows, asked, behindRows⟩
    rcases Lookup.finds_bind.1 behindRows with ⟨row, first, found⟩
    rcases List.head?_eq_some_iff.1 (finds_headRow.1 first) with ⟨rest, rfl⟩
    exact ⟨row, rest, finds_loadRows.1 asked, found⟩
  · rintro ⟨row, rest, answer, found⟩
    refine Lookup.finds_bind.2 ⟨row :: rest, finds_loadRows.2 answer, ?_⟩
    exact Lookup.finds_bind.2 ⟨row, finds_headRow.2 rfl, found⟩

namespace Catalog

theorem Row.text?_eq_some {row : Row} {column text : String} (h : row.text? column = some text) :
    Text.trim text = text ∧ text ≠ "" :=
  Text.nonBlank?_eq_some h

theorem Row.text?_of_text {row : Row} {column source : String}
    (stored : row.value? column = some (.text source)) (full : Text.isBlank source = false) :
    row.text? column = some (Text.trim source) := by
  rw [Row.text?, stored, Option.bind_some, Datum.text?, Text.nonBlank?_of_full full]

/-- A catalog that answers some queries and has no rows for all others. -/
def ofAnswers (answers : List (Query × List Row)) : Catalog :=
  fun query => .ok ((answers.lookup query).getD [])

theorem ofAnswers_cons_self (query : Query) (rows : List Row) (answers : List (Query × List Row)) :
    ofAnswers ((query, rows) :: answers) query = .ok rows := by
  rw [ofAnswers, List.lookup_cons_self]
  rfl

end Catalog
end SchemaChange

import SchemaChange.Catalog.Failure
import SchemaChange.Catalog.Row

/-!
# Catalog.Lookup — asking the system tables

A catalog answers a query with rows or fails. A lookup asks a catalog some queries, each of which
may depend on earlier answers, and ends with a result or an error; the queries it asked are part of
its outcome. A failed query ends the lookup.

- `Query`, `Catalog`       : what is asked, and who answers
- `Lookup`                 : a run of queries
- `ask`, `fail`, `recover` : its steps
-/

namespace SchemaChange

namespace Catalog

/-- A statement with the values of its parameters. -/
structure Query where
  sql : String
  params : List Datum
  deriving DecidableEq, Repr

end Catalog

/-- The answers of a database to queries on its system tables. -/
abbrev Catalog : Type :=
  Catalog.Query → Except Catalog.Failure (List Catalog.Row)

/-- What a run of queries comes to: a result or an error, and the queries in their order. -/
structure Catalog.Outcome (ε α : Type) where
  result : Except ε α
  queries : List Catalog.Query

/-- A run of queries on whichever catalog it is given. -/
def Lookup (ε α : Type) : Type :=
  Catalog → Catalog.Outcome ε α

namespace Lookup

variable {ε ε' α β : Type}

def run (x : Lookup ε α) (catalog : Catalog) : Catalog.Outcome ε α :=
  x catalog

/-- Ends without a query. -/
def done (a : α) : Lookup ε α :=
  fun _ => ⟨.ok a, []⟩

def fail (e : ε) : Lookup ε α :=
  fun _ => ⟨.error e, []⟩

/-- Goes on with the result; an error ends the run. -/
def andThen (x : Lookup ε α) (next : α → Lookup ε β) : Lookup ε β :=
  fun catalog =>
    match x catalog with
    | ⟨.error e, queries⟩ => ⟨.error e, queries⟩
    | ⟨.ok a, queries⟩ =>
        let later := next a catalog
        ⟨later.result, queries ++ later.queries⟩

instance : Monad (Lookup ε) where
  pure := done
  bind := andThen

/-- Asks one query; a failure becomes an error. -/
def ask (onFailure : Catalog.Failure → ε) (query : Catalog.Query) :
    Lookup ε (List Catalog.Row) :=
  fun catalog => ⟨(catalog query).mapError onFailure, [query]⟩

/-- Takes the fallback for the result of a run that ends with an error. -/
def recover (x : Lookup ε α) (fallback : α) : Lookup ε' α :=
  fun catalog =>
    match x catalog with
    | ⟨.error _, queries⟩ => ⟨.ok fallback, queries⟩
    | ⟨.ok a, queries⟩ => ⟨.ok a, queries⟩

end Lookup

/-! ## Loading -/

/-- Why the description of an object could not be loaded. -/
inductive LoadProblem
  | catalog (failure : Catalog.Failure)
  | notFound (kind name : String)
  deriving DecidableEq, Repr

def LoadProblem.message : LoadProblem → String
  | .catalog failure => "catalog query failed: " ++ failure.text
  | .notFound kind name => kind ++ " " ++ name ++ " not found"

/-- A query of a loader, with text parameters. -/
def loadRows (sql : String) (params : List String) : Lookup LoadProblem (List Catalog.Row) :=
  Lookup.ask LoadProblem.catalog ⟨sql, params.map .text⟩

/-- The first row of an answer; without one the object does not exist. -/
def headRow (kind name : String) : List Catalog.Row → Lookup LoadProblem Catalog.Row
  | [] => Lookup.fail (.notFound kind name)
  | row :: _ => Lookup.done row

end SchemaChange

import SchemaChange.Catalog.Failure
import SchemaChange.Script.Batch
import SchemaChange.Text.Digits

/-!
# Execution — running a batch against a database

The statements of a batch are executed one after the other. The first one that fails stops the run;
those behind it are skipped, those before it stay done.

- `Reply`, `Server`   : what a database does with a statement
- `StatementReport`   : what became of one statement
- `Execution.ofBatch` : the run, with the statements that reached the database
- `Reports.statusCount`, `Reports.stoppedBy?`, … : summaries of reports
-/

namespace SchemaChange

/-- What a database does with a statement. It may fail to finish one within the time that statements
are given; a run without a time limit waits for every statement. -/
inductive Reply
  | completed (affectedRows : Nat)
  | refused (message : String)
  | failed (failure : Catalog.Failure)
  | overdue
  deriving DecidableEq, Repr

/-- The reply to a statement, given the statements executed before it. -/
abbrev Server : Type :=
  List String → String → Reply

/-! ## Reports -/

inductive Status
  | success
  | failed
  | skipped
  deriving DecidableEq, Repr

def Status.word : Status → String
  | .success => "Success"
  | .failed => "Failed"
  | .skipped => "Skipped"

structure StatementFault where
  message : String
  code : Option String := none
  deriving DecidableEq, Repr

namespace StatementFault

/-- A timeout has a code and its bare message; other failures are told in full. -/
def ofFailure : Catalog.Failure → StatementFault
  | .timeout message => { message := message, code := some "timeout" }
  | failure => { message := failure.text }

/-- The limit is in milliseconds. -/
def overdue (limit : Nat) : StatementFault :=
  ofFailure (.timeout ("statement timed out after " ++ Text.decimal limit ++ " ms"))

def display (e : StatementFault) : String :=
  match e.code with
  | some code => "[" ++ code ++ "] " ++ e.message
  | none => e.message

end StatementFault

/-- What became of the statement at a position of the batch. -/
structure StatementReport where
  index : Nat
  sql : String
  status : Status
  affectedRows : Nat
  error : Option StatementFault
  deriving DecidableEq, Repr

namespace StatementReport

def success (index : Nat) (sql : String) (affectedRows : Nat) : StatementReport :=
  ⟨index, sql, .success, affectedRows, none⟩

def failure (index : Nat) (sql : String) (error : StatementFault) : StatementReport :=
  ⟨index, sql, .failed, 0, some error⟩

def skipped (index : Nat) (sql : String) : StatementReport :=
  ⟨index, sql, .skipped, 0, none⟩

/-- The report of a statement that reached the database. -/
def ofReply (limit index : Nat) (sql : String) : Reply → StatementReport
  | .completed affectedRows => success index sql affectedRows
  | .refused message => failure index sql { message := message }
  | .failed cause => failure index sql (StatementFault.ofFailure cause)
  | .overdue => failure index sql (StatementFault.overdue limit)

end StatementReport

/-- The reports on the statements of a batch, in their order. -/
abbrev Reports : Type := List StatementReport

/-! ## Runs -/

/-- The reports, and the statements that reached the database. -/
structure Execution where
  reports : Reports
  executed : List String
  deriving DecidableEq, Repr

namespace Execution

/-- Reports statements from a position on as skipped. -/
def skipAll (index : Nat) : List String → Reports
  | [] => []
  | sql :: rest => StatementReport.skipped index sql :: skipAll (index + 1) rest

/-- Runs the statements from a position on, behind those that were executed before. -/
def runFrom (limit : Nat) (server : Server) (index : Nat) (executed : List String) :
    List String → Execution
  | [] => ⟨[], executed⟩
  | sql :: rest =>
      let report := StatementReport.ofReply limit index sql (server executed sql)
      if report.error.isSome then
        ⟨report :: skipAll (index + 1) rest, executed ++ [sql]⟩
      else
        let later := runFrom limit server (index + 1) (executed ++ [sql]) rest
        ⟨report :: later.reports, later.executed⟩

/-- Runs a batch with a time limit for each statement in milliseconds; zero is no limit. -/
def ofBatch (limit : Nat) (server : Server) (batch : Script.Batch) : Execution :=
  runFrom limit server 0 [] batch.statements

end Execution

/-! ## Summaries -/

namespace Reports

def statusCount (reports : Reports) (status : Status) : Nat :=
  reports.countP fun report => report.status == status

/-- Nothing failed and nothing was skipped. -/
def isComplete (reports : Reports) : Bool :=
  reports.statusCount .failed == 0 && reports.statusCount .skipped == 0

def isStopped (reports : Reports) : Bool :=
  0 < reports.statusCount .failed

/-- The statement that stopped the run. -/
def stoppedBy? (reports : Reports) : Option StatementReport :=
  reports.find? fun report => report.status == .failed

/-- The rows affected by all statements. -/
def rowCount (reports : Reports) : Nat :=
  reports.foldr (fun report rows => report.affectedRows + rows) 0

end Reports
end SchemaChange

import Mathlib
import SchemaChange.Execution

/-!
# Proofs.Execution — what the reports of a run say

A run is retold as a relation that follows its statements: each of them is completed or stops the
run. All that reports and summaries say is read off that relation, by induction on it.

- `Outcome`         : a run, told with the rows of the statements that were completed
- `runFrom_outcome` : every run can be told that way
- `Account`         : what reports, trace and summaries say, taken together
- `ofBatch_account` : every run of a batch gives that account
-/

namespace SchemaChange

/-! ## Reports on one statement -/

namespace StatementReport

/-- A statement that is not completed fails, whatever kept it from being completed. -/
theorem ofReply_cases (limit index : Nat) (sql : String) (reply : Reply) :
    (∃ n, reply = .completed n ∧ ofReply limit index sql reply = success index sql n) ∨
      ((∀ n, reply ≠ .completed n) ∧
        ∃ fault, ofReply limit index sql reply = failure index sql fault) := by
  cases reply with
  | completed n =>
      exact .inl ⟨n, rfl, rfl⟩
  | refused message =>
      exact .inr ⟨by simp, _, rfl⟩
  | failed cause =>
      exact .inr ⟨by simp, _, rfl⟩
  | overdue =>
      exact .inr ⟨by simp, _, rfl⟩

/-- The error and the rows fit the status. -/
structure Sound (r : StatementReport) : Prop where
  error_iff : r.error.isSome ↔ r.status = .failed
  idle : r.status ≠ .success → r.affectedRows = 0

theorem sound_success (index : Nat) (sql : String) (n : Nat) : Sound (success index sql n) :=
  ⟨by simp [success], by simp [success]⟩

theorem sound_failure (index : Nat) (sql : String) (fault : StatementFault) :
    Sound (failure index sql fault) :=
  ⟨by simp [failure], by simp [failure]⟩

theorem sound_skipped (index : Nat) (sql : String) : Sound (skipped index sql) :=
  ⟨by simp [skipped], by simp [skipped]⟩

/-- The statement and its position in the batch. -/
def place (r : StatementReport) : String × Nat :=
  (r.sql, r.index)

end StatementReport

namespace Execution

open StatementReport (place)

/-! ## Skipped statements -/

theorem place_skipAll (index : Nat) (statements : List String) :
    (skipAll index statements).map place = statements.zipIdx index := by
  induction statements generalizing index with
  | nil => rfl
  | cons sql rest ih =>
      simp [skipAll, place, StatementReport.skipped, ih]

theorem status_skipAll (index : Nat) (statements : List String) :
    (skipAll index statements).map StatementReport.status =
      List.replicate statements.length .skipped := by
  induction statements generalizing index with
  | nil => rfl
  | cons sql rest ih =>
      simp [skipAll, StatementReport.skipped, ih, List.replicate_succ]

theorem affectedRows_skipAll (index : Nat) (statements : List String) :
    (skipAll index statements).map StatementReport.affectedRows =
      List.replicate statements.length 0 := by
  induction statements generalizing index with
  | nil => rfl
  | cons sql rest ih =>
      simp [skipAll, StatementReport.skipped, ih, List.replicate_succ]

theorem sound_skipAll (index : Nat) (statements : List String) :
    ∀ r ∈ skipAll index statements, r.Sound := by
  induction statements generalizing index with
  | nil => simp [skipAll]
  | cons sql rest ih =>
      intro r hr
      rcases List.mem_cons.1 hr with rfl | hr
      · exact StatementReport.sound_skipped index sql
      · exact ih (index + 1) r hr

/-! ## Runs, retold -/

/-- A run over the statements from a position on, behind those executed before. The row counts are
those of the statements that were completed. -/
inductive Outcome (server : Server) :
    Nat → List String → List String → List Nat → Execution → Prop
  | finished (index : Nat) (executed : List String) :
      Outcome server index executed [] [] ⟨[], executed⟩
  | stopped {index : Nat} {executed rest : List String} {sql : String} (fault : StatementFault) :
      (∀ n, server executed sql ≠ .completed n) →
      Outcome server index executed (sql :: rest) []
        ⟨StatementReport.failure index sql fault :: skipAll (index + 1) rest, executed ++ [sql]⟩
  | completed {index n : Nat} {executed rest : List String} {sql : String} {rows : List Nat}
      {later : Execution} :
      server executed sql = .completed n →
      Outcome server (index + 1) (executed ++ [sql]) rest rows later →
      Outcome server index executed (sql :: rest) (n :: rows)
        ⟨StatementReport.success index sql n :: later.reports, later.executed⟩

theorem runFrom_outcome (limit : Nat) (server : Server) (index : Nat)
    (executed statements : List String) :
    ∃ rows, Outcome server index executed statements rows
      (runFrom limit server index executed statements) := by
  induction statements generalizing index executed with
  | nil => exact ⟨[], .finished index executed⟩
  | cons sql rest ih =>
      rcases StatementReport.ofReply_cases limit index sql (server executed sql) with
        ⟨n, hreply, hreport⟩ | ⟨hreply, fault, hreport⟩
      · -- A report without an error lets the run go on behind it.
        rcases ih (index + 1) (executed ++ [sql]) with ⟨rows, later⟩
        refine ⟨n :: rows, ?_⟩
        simpa [runFrom, hreport, StatementReport.success] using Outcome.completed hreply later
      · have stopped : Outcome server index executed (sql :: rest) []
            ⟨StatementReport.failure index sql fault :: skipAll (index + 1) rest,
              executed ++ [sql]⟩ :=
          .stopped fault hreply
        exact ⟨[], by simpa [runFrom, hreport, StatementReport.failure] using stopped⟩

/-- The statuses of so many statements from the one that stopped the run on. -/
def stoppedStatuses : Nat → List Status
  | 0 => []
  | n + 1 => .failed :: List.replicate n .skipped

namespace Outcome

variable {server : Server} {index : Nat} {executed statements : List String} {rows : List Nat}
  {run : Execution}

theorem length_le (h : Outcome server index executed statements rows run) :
    rows.length ≤ statements.length := by
  induction h with
  | finished => simp
  | stopped => simp
  | completed _ _ ih => simpa using ih

theorem place_reports (h : Outcome server index executed statements rows run) :
    run.reports.map place = statements.zipIdx index := by
  induction h with
  | finished => rfl
  | stopped =>
      simp [place_skipAll, place, StatementReport.failure]
  | completed _ _ ih =>
      simp [ih, place, StatementReport.success]

theorem status_reports (h : Outcome server index executed statements rows run) :
    run.reports.map StatementReport.status =
      List.replicate rows.length .success ++
        stoppedStatuses (statements.length - rows.length) := by
  induction h with
  | finished => rfl
  | stopped =>
      simp [status_skipAll, stoppedStatuses, StatementReport.failure]
  | completed _ _ ih =>
      simp [ih, List.replicate_succ, StatementReport.success]

theorem affectedRows_reports (h : Outcome server index executed statements rows run) :
    run.reports.map StatementReport.affectedRows =
      rows ++ List.replicate (statements.length - rows.length) 0 := by
  induction h with
  | finished => rfl
  | stopped =>
      simp [affectedRows_skipAll, List.replicate_succ, StatementReport.failure]
  | completed _ _ ih =>
      simp [ih, StatementReport.success]

theorem sound_reports (h : Outcome server index executed statements rows run) :
    ∀ r ∈ run.reports, r.Sound := by
  induction h with
  | finished => simp
  | stopped fault _ =>
      intro r hr
      rcases List.mem_cons.1 hr with rfl | hr
      · exact StatementReport.sound_failure _ _ fault
      · exact sound_skipAll _ _ r hr
  | completed _ _ ih =>
      intro r hr
      rcases List.mem_cons.1 hr with rfl | hr
      · exact StatementReport.sound_success _ _ _
      · exact ih r hr

theorem executed_eq (h : Outcome server index executed statements rows run) :
    run.executed = executed ++ statements.take (rows.length + 1) := by
  induction h with
  | finished => simp
  | stopped => simp
  | completed _ _ ih => simp [ih]

theorem completes (h : Outcome server index executed statements rows run) :
    ∀ i n, rows[i]? = some n → ∃ sql, statements[i]? = some sql ∧
      server (executed ++ statements.take i) sql = .completed n := by
  induction h with
  | finished => simp
  | stopped => simp
  | @completed index n executed rest sql rows later hreply _ ih =>
      intro i m hm
      cases i with
      | zero =>
          have : n = m := by simpa using hm
          subst this
          exact ⟨sql, rfl, by simpa using hreply⟩
      | succ i =>
          rcases ih i m (by simpa using hm) with ⟨next, hnext, hserver⟩
          exact ⟨next, by simpa using hnext, by simpa using hserver⟩

theorem stops (h : Outcome server index executed statements rows run) :
    ∀ sql, statements[rows.length]? = some sql →
      ∀ n, server (executed ++ statements.take rows.length) sql ≠ .completed n := by
  induction h with
  | finished => simp
  | @stopped index executed rest sql fault hreply =>
      intro other hother
      have : sql = other := by simpa using hother
      subst this
      simpa using hreply
  | completed _ _ ih =>
      intro other hother
      simpa using ih other (by simpa using hother)

theorem stoppedBy?_reports (h : Outcome server index executed statements rows run) :
    run.reports.stoppedBy? = run.reports[rows.length]? := by
  induction h with
  | finished => rfl
  | stopped => rfl
  | completed _ _ ih => simpa [Reports.stoppedBy?, StatementReport.success] using ih

end Outcome

/-! ## Summaries -/

theorem statusCount_eq_count (reports : Reports) (status : Status) :
    reports.statusCount status = (reports.map StatementReport.status).count status := by
  simp [Reports.statusCount, List.count, List.countP_map, Function.comp_def]

/-- Every report counts once. -/
theorem statusCount_add (reports : Reports) :
    reports.statusCount .success + reports.statusCount .failed + reports.statusCount .skipped =
      reports.length := by
  simp only [statusCount_eq_count]
  induction reports with
  | nil => rfl
  | cons r rest ih =>
      cases hr : r.status <;> simp [hr] <;> omega

theorem rowCount_eq_sum (reports : Reports) :
    reports.rowCount = (reports.map StatementReport.affectedRows).sum := by
  induction reports with
  | nil => rfl
  | cons r rest ih =>
      rw [List.map_cons, List.sum_cons, ← ih]
      rfl

theorem count_stoppedStatuses_failed (n : Nat) :
    (stoppedStatuses n).count .failed = min n 1 := by
  cases n with
  | zero => rfl
  | succ n => simp [stoppedStatuses, List.count_replicate]

theorem count_stoppedStatuses_skipped (n : Nat) :
    (stoppedStatuses n).count .skipped = n - 1 := by
  cases n with
  | zero => rfl
  | succ n => simp [stoppedStatuses]

/-- Whatever is skipped stands behind a failure, so a run is complete unless something failed. -/
theorem Outcome.isComplete_iff {server : Server} {index : Nat}
    {executed statements : List String} {rows : List Nat} {run : Execution}
    (h : Outcome server index executed statements rows run) :
    run.reports.isComplete ↔ ∀ r ∈ run.reports, r.status ≠ .failed := by
  -- Of the statements that were not completed one failed; the others were skipped.
  have failed : run.reports.statusCount .failed = min (statements.length - rows.length) 1 := by
    simp [statusCount_eq_count, h.status_reports, count_stoppedStatuses_failed,
      List.count_replicate]
  have skipped : run.reports.statusCount .skipped = statements.length - rows.length - 1 := by
    simp [statusCount_eq_count, h.status_reports, count_stoppedStatuses_skipped,
      List.count_replicate]
  have none_failed :
      run.reports.statusCount .failed = 0 ↔ ∀ r ∈ run.reports, r.status ≠ .failed := by
    simp [Reports.statusCount, List.countP_eq_zero]
  rw [← none_failed, Reports.isComplete, failed, skipped]
  simp only [Bool.and_eq_true, beq_iff_eq]
  omega

/-! ## The account of a run -/

/-- All that is said of a run over statements of which `rows.length` were completed. -/
structure Account (server : Server) (statements : List String) (rows : List Nat)
    (run : Execution) : Prop where
  /-- There is one report for each statement, with its text and its position. -/
  placed : run.reports.map place = statements.zipIdx
  within : rows.length ≤ statements.length
  /-- The first statements were completed, each behind all before it. -/
  completes : ∀ i n, rows[i]? = some n → ∃ sql, statements[i]? = some sql ∧
    server (statements.take i) sql = .completed n
  /-- The one behind them, if there is one, was not. -/
  stops : ∀ sql, statements[rows.length]? = some sql →
    ∀ n, server (statements.take rows.length) sql ≠ .completed n
  statuses : run.reports.map StatementReport.status =
    List.replicate rows.length .success ++ stoppedStatuses (statements.length - rows.length)
  /-- Nothing behind the statement that stopped the run reached the database. -/
  executed : run.executed = statements.take (rows.length + 1)
  affected : run.reports.map StatementReport.affectedRows =
    rows ++ List.replicate (statements.length - rows.length) 0
  sound : ∀ r ∈ run.reports, r.Sound
  counts : run.reports.statusCount .success + run.reports.statusCount .failed +
    run.reports.statusCount .skipped = statements.length
  stoppedBy : run.reports.stoppedBy? = run.reports[rows.length]?
  complete : run.reports.isComplete ↔ ∀ r ∈ run.reports, r.status ≠ .failed
  rowCount : run.reports.rowCount = rows.sum

theorem Outcome.account {server : Server} {statements : List String} {rows : List Nat}
    {run : Execution} (h : Outcome server 0 [] statements rows run) :
    Account server statements rows run := by
  have length : run.reports.length = statements.length := by
    simpa using congrArg List.length h.place_reports
  exact
    { placed := h.place_reports
      within := h.length_le
      completes := by simpa using h.completes
      stops := by simpa using h.stops
      statuses := h.status_reports
      executed := by simpa using h.executed_eq
      affected := h.affectedRows_reports
      sound := h.sound_reports
      counts := by rw [statusCount_add, length]
      stoppedBy := h.stoppedBy?_reports
      complete := h.isComplete_iff
      rowCount := by simp [rowCount_eq_sum, h.affectedRows_reports] }

/-- Every run of a batch completes some first statements, is stopped by at most one more, and skips
the others; reports, trace and summaries agree on which. -/
theorem ofBatch_account (limit : Nat) (server : Server) (batch : Script.Batch) :
    ∃ rows, Account server batch.statements rows (ofBatch limit server batch) := by
  rcases runFrom_outcome limit server 0 [] batch.statements with ⟨rows, h⟩
  exact ⟨rows, h.account⟩

end Execution
end SchemaChange

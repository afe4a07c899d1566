import SchemaChange.Proofs.Refusal

/-!
# Proofs.Reason — reasons to refuse, in their order

Several things may stand in the way of statements at once, and the first of them is the one that is
told. What may stand in the way of a chain of steps are the reasons of its steps in a row, so a
chain is taken apart once and its reasons are read off.

- `Reason`      : something that may stand in the way, and its refusal
- `FirstReason` : of several reasons the first one that holds
- `RefusedFor`  : the reasons for which a computation is refused
- `RefusedFor.bind`, `RefusedFor.mapM` : the reasons of steps in a row
-/

namespace SchemaChange

/-- Something that may stand in the way, and how it is refused. -/
structure Reason where
  holds : Prop
  refusal : Refusal

/-- Of several reasons the first one that holds is told. -/
inductive FirstReason : List Reason → Refusal → Prop
  | here {reason : Reason} {rest : List Reason} (holds : reason.holds) :
      FirstReason (reason :: rest) reason.refusal
  | later {reason : Reason} {rest : List Reason} {r : Refusal} (free : ¬reason.holds)
      (first : FirstReason rest r) : FirstReason (reason :: rest) r

variable {reason : Reason} {reasons others : List Reason} {r : Refusal}

@[simp] theorem not_firstReason_nil : ¬FirstReason [] r := by
  rintro ⟨⟩

@[simp] theorem firstReason_cons :
    FirstReason (reason :: reasons) r ↔
      reason.holds ∧ reason.refusal = r ∨ ¬reason.holds ∧ FirstReason reasons r := by
  constructor
  · intro h
    cases h with
    | here holds => exact .inl ⟨holds, rfl⟩
    | later free first => exact .inr ⟨free, first⟩
  · rintro (⟨holds, rfl⟩ | ⟨free, first⟩)
    · exact .here holds
    · exact .later free first

theorem exists_firstReason_iff :
    (∃ r, FirstReason reasons r) ↔ ∃ reason ∈ reasons, reason.holds := by
  induction reasons with
  | nil => simp
  | cons reason rest ih =>
      by_cases holds : reason.holds
      · simp [holds]
      · simp [holds, ih]

/-- Reasons behind others count where none of the others holds. -/
theorem firstReason_append :
    FirstReason (reasons ++ others) r ↔
      FirstReason reasons r ∨ (∀ reason ∈ reasons, ¬reason.holds) ∧ FirstReason others r := by
  induction reasons with
  | nil => simp
  | cons reason rest ih =>
      by_cases holds : reason.holds
      · simp [holds]
      · simp [holds, ih]

theorem FirstReason.exists_mem (h : FirstReason reasons r) :
    ∃ reason ∈ reasons, reason.holds ∧ reason.refusal = r := by
  induction h with
  | here holds => exact ⟨_, List.mem_cons_self, holds, rfl⟩
  | later _ _ ih =>
      rcases ih with ⟨reason, mem, told⟩
      exact ⟨reason, List.mem_cons_of_mem _ mem, told⟩

/-- Where all reasons that hold are refused alike, their order does not matter. -/
theorem firstReason_iff_of_alike {refusal : Refusal}
    (alike : ∀ reason ∈ reasons, reason.holds → reason.refusal = refusal) :
    FirstReason reasons r ↔ (∃ reason ∈ reasons, reason.holds) ∧ refusal = r := by
  constructor
  · intro first
    rcases first.exists_mem with ⟨reason, mem, holds, rfl⟩
    exact ⟨⟨reason, mem, holds⟩, (alike reason mem holds).symm⟩
  · rintro ⟨held, rfl⟩
    rcases exists_firstReason_iff.2 held with ⟨r, first⟩
    rcases first.exists_mem with ⟨reason, mem, holds, rfl⟩
    rwa [alike reason mem holds] at first

/-! ## Steps -/

section Steps

variable {α β : Type} {x : Except Refusal α}

/-- The computation is refused for the first of the reasons that holds, and for nothing else. -/
def RefusedFor (x : Except Refusal α) (reasons : List Reason) : Prop :=
  ∀ r, x = .error r ↔ FirstReason reasons r

theorem refusedFor_ok (a : α) : RefusedFor (.ok a) [] := by
  intro r
  simp

/-- A step that is refused in one case only. -/
theorem refusedFor_singleton {p : Prop} {refusal : Refusal} (refused : p → x = .error refusal)
    (written : ¬p → ∃ a, x = .ok a) : RefusedFor x [⟨p, refusal⟩] := by
  intro r
  by_cases holds : p
  · simp [holds, refused holds]
  · rcases written holds with ⟨a, rfl⟩
    simp [holds]

namespace RefusedFor

theorem congr (h : RefusedFor x reasons)
    (same : ∀ r, FirstReason reasons r ↔ FirstReason others r) : RefusedFor x others :=
  fun r => (h r).trans (same r)

/-- What is not refused has a result. -/
theorem succeeds (h : RefusedFor x reasons) :
    (∃ a, x = .ok a) ↔ ∀ reason ∈ reasons, ¬reason.holds := by
  have refused : (∃ r, x = .error r) ↔ ∃ reason ∈ reasons, reason.holds := by
    rw [← exists_firstReason_iff]
    exact exists_congr h
  cases x with
  | error r =>
      rcases refused.1 ⟨r, rfl⟩ with ⟨reason, mem, holds⟩
      exact ⟨nofun, fun free => absurd holds (free reason mem)⟩
  | ok a =>
      refine ⟨fun _ reason mem holds => ?_, fun _ => ⟨a, rfl⟩⟩
      rcases refused.2 ⟨reason, mem, holds⟩ with ⟨r, error⟩
      cases error

theorem map (h : RefusedFor x reasons) (f : α → β) : RefusedFor (x.map f) reasons :=
  fun r => map_eq_error.trans (h r)

/-- A check goes before what is checked behind it. -/
theorem check {p : Prop} [Decidable p] (refusal : Refusal) (h : RefusedFor x reasons) :
    RefusedFor (if p then .error refusal else x) (⟨p, refusal⟩ :: reasons) := by
  intro r
  by_cases holds : p
  · simp [holds]
  · simp [holds, h r]

/-- The reasons of a step go before those of the steps behind it. -/
theorem bind {f : α → Except Refusal β} (h : RefusedFor x reasons)
    (behind : ∀ a, x = .ok a → RefusedFor (f a) others) :
    RefusedFor (x >>= f) (reasons ++ others) := by
  intro r
  rw [bind_eq_error, firstReason_append, h r]
  refine or_congr_right ?_
  constructor
  · rintro ⟨a, ha, refused⟩
    exact ⟨h.succeeds.1 ⟨a, ha⟩, (behind a ha r).1 refused⟩
  · rintro ⟨free, first⟩
    rcases h.succeeds.2 free with ⟨a, ha⟩
    exact ⟨a, ha, (behind a ha r).2 first⟩

/-- The entries of a list are gone through in their order. -/
theorem mapM {f : α → Except Refusal β} {reasonsOf : α → List Reason} {xs : List α}
    (h : ∀ a ∈ xs, RefusedFor (f a) (reasonsOf a)) :
    RefusedFor (xs.mapM f) (xs.flatMap reasonsOf) := by
  induction xs with
  | nil => exact refusedFor_ok []
  | cons a xs ih =>
      rcases List.forall_mem_cons.1 h with ⟨first, later⟩
      rw [List.mapM_cons, List.flatMap_cons]
      refine first.bind fun b _ => ?_
      have rest := (ih later).bind fun bs _ => refusedFor_ok (b :: bs)
      rwa [List.append_nil] at rest

end RefusedFor

theorem refusedFor_demand (field : Field) (value : Option String) :
    RefusedFor (demand field value) [⟨Text.nonBlank? value = none, .missing field⟩] := by
  intro r
  simp [demand_eq_error]

theorem refusedFor_demand_some (field : Field) (value : String) :
    RefusedFor (demand field (some value)) [⟨Text.isBlank value = true, .missing field⟩] := by
  intro r
  simp [demand_some_eq_error]

end Steps

end SchemaChange

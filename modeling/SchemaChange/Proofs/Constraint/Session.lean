import SchemaChange.Proofs.Constraint.Refusal
import SchemaChange.Proofs.Naming

/-!
# Proofs.Constraint.Session — the names of a constraint while it is edited

An existing constraint is dropped by the name it had when editing began, whatever it is called
later. A name that was given by hand stays, and the catalog is asked for one only while there is
none.

- `Constraint.NameSearch` : what a search for a name comes to
- `Constraint.Step`       : a step of an editing session
- `Constraint.keeps_apply`, `Constraint.keeps_session` : what no step changes
- `Constraint.dropsByInitialName_of_session` : the names in a session, and behind it
-/

namespace SchemaChange

/-- The result of a run that cannot fail. -/
def Catalog.Outcome.value {α : Type} (outcome : Catalog.Outcome Empty α) : α :=
  match outcome.result with
  | .ok a => a
  | .error impossible => impossible.elim

/-! ## Searching for a name -/

namespace NameRequest

variable {ε : Type} {r : NameRequest} {catalog : Catalog}

theorem run_freshOrEmpty_of_ok {rows : List Catalog.Row} (answer : catalog r.query = .ok rows) :
    (r.freshOrEmpty : Lookup ε String).run catalog = ⟨.ok (r.nameFor rows), [r.query]⟩ := by
  have found : r.fresh.run catalog = ⟨.ok (r.nameFor rows), [r.query]⟩ :=
    Lookup.run_bind_of_ok (Lookup.run_ask_of_ok answer)
  rw [freshOrEmpty, Lookup.run, Lookup.recover, show r.fresh catalog = _ from found]

theorem run_freshOrEmpty_of_error {failure : Catalog.Failure}
    (answer : catalog r.query = .error failure) :
    (r.freshOrEmpty : Lookup ε String).run catalog = ⟨.ok "", [r.query]⟩ := by
  have ended : r.fresh.run catalog = ⟨.error ⟨r.stem, failure⟩, [r.query]⟩ :=
    Lookup.run_bind_of_error (Lookup.run_ask_of_error answer)
  rw [freshOrEmpty, Lookup.run, Lookup.recover, show r.fresh catalog = _ from ended]

end NameRequest

namespace Constraint

open Script (Batch)

/-- What the search for a name comes to: the constraint with a name or without one, and the queries
that were asked. Nothing but the name changes, and the catalog is asked once or not at all. -/
inductive NameSearch {ε : Type} (c : Constraint) (catalog : Catalog) :
    Catalog.Outcome ε Constraint → Prop
  | kept (named : c.nameByHand = true ∨ Text.isBlank c.name = false) :
      NameSearch c catalog ⟨.ok c, []⟩
  | generated {rows : List Catalog.Row} (byHand : c.nameByHand = false)
      (blank : Text.isBlank c.name = true) (answer : catalog c.wantedName.query = .ok rows) :
      NameSearch c catalog
        ⟨.ok { c with name := c.wantedName.nameFor rows }, [c.wantedName.query]⟩
  | failed {failure : Catalog.Failure} (byHand : c.nameByHand = false)
      (blank : Text.isBlank c.name = true) (answer : catalog c.wantedName.query = .error failure) :
      NameSearch c catalog ⟨.ok { c with name := "" }, [c.wantedName.query]⟩

theorem run_ensureName_of_isNamed {ε : Type} {c : Constraint} (named : c.isNamed = true)
    (catalog : Catalog) : (c.ensureName : Lookup ε Constraint).run catalog = ⟨.ok c, []⟩ := by
  rw [ensureName, if_pos named]
  rfl

theorem nameSearch_ensureName (ε : Type) (c : Constraint) (catalog : Catalog) :
    NameSearch c catalog ((c.ensureName : Lookup ε Constraint).run catalog) := by
  cases byHand : c.nameByHand with
  | true =>
      have named : c.isNamed = true := by simp [isNamed, byHand]
      rw [run_ensureName_of_isNamed named]
      exact .kept (.inl byHand)
  | false =>
      cases blank : Text.isBlank c.name with
      | false =>
          have named : c.isNamed = true := by simp [isNamed, blank]
          rw [run_ensureName_of_isNamed named]
          exact .kept (.inr blank)
      | true =>
          have unnamed : ¬c.isNamed = true := by simp [isNamed, byHand, blank]
          rw [ensureName, if_neg unnamed]
          cases answer : catalog c.wantedName.query with
          | ok rows =>
              rw [Lookup.run_bind_of_ok (NameRequest.run_freshOrEmpty_of_ok answer)]
              exact .generated byHand blank answer
          | error failure =>
              rw [Lookup.run_bind_of_ok (NameRequest.run_freshOrEmpty_of_error answer)]
              exact .failed byHand blank answer

/-! ## Sessions -/

/-- A step of an editing session: an edit, or the search for a name in the catalog as it is then. -/
inductive Step
  | edit (e : Edit)
  | ensureName (catalog : Catalog)

namespace Step

/-- What the step comes to; no step ends with an error. -/
def outcome (s : Step) (c : Constraint) : Catalog.Outcome Empty Constraint :=
  match s with
  | .edit e => ⟨.ok (e.apply c), []⟩
  | .ensureName catalog => c.ensureName.run catalog

/-- The constraint behind the step. -/
def apply (s : Step) (c : Constraint) : Constraint :=
  (s.outcome c).value

end Step

/-- The constraint behind steps one after the other. -/
def session (c : Constraint) (steps : List Step) : Constraint :=
  steps.foldl (fun c s => s.apply c) c

/-- What no step changes: that the constraint exists, its name when editing began, and that a name
was given by hand. -/
structure Keeps (c d : Constraint) : Prop where
  existing : d.existing = c.existing
  initialName : d.initialName = c.initialName
  nameByHand : c.nameByHand = true → d.nameByHand = true

theorem Keeps.refl (c : Constraint) : Keeps c c :=
  ⟨rfl, rfl, id⟩

theorem Keeps.trans {c d e : Constraint} (h : Keeps c d) (h' : Keeps d e) : Keeps c e :=
  ⟨h'.existing.trans h.existing, h'.initialName.trans h.initialName, h'.nameByHand ∘ h.nameByHand⟩

theorem keeps_edit (e : Edit) (c : Constraint) : Keeps c (e.apply c) := by
  cases e with
  | rename name => exact ⟨rfl, rfl, fun _ => rfl⟩
  | _ => exact ⟨rfl, rfl, id⟩

/-- Whether a name is found or not, a search sets the name and nothing else. -/
theorem NameSearch.keeps {c : Constraint} {catalog : Catalog}
    {outcome : Catalog.Outcome Empty Constraint} (h : NameSearch c catalog outcome) :
    Keeps c outcome.value := by
  cases h with
  | kept named => exact .refl c
  | generated byHand blank answer => exact ⟨rfl, rfl, id⟩
  | failed byHand blank answer => exact ⟨rfl, rfl, id⟩

theorem keeps_apply (s : Step) (c : Constraint) : Keeps c (s.apply c) := by
  cases s with
  | edit e => exact keeps_edit e c
  | ensureName catalog => exact (nameSearch_ensureName Empty c catalog).keeps

theorem keeps_session (steps : List Step) (c : Constraint) : Keeps c (c.session steps) := by
  induction steps generalizing c with
  | nil => exact .refl c
  | cons s rest ih => exact (keeps_apply s c).trans (ih (s.apply c))

theorem session_append (c : Constraint) (steps later : List Step) :
    c.session (steps ++ later) = (c.session steps).session later :=
  List.foldl_append

/-! ## Names in a session -/

/-- The name to drop an existing constraint by is the one it had when editing began. -/
theorem knownName_session {c : Constraint} (named : Text.isBlank c.name = false)
    (steps : List Step) : (c.asExisting.session steps).knownName = c.name := by
  have initialName := (keeps_session steps c.asExisting).initialName
  have begun : c.asExisting.initialName = some c.name := rfl
  unfold knownName
  rw [initialName, begun]
  exact if_neg (by rw [named]; exact Bool.false_ne_true)

/-- Once a name was given by hand it is not looked for. -/
theorem isNamed_session_of_rename (c : Constraint) (before after : List Step) (name : String) :
    (c.session (before ++ .edit (.rename name) :: after)).isNamed = true := by
  rw [session_append]
  have byHand := (keeps_session after (((c.session before).rename name))).nameByHand rfl
  have named : ((c.session before).session (.edit (.rename name) :: after)).nameByHand = true :=
    byHand
  rw [isNamed, named, Bool.true_or]

/-- An existing constraint is dropped by the name it had when editing began and added again,
whatever is done to it in between. Once a name was given by hand no search asks the catalog or
changes the constraint, and every other search does what is said of it. -/
theorem dropsByInitialName_of_session :
    (∀ (c : Constraint) (steps : List Step), Text.isBlank c.name = false →
      let d := c.asExisting.session steps
      d.knownName = c.name ∧
        ∀ b, d.toBatch = .ok b → ∃ dropped added,
          Drops (Text.trim d.table) (Text.trim c.name) dropped ∧
            Adds (Text.trim d.table) added ∧ b = Batch.ofStatements [dropped, added]) ∧
    (∀ (ε : Type) (c : Constraint) (before after : List Step) (name : String) (catalog : Catalog),
      let d := c.session (before ++ .edit (.rename name) :: after)
      (d.ensureName : Lookup ε Constraint).run catalog = ⟨.ok d, []⟩) ∧
    ∀ (ε : Type) (c : Constraint) (catalog : Catalog),
      NameSearch c catalog ((c.ensureName : Lookup ε Constraint).run catalog) := by
  refine ⟨?_, ?_, nameSearch_ensureName⟩
  · intro c steps named d
    have known : d.knownName = c.name := knownName_session named steps
    refine ⟨known, ?_⟩
    intro b written
    rcases toBatch_eq_ok.1 written with ⟨-, clause, dropped, -, hdropped, rfl⟩
    have existing : d.existing = true := (keeps_session steps c.asExisting).existing
    have drop := d.dropping_eq_ok hdropped
    rw [if_pos existing, known] at drop
    exact ⟨_, d.addStatement clause, rfl, d.adds_addStatement clause, by rw [drop]; rfl⟩
  · intro ε c before after name catalog d
    exact run_ensureName_of_isNamed (isNamed_session_of_rename c before after name) catalog

/-- A catalog that answers nothing. -/
def unreachableCatalog : Catalog :=
  fun _ => .error (.connection "gone")

/-- A constraint that is left without a name by hand is not given one, and is dropped by the name it
had, though it is of another kind now. -/
theorem dropsByInitialName_of_session_unnamed :
    let c : Constraint := { uniqueKey "T" ["CODE"] with name := "UQ_T_0 " }
    let steps : List Step := [.ensureName unreachableCatalog, .edit (.kind .primary)]
    let later : List Step := [.ensureName unreachableCatalog, .edit (.addColumn "ID ")]
    let d := c.asExisting.session (steps ++ .edit (.rename " ") :: later)
    let b := Batch.ofStatements
      ["ALTER TABLE T DROP CONSTRAINT UQ_T_0", "ALTER TABLE T ADD PRIMARY KEY (CODE, ID)"]
    (Text.isBlank c.name = false ∧ d.toBatch = .ok b) ∧
      d.knownName = "UQ_T_0 " ∧
      (∃ dropped added, Drops "T" "UQ_T_0" dropped ∧ Adds "T" added ∧
        b = Batch.ofStatements [dropped, added]) ∧
      (d.ensureName : Lookup Empty Constraint).run unreachableCatalog = ⟨.ok d, []⟩ ∧
      NameSearch (uniqueKey "T" ["CODE"]) unreachableCatalog
        (((uniqueKey "T" ["CODE"]).ensureName : Lookup Empty Constraint).run
          unreachableCatalog) := by
  intro c steps later d b
  rcases dropsByInitialName_of_session with ⟨drops, keeps, searches⟩
  have named : Text.isBlank c.name = false := by decide +kernel
  have written : d.toBatch = .ok b := by decide +kernel
  have trimmed : Text.trim d.table = "T" ∧ Text.trim c.name = "UQ_T_0" := by decide +kernel
  rcases drops c (steps ++ .edit (.rename " ") :: later) named with ⟨known, statements⟩
  have two := statements b written
  rw [trimmed.1, trimmed.2] at two
  exact ⟨⟨named, written⟩, known, two, keeps Empty c.asExisting steps later " " unreachableCatalog,
    searches Empty (uniqueKey "T" ["CODE"]) unreachableCatalog⟩

end Constraint
end SchemaChange

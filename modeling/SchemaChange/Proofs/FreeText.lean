import SchemaChange.Proofs.Column.FreeText
import SchemaChange.Proofs.User.FreeText

/-!
# Proofs.FreeText — free texts, created and edited

What is given for a password, for a name, for a comment or for a description is written as a literal
behind the same keyword, whether the object is created or edited. The two ways differ in the blanks
around the text: a new object is written without them, an edited one with them, and a password
without them in either way. So a text with no blanks around it is written as it is given, and one
with blanks by the edits alone.

- `TextPath`                         : the ways, with any values and among any edits
- `TextPath.literal_as_given`        : the literal of a text, and when it is the text
- `TextPath.paddedText_disagreement` : a text with a blank, written in both ways
-/

namespace SchemaChange

open Script (Batch)

theorem map_statements (x : Except Refusal (List String)) :
    (x.map Batch.ofStatements).map Batch.statements = x := by
  cases x <;> rfl

theorem UserDraft.statements_toBatch {d : UserDraft} (existing : d.existing = true) :
    d.toBatch.map Batch.statements = d.alteration := by
  rw [toBatch, if_pos existing, map_statements]

theorem ColumnDraft.statements_toBatch {d : ColumnDraft} (existing : d.existing = true) :
    d.toBatch.map Batch.statements = d.alteration := by
  rw [toBatch, if_pos existing, map_statements]

/-! ## Ways to the statements -/

/-- A way on which a free text reaches the statements: with the values of a new object, or by an
edit among others. -/
inductive TextPath
  | newUser (t : User.FreeText) (u : User)
  | editedUser (t : User.FreeText) (values : User) (before after : List User.Edit)
  | newColumn (c : Column)
  | editedColumn (values : Column) (before after : List Column.Edit)

namespace TextPath

/-- What is written if the text is given. -/
def statements (x : String) : TextPath → Except Refusal (List String)
  | .newUser t u => (UserDraft.toBatch (.ofNew ((t.edit x).apply u))).map Batch.statements
  | .editedUser t values before after =>
      (UserDraft.applyEdits (.ofExisting values) (before ++ t.edit x :: after)).toBatch.map
        Batch.statements
  | .newColumn c => (ColumnDraft.toBatch (.ofNew (c.described x))).map Batch.statements
  | .editedColumn values before after =>
      (ColumnDraft.applyEdits (.ofExisting values)
        (before ++ .description (some x) :: after)).toBatch.map Batch.statements

/-- The attribute is not edited again. -/
def IsLast : TextPath → Prop
  | .editedUser t _ _ after => ∀ e ∈ after, e.part ≠ t.part
  | .editedColumn _ _ after => ∀ e ∈ after, e.part ≠ .description
  | _ => True

/-- What stands in front of the literal. A column may have got another name. -/
def keyword : TextPath → String
  | .newUser t u => t.keyword u.name
  | .editedUser t values _ _ => t.keyword values.name
  | .newColumn c => c.commentHead
  | .editedColumn values before after =>
      (ColumnDraft.applyEdits (.ofExisting values) (before ++ after)).current.commentHead

/-- What the literal has of the text. -/
def form : TextPath → String → String
  | .editedUser t _ _ _ => t.kept
  | .editedColumn _ _ _ => id
  | _ => Text.trim

/-- The blanks around the text are written. -/
def KeepsBlanks : TextPath → Prop
  | .editedUser t _ _ _ => t ≠ .password
  | .editedColumn _ _ _ => True
  | _ => False

theorem form_eq_self_iff (p : TextPath) (x : String) :
    p.form x = x ↔ p.KeepsBlanks ∨ Text.trim x = x := by
  cases p with
  | newUser t u => simp [form, KeepsBlanks]
  | newColumn c => simp [form, KeepsBlanks]
  | editedColumn values before after => simp [form, KeepsBlanks]
  | editedUser t values before after =>
      cases t <;> simp [form, KeepsBlanks, User.FreeText.kept]

theorem writesText {p : TextPath} (last : p.IsLast) :
    WritesText p.keyword p.form p.statements := by
  cases p with
  | newUser t u => exact (User.writesText_creation t u).congr fun _ _ => map_statements _
  | newColumn c => exact c.writesText_creation.congr fun _ _ => map_statements _
  | editedUser t values before after =>
      let d := UserDraft.applyEdits (.ofExisting values) (before ++ after)
      have account : UserDraft.Account values true (before ++ after) d :=
        UserDraft.account_applyEdits values true (before ++ after)
      have texts := d.writesText_alteration t
      rw [account.name] at texts
      refine texts.congr ?_
      intro x _
      have own : ∀ e ∈ after, e.part ≠ (t.edit x).part := by
        rw [t.part_edit]
        exact last
      have moved : UserDraft.applyEdits (.ofExisting values) (before ++ t.edit x :: after) =
          d.applyEdit (t.edit x) := UserDraft.applyEdits_move values true before own
      rw [statements, moved]
      exact UserDraft.statements_toBatch account.existing
  | editedColumn values before after =>
      let d := ColumnDraft.applyEdits (.ofExisting values) (before ++ after)
      have account : ColumnDraft.Account values true (before ++ after) d :=
        ColumnDraft.account_applyEdits values true (before ++ after)
      refine d.writesText_alteration.congr ?_
      intro x _
      have own : ∀ e ∈ after, e.setter ≠ (Column.Edit.description (some x)).setter := by
        intro e mem same
        refine last e mem ?_
        rw [← e.part_setter, same]
        rfl
      have moved : ColumnDraft.applyEdits (.ofExisting values) (before ++ .description (some x) :: after) =
          d.applyEdit (.description (some x)) := ColumnDraft.applyEdits_move values true before own
      rw [statements, moved]
      exact ColumnDraft.statements_toBatch account.existing

/-! ## The literals -/

/-- Whatever the text, the same is written around its literal, or the same refusal is told. The
literal is the text as it is given if the blanks are kept or there are none around it, and in no
other case. -/
theorem literal_as_given (p : TextPath) (last : p.IsLast) :
    ∃ outcome : Except Refusal (Frame p.keyword), ∀ x, Text.isBlank x = false →
      p.statements x = outcome.map (fun frame => frame.fill (Sql.quoteText (p.form x))) ∧
      ∀ frame, outcome = .ok frame →
        (p.statements x = .ok (frame.fill (Sql.quoteText x)) ↔
          p.KeepsBlanks ∨ Text.trim x = x) := by
  rcases writesText last with ⟨outcome, written⟩
  refine ⟨outcome, fun x full => ⟨written x full, ?_⟩⟩
  rintro frame rfl
  have filled : p.statements x = .ok (frame.fill (Sql.quoteText (p.form x))) := written x full
  rw [filled, ← p.form_eq_self_iff x]
  constructor
  · intro same
    exact Frame.fill_quoteText_inj (Except.ok.inj same)
  · intro same
    rw [same]

/-- A first name among other edits is written with its blank. -/
theorem literal_as_given_padded :
    (∀ e ∈ [User.Edit.comment none], e.part ≠ .firstName) ∧ Text.isBlank " Ann" = false ∧
      ∃ frame : Frame " FIRSTNAME",
        statements " Ann" (.editedUser .firstName { name := "U" } [.admin true] [.comment none]) =
          .ok (frame.fill "' Ann'") := by
  let p : TextPath := .editedUser .firstName { name := "U" } [.admin true] [.comment none]
  have last : ∀ e ∈ [User.Edit.comment none], e.part ≠ .firstName := by decide
  have full : Text.isBlank " Ann" = false := by decide
  refine ⟨last, full, ?_⟩
  rcases literal_as_given p last with ⟨outcome, written⟩
  rcases written " Ann" full with ⟨same, asGiven⟩
  cases outcome with
  | ok frame => exact ⟨frame, (asGiven frame rfl).2 (.inl nofun)⟩
  | error r =>
      -- The user has a name, so nothing is refused.
      have accepted : (p.statements " Ann").toBool = true := by decide +kernel
      rw [same] at accepted
      cases accepted

/-- A new user and an existing one are given one first name and get two. The password is written
without its blank by both. -/
theorem paddedText_disagreement :
    Text.isBlank " Ann" = false ∧
      UserDraft.toBatch
          (.ofNew { name := "U", password := some "pw", firstName := some " Ann" }) =
        .ok (.ofStatements ["CREATE USER U PASSWORD 'pw' FIRSTNAME 'Ann' ACTIVE"]) ∧
      (UserDraft.applyEdits (.ofExisting { name := "U" }) [.firstName (some " Ann")]).toBatch =
        .ok (.ofStatements ["ALTER USER U SET FIRSTNAME ' Ann'"]) ∧
      (UserDraft.applyEdits (.ofExisting { name := "U" }) [.password " pw"]).toBatch =
        .ok (.ofStatements ["ALTER USER U SET PASSWORD 'pw'"]) := by
  decide +kernel

end TextPath
end SchemaChange

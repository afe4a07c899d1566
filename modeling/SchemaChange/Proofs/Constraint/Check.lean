import SchemaChange.Proofs.Constraint.Recreation
import SchemaChange.Proofs.Sql.Group

/-!
# Proofs.Constraint.Check — conditions that are added again

Loading takes one pair of parentheses off a condition, and writing adds one unless the condition is
taken for a group. The condition comes back whole, but where quotes hold parentheses it may be taken
for a group and is none, and then its own first parenthesis closes too soon.

- `Constraint.Rewrites`                 : what is written for a condition
- `Constraint.rewrites_of_load`         : a condition that is loaded and written
- `Constraint.quotedParentheses_escape` : a condition that is written as two groups
- `Constraint.LacksCondition`           : a source without a condition
-/

namespace SchemaChange
namespace Constraint

open Sql (identifier)
open Script (Batch)

/-- What is written for a condition: itself, in parentheses unless it is taken for a group. -/
structure Rewrites (condition written : String) : Prop where
  content : written = Text.trim condition ∨ written = "(" ++ Text.trim condition ++ ")"
  isOneGroup_iff : Sql.IsOneGroup written.toList ↔
    Sql.IsClosed condition.toList ∧
      (Sql.isGroup (Text.trim condition).toList = true →
        Sql.IsOneGroup (Text.trim condition).toList)
  isOneGroup_of_spares : Sql.IsClosed condition.toList →
    Sql.SparesQuotes .bare (Text.trim condition).toList → Sql.IsOneGroup written.toList

theorem rewrites_grouped (condition : String) : Rewrites condition (Sql.grouped condition) where
  content := by
    unfold Sql.grouped
    by_cases group : Sql.isGroup (Text.trim condition).toList = true
    · exact .inl (if_pos group)
    · exact .inr (if_neg group)
  isOneGroup_iff := Sql.isOneGroup_grouped
  isOneGroup_of_spares := by
    intro closed spares
    exact Sql.isOneGroup_grouped.2 ⟨closed, (Sql.isGroup_iff_of_spares spares).1⟩

/-! ## Loading -/

variable {catalog : Catalog} {table name source condition : String}
variable {row checkRow : Catalog.Row} {rest checkRest : List Catalog.Row}

theorem isKeyword_check : Text.IsKeyword "CHECK" :=
  ⟨by decide, by decide⟩

theorem conditionOfCheck_eq
    (behind : Text.IsBehind "CHECK" source ('(' :: (condition.toList ++ [')']))) :
    Text.isBlank source = false ∧
      conditionOfCheck (Text.trim source) = Text.trim condition := by
  have trimmed : Text.IsTrimmed ('(' :: (condition.toList ++ [')'])) :=
    Text.isTrimmed_between rfl rfl condition.toList
  rcases behind.found isKeyword_check trimmed (List.cons_ne_nil _ _) with
    ⟨full, rest, after, text⟩
  refine ⟨full, ?_⟩
  unfold conditionOfCheck
  simp only [after, text]
  rw [if_pos (Text.between_iff.2 ⟨condition.toList, rfl⟩), Text.between_content]
  rfl

theorem finds_loadCheck
    (answer : catalog ⟨checkSql, [.text name]⟩ = .ok (checkRow :: checkRest))
    (stored : checkRow.value? "RDB$TRIGGER_SOURCE" = some (.text source))
    (behind : Text.IsBehind "CHECK" source ('(' :: (condition.toList ++ [')']))) :
    (loadCheck table name).Finds catalog (checkOn table (Text.trim condition)) := by
  rcases conditionOfCheck_eq behind with ⟨full, loaded⟩
  have read : checkRow.text? "RDB$TRIGGER_SOURCE" = some (Text.trim source) :=
    Catalog.Row.text?_of_text stored full
  refine Lookup.finds_bind.2 ⟨checkRow :: checkRest, finds_loadRows.2 answer, ?_⟩
  rw [Lookup.finds_pure, List.head?_cons, Option.bind_some, read, Option.getD_some, loaded]

theorem finds_load_check
    (answer : catalog ⟨catalogSql, [.text table, .text name]⟩ = .ok (row :: rest))
    (kind : (row.text? "RDB$CONSTRAINT_TYPE").bind Kind.ofKeyword? = some .check)
    (checkAnswer : catalog ⟨checkSql, [.text name]⟩ = .ok (checkRow :: checkRest))
    (stored : checkRow.value? "RDB$TRIGGER_SOURCE" = some (.text source))
    (behind : Text.IsBehind "CHECK" source ('(' :: (condition.toList ++ [')']))) :
    (load table name).Finds catalog
      { checkOn table (Text.trim condition) with
        name := name, index := loadedIndex name row }.asExisting := by
  have found : (loadCheck table name).Finds catalog (checkOn table (Text.trim condition)) :=
    finds_loadCheck checkAnswer stored behind
  exact finds_load answer kind found

/-! ## Sources without a condition -/

/-- Nothing stands there, or nothing between two parentheses. -/
def IsVacant (body : List Char) : Prop :=
  body = [] ∨ ∃ blanks, Text.AllSpaces blanks ∧ body = '(' :: (blanks ++ [')'])

/-- No condition is in the source, with or without the keyword in front. -/
inductive LacksCondition (source : String) : Prop
  | alone {before body after : List Char} :
      Text.AllSpaces before → IsVacant body → Text.AllSpaces after →
        source.toList = before ++ body ++ after → LacksCondition source
  | behind {body : List Char} :
      IsVacant body → Text.IsBehind "CHECK" source body → LacksCondition source

theorem lacksCondition_of_blank (blank : Text.isBlank source = true) : LacksCondition source :=
  .alone (List.all_eq_true.1 blank) (.inl rfl) (List.forall_mem_nil _) (by simp)

theorem IsVacant.isTrimmed {body : List Char} (h : IsVacant body) : Text.IsTrimmed body := by
  rcases h with rfl | ⟨blanks, -, rfl⟩
  · exact ⟨nofun, nofun⟩
  · exact Text.isTrimmed_between rfl rfl blanks

theorem IsVacant.trimChars_between {before body after : List Char} (h : IsVacant body)
    (hbefore : Text.AllSpaces before) (hafter : Text.AllSpaces after) :
    Text.trimChars (before ++ body ++ after) = body := by
  rcases h with rfl | ⟨blanks, hblanks, rfl⟩
  · rw [List.append_nil, Text.trimChars_eq_nil_iff]
    exact List.forall_mem_append.2 ⟨hbefore, hafter⟩
  · exact Text.trimChars_between hbefore hafter (Text.isTrimmed_between rfl rfl blanks)
      (List.cons_ne_nil _ _)

/-- It does not begin with the keyword. -/
theorem IsVacant.afterKeyword?_eq_none {body : List Char} (h : IsVacant body) :
    Text.afterKeyword? "CHECK".toList body = none := by
  rcases h with rfl | ⟨blanks, -, rfl⟩
  · rfl
  · simp [Text.afterKeyword?, Text.sameWord]

theorem IsVacant.exists_rest {body : List Char} (h : IsVacant body)
    (behind : Text.IsBehind "CHECK" source body) :
    ∃ rest, Text.afterKeyword? "CHECK".toList (Text.trimChars source.toList) = some rest ∧
      Text.trimChars rest = body := by
  rcases h with rfl | ⟨blanks, hblanks, rfl⟩
  · exact ⟨[], behind.found_nothing isKeyword_check, rfl⟩
  · rcases behind.found isKeyword_check (Text.isTrimmed_between rfl rfl blanks)
        (List.cons_ne_nil _ _) with
      ⟨-, rest, found, text⟩
    rw [Text.toList_trim, Text.trimChars_eq_self_iff.2 (Text.isTrimmed_trimChars _)] at found
    exact ⟨rest, found, text⟩

/-- What loading takes for the condition, behind the keyword. -/
def contentOf (body : List Char) : String :=
  if 2 ≤ body.length ∧ body.head? = some '(' ∧ body.getLast? = some ')' then
    String.ofList (Text.trimChars body.tail.dropLast)
  else String.ofList body

theorem conditionOfCheck_of_behind {rest : List Char}
    (after : Text.afterKeyword? "CHECK".toList (Text.trimChars source.toList) = some rest) :
    conditionOfCheck source = contentOf (Text.trimChars rest) := by
  simp only [conditionOfCheck, after, contentOf]

theorem conditionOfCheck_of_alone
    (none : Text.afterKeyword? "CHECK".toList (Text.trimChars source.toList) = none) :
    conditionOfCheck source = contentOf (Text.trimChars source.toList) := by
  simp only [conditionOfCheck, none, contentOf]

theorem isBlank_contentOf_iff {body : List Char} (trimmed : Text.IsTrimmed body) :
    Text.isBlank (contentOf body) = true ↔ IsVacant body := by
  have blank_iff : ∀ cs : List Char, Text.isBlank (String.ofList cs) = true ↔
      Text.trimChars cs = [] := by
    intro cs
    rw [Text.isBlank_iff, ← String.toList_inj, Text.toList_trim, String.toList_ofList]
    rfl
  unfold contentOf IsVacant
  split
  · -- Both parentheses are cut off; what stood between them is blank or it is not.
    rename_i marks
    rcases Text.between_iff.1 marks with ⟨inner, rfl⟩
    have cut : ∀ blanks, '(' :: (inner ++ [')']) = '(' :: (blanks ++ [')']) → inner = blanks := by
      intro blanks same
      exact List.append_cancel_right (List.cons.inj same).2
    rw [Text.between_content, blank_iff, Text.trimChars_eq_self_iff.2 (Text.isTrimmed_trimChars _),
      Text.trimChars_eq_nil_iff]
    constructor
    · intro blanks
      exact .inr ⟨inner, blanks, rfl⟩
    · rintro (none | ⟨blanks, spaces, same⟩)
      · cases none
      · exact cut blanks same ▸ spaces
  · -- Nothing is cut off, so no pair of parentheses was there.
    rename_i noMarks
    rw [blank_iff, Text.trimChars_eq_self_iff.2 trimmed]
    refine (or_iff_left ?_).symm
    rintro ⟨blanks, -, rfl⟩
    exact noMarks (Text.between_iff.2 ⟨blanks, rfl⟩)

/-- No condition is loaded if and only if there is none in the source. -/
theorem isBlank_conditionOfCheck_iff :
    Text.isBlank (conditionOfCheck source) = true ↔ LacksCondition source := by
  constructor
  · -- The body is what loading reads: behind the keyword if it is found, else the whole source.
    intro blank
    rcases Text.exists_blanks_around source.toList with ⟨before, after, hbefore, hafter, chars⟩
    cases found : Text.afterKeyword? "CHECK".toList (Text.trimChars source.toList) with
    | none =>
        have trimmed := Text.isTrimmed_trimChars source.toList
        rw [conditionOfCheck_of_alone found, isBlank_contentOf_iff trimmed] at blank
        exact .alone hbefore blank hafter chars
    | some rest =>
        have trimmed := Text.isTrimmed_trimChars rest
        rw [conditionOfCheck_of_behind found, isBlank_contentOf_iff trimmed] at blank
        rcases Text.afterKeyword?_eq_some found with ⟨word, same, cut⟩
        rcases Text.exists_blanks_around rest with ⟨gap, last, hgap, hlast, inner⟩
        have blanks : Text.AllSpaces (last ++ after) := List.forall_mem_append.2 ⟨hlast, hafter⟩
        refine .behind blank ⟨before, word, gap, last ++ after, hbefore, hgap, blanks, same, ?_⟩
        rw [chars, cut]
        nth_rewrite 1 [inner]
        simp
  · rintro (⟨hbefore, vacant, hafter, chars⟩ | ⟨vacant, behind⟩)
    · -- A body without a condition is not taken for the keyword.
      have cut := vacant.trimChars_between hbefore hafter
      rw [← chars] at cut
      have alone := conditionOfCheck_of_alone (cut ▸ vacant.afterKeyword?_eq_none)
      rwa [alone, cut, isBlank_contentOf_iff vacant.isTrimmed]
    · rcases vacant.exists_rest behind with ⟨rest, found, text⟩
      rwa [conditionOfCheck_of_behind found, text, isBlank_contentOf_iff vacant.isTrimmed]

theorem conditionOfCheck_trim (source : String) :
    conditionOfCheck (Text.trim source) = conditionOfCheck source := by
  have same : Text.trimChars (Text.trim source).toList = Text.trimChars source.toList := by
    rw [Text.toList_trim, Text.trimChars_eq_self_iff.2 (Text.isTrimmed_trimChars _)]
  unfold conditionOfCheck
  rw [same]

/-! ## Statements -/

theorem clause_of_check {c : Constraint} (kind : c.kind = .check) (columns : c.columns = [])
    (referencedTable : c.referencedTable = none) (referencedColumns : c.referencedColumns = [])
    (expression : c.checkExpression = some condition) (full : Text.isBlank condition = false) :
    c.clause = .ok ("CHECK " ++ Sql.grouped (Text.trim condition)) := by
  have placed : c.demandPayload = .ok () := by
    simp [demandPayload, misplaced?, hasReference, kind, columns, referencedTable,
      referencedColumns]
  have known : demand .checkExpression c.checkExpression = .ok (Text.trim condition) := by
    rw [expression]
    exact demand_some_eq_ok.2 ⟨full, rfl⟩
  refine bind_eq_ok.2 ⟨(), placed, ?_⟩
  rw [kind]
  refine bind_eq_ok.2 ⟨_, known, ?_⟩
  rw [kind]
  rfl

/-- A CHECK that is loaded and written without an edit is dropped and added again. Its condition is
one group unless it is wrongly taken for one, which only parentheses in quotes bring about. -/
theorem rewrites_of_load (fullTable : Text.isBlank table = false)
    (fullName : Text.isBlank name = false)
    (answer : catalog ⟨catalogSql, [.text table, .text name]⟩ = .ok (row :: rest))
    (kind : (row.text? "RDB$CONSTRAINT_TYPE").bind Kind.ofKeyword? = some .check)
    (checkAnswer : catalog ⟨checkSql, [.text name]⟩ = .ok (checkRow :: checkRest))
    (stored : checkRow.value? "RDB$TRIGGER_SOURCE" = some (.text source))
    (behind : Text.IsBehind "CHECK" source ('(' :: (condition.toList ++ [')'])))
    (full : Text.isBlank condition = false) :
    ∃ c written, ((load table name).run catalog).result = .ok c ∧
      c.toBatch = .ok (Batch.ofStatements
        [ "ALTER TABLE " ++ identifier (Text.trim table) ++ " DROP CONSTRAINT " ++
            identifier (Text.trim name),
          "ALTER TABLE " ++ identifier (Text.trim table) ++ " ADD CONSTRAINT " ++
            identifier (Text.trim name) ++ " " ++ ("CHECK " ++ written) ]) ∧
      Rewrites condition written := by
  have same : Sql.grouped (Text.trim (Text.trim condition)) = Sql.grouped condition := by
    rw [Text.trim_trim, Sql.grouped, Text.trim_trim, Sql.grouped]
  have loaded := finds_load_check answer kind checkAnswer stored behind
  refine ⟨_, Sql.grouped condition, loaded, ?_, rewrites_grouped condition⟩
  rw [← same]
  exact toBatch_of_existing fullTable fullName rfl rfl
    (clause_of_check rfl rfl rfl rfl rfl (Text.isBlank_trim full))

/-- The row of a CHECK. -/
def checkConstraintRow : Catalog.Row :=
  ⟨["RDB$CONSTRAINT_NAME", "RDB$CONSTRAINT_TYPE", "RDB$INDEX_NAME", "RDB$INDEX_TYPE"],
    [.text "CK_T", .text "CHECK", .null, .null]⟩

/-- The row that has its source. -/
def sourceRow (source : String) : Catalog.Row :=
  ⟨["RDB$TRIGGER_SOURCE"], [.text source]⟩

/-- The system tables of a database with one CHECK. -/
def checkCatalog (source : String) : Catalog :=
  .ofAnswers
    [ (⟨catalogSql, [.text "T", .text "CK_T"]⟩, [checkConstraintRow]),
      (⟨checkSql, [.text "CK_T"]⟩, [sourceRow source]) ]

theorem checkCatalog_constraint (source : String) :
    checkCatalog source ⟨catalogSql, [.text "T", .text "CK_T"]⟩ = .ok [checkConstraintRow] :=
  Catalog.ofAnswers_cons_self _ _ _

theorem checkCatalog_source (source : String) :
    checkCatalog source ⟨checkSql, [.text "CK_T"]⟩ = .ok [sourceRow source] := by
  have other : ((⟨checkSql, [.text "CK_T"]⟩ : Catalog.Query) ==
      ⟨catalogSql, [.text "T", .text "CK_T"]⟩) = false := by decide
  simp [checkCatalog, Catalog.ofAnswers, List.lookup_cons, other]

theorem kind_checkConstraintRow :
    (checkConstraintRow.text? "RDB$CONSTRAINT_TYPE").bind Kind.ofKeyword? = some .check := by
  decide +kernel

theorem value?_sourceRow (source : String) :
    (sourceRow source).value? "RDB$TRIGGER_SOURCE" = some (.text source) := rfl

theorem rewrites_of_load_twoGroups :
    (Text.isBlank "T" = false ∧ Text.isBlank "CK_T" = false ∧
        Text.IsBehind "CHECK" " check ((A > 1) or (B > 2)) "
          ('(' :: ("(A > 1) or (B > 2)".toList ++ [')']))) ∧
      ∃ c, ((load "T" "CK_T").run (checkCatalog " check ((A > 1) or (B > 2)) ")).result = .ok c ∧
        c.toBatch = .ok (Batch.ofStatements
          [ "ALTER TABLE T DROP CONSTRAINT CK_T",
            "ALTER TABLE T ADD CONSTRAINT CK_T CHECK ((A > 1) or (B > 2))" ]) := by
  have table : Text.isBlank "T" = false := by decide
  have name : Text.isBlank "CK_T" = false := by decide
  have blank : Text.AllSpaces [' '] := List.forall_mem_singleton.2 rfl
  have behind : Text.IsBehind "CHECK" " check ((A > 1) or (B > 2)) "
      ('(' :: ("(A > 1) or (B > 2)".toList ++ [')'])) :=
    ⟨[' '], "check".toList, [' '], [' '], blank, blank, blank, rfl, rfl⟩
  refine ⟨⟨table, name, behind⟩, ?_⟩
  have full : Text.isBlank "(A > 1) or (B > 2)" = false := by decide
  rcases rewrites_of_load table name (checkCatalog_constraint _) kind_checkConstraintRow
      (checkCatalog_source _) (value?_sourceRow _) behind full with
    ⟨c, written, loaded, batch, rewrites⟩
  have group : written = "((A > 1) or (B > 2))" := by
    rcases rewrites.content with bare | wrapped
    · -- Without parentheses around both groups it would not be one group.
      have one := rewrites.isOneGroup_iff.2 ⟨by decide +kernel, by decide +kernel⟩
      rw [bare] at one
      exact absurd one (by decide +kernel)
    · rw [wrapped]
      decide +kernel
  refine ⟨c, loaded, batch.trans ?_⟩
  rw [group]
  decide +kernel

/-- A condition of two groups, with a parenthesis in quotes in each of them, is written as it is. -/
theorem quotedParentheses_escape :
    (Text.IsBehind "CHECK" "CHECK ((A = '(') AND (B = ')'))"
          ('(' :: ("(A = '(') AND (B = ')')".toList ++ [')'])) ∧
        Sql.IsClosed "(A = '(') AND (B = ')')".toList) ∧
      ∃ c, ((load "T" "CK_T").run (checkCatalog "CHECK ((A = '(') AND (B = ')'))")).result = .ok c ∧
        c.toBatch = .ok (Batch.ofStatements
          [ "ALTER TABLE T DROP CONSTRAINT CK_T",
            "ALTER TABLE T ADD CONSTRAINT CK_T CHECK (A = '(') AND (B = ')')" ]) ∧
        ¬Sql.IsOneGroup "(A = '(') AND (B = ')')".toList := by
  have behind : Text.IsBehind "CHECK" "CHECK ((A = '(') AND (B = ')'))"
      ('(' :: ("(A = '(') AND (B = ')')".toList ++ [')'])) :=
    Text.isBehind_of_blank rfl
  have loaded := finds_load_check (checkCatalog_constraint _) kind_checkConstraintRow
    (checkCatalog_source _) (value?_sourceRow _) behind
  exact ⟨⟨behind, by decide +kernel⟩, _, loaded, by decide +kernel, by decide +kernel⟩

end Constraint
end SchemaChange

import SchemaChange.Proofs.Constraint.Key
import SchemaChange.Proofs.Constraint.Refusal

/-!
# Proofs.Constraint.Unambiguity — keys are read off their statements in one way

The statement that adds a key is put together from names, keywords and clauses that may be left out.
Whatever the names are, it tells where each part ends: no name can be taken for a keyword, for the
end of a list or for two names.

- `Constraint.Definition`           : all that the statement tells of a key
- `Constraint.Definition.text_inj`  : two definitions have the same statement only if they are equal
- `Constraint.definition?`          : the definition of a constraint
- `Constraint.SameKey`              : two constraints that stand for the same key
- `Constraint.sharesAddition_iff_sameKey` : they are added by the same statement, and no others are
-/

namespace SchemaChange
namespace Constraint

open Sql (identifier endsName_of_blank)
open Script (Batch)

/-! ## Keywords -/

/-- No keyword begins another one. -/
def PrefixFree {α : Type} (keyword : α → String) : Prop :=
  ∀ a b, (keyword a).toList <+: (keyword b).toList → a = b

theorem PrefixFree.append_cancel {α : Type} {keyword : α → String} (free : PrefixFree keyword)
    {a b : α} {x y : List Char} (h : (keyword a).toList ++ x = (keyword b).toList ++ y) :
    a = b ∧ x = y := by
  have same : a = b := by
    have front : (keyword b).toList <+: (keyword a).toList ++ x := ⟨y, h.symm⟩
    rcases List.prefix_or_prefix_of_prefix (List.prefix_append _ x) front with short | long
    · exact free a b short
    · exact (free b a long).symm
  subst same
  exact ⟨rfl, List.append_cancel_left h⟩

theorem Kind.prefixFree_keyword : PrefixFree Kind.keyword := by
  intro a b front
  cases a <;> cases b <;> first | rfl | exact absurd front (by decide)

theorem Rule.prefixFree_keyword : PrefixFree Rule.keyword := by
  intro a b front
  cases a <;> cases b <;> first | rfl | exact absurd front (by decide)

theorem Direction.prefixFree_keyword : PrefixFree Direction.keyword := by
  intro a b front
  cases a <;> cases b <;> first | rfl | exact absurd front (by decide)

/-! ## Definitions of keys -/

/-- All that the statement which adds a key tells of it. -/
structure Definition where
  table : String
  name : Option String
  /-- The kind, and what a foreign key refers to. -/
  kind : KeyKind
  columns : List String
  index : Option Index
  tablespace : Option String

/-- What follows the columns of a foreign key. -/
def Reference.text (reference : Reference) : String :=
  " REFERENCES " ++ identifier reference.table ++ " (" ++ Key.names reference.columns ++
    ") ON UPDATE " ++ reference.updateRule.keyword ++
    " ON DELETE " ++ reference.deleteRule.keyword

namespace Definition

def nameText : Option String → String
  | none => ""
  | some name => "CONSTRAINT " ++ identifier name ++ " "

def referenceText : KeyKind → String
  | .primary => ""
  | .unique => ""
  | .foreign reference => reference.text

def indexText : Option Index → String
  | none => ""
  | some index => " USING " ++ index.sort.keyword ++ " INDEX " ++ identifier index.name

def tablespaceText : Option String → String
  | none => ""
  | some tablespace => " TABLESPACE " ++ identifier tablespace

/-- The statement that adds the key. -/
def text (k : Definition) : String :=
  "ALTER TABLE " ++ identifier k.table ++ " ADD " ++ nameText k.name ++ k.kind.kind.keyword ++
    " (" ++ Key.names k.columns ++ ")" ++ referenceText k.kind ++ indexText k.index ++
    tablespaceText k.tablespace

/-! ### Parts of a statement -/

variable {x y : List Char}

/-- A key begins with no `C`, so a statement that goes on with `CONSTRAINT` has a name in it. -/
theorem nameText_append_cancel {name other : Option String} {kind otherKind : KeyKind}
    (h : (nameText name).toList ++ (kind.kind.keyword.toList ++ x) =
      (nameText other).toList ++ (otherKind.kind.keyword.toList ++ y)) :
    name = other ∧ kind.kind.keyword.toList ++ x = otherKind.kind.keyword.toList ++ y := by
  have unnamed : ∀ (kind : KeyKind) (text : List Char) (name : String) (rest : List Char),
      kind.kind.keyword.toList ++ text ≠ (nameText (some name)).toList ++ rest := by
    intro kind text name rest same
    have first := congrArg List.head? same
    cases kind <;> simp [nameText, KeyKind.kind, Kind.keyword] at first
  cases name with
  | none =>
      cases other with
      | none => exact ⟨rfl, h⟩
      | some other => exact absurd h (unnamed kind x other _)
  | some name =>
      cases other with
      | none => exact absurd h.symm (unnamed otherKind y name _)
      | some other =>
          rw [nameText, nameText] at h
          simp only [String.toList_append, List.append_assoc, List.append_cancel_left_eq] at h
          rcases Sql.identifier_append_cancel (endsName_of_blank rfl) (endsName_of_blank rfl) h with
            ⟨rfl, behind⟩
          exact ⟨rfl, List.append_cancel_left behind⟩

theorem names_append_cancel {columns others : List String}
    (h : (Key.names columns).toList ++ (")".toList ++ x) =
      (Key.names others).toList ++ (")".toList ++ y)) : columns = others ∧ x = y :=
  Sql.intercalate_append_cancel h

theorem reference_append_cancel {reference other : Reference}
    (h : reference.text.toList ++ x = other.text.toList ++ y) : reference = other ∧ x = y := by
  have ends : ∀ text : List Char, Sql.EndsName (" (".toList ++ text) :=
    fun text => endsName_of_blank rfl
  have close : ") ON UPDATE ".toList = ")".toList ++ " ON UPDATE ".toList := by decide
  unfold Reference.text at h
  simp only [String.toList_append, List.append_assoc, List.append_cancel_left_eq, close] at h
  rcases Sql.identifier_append_cancel (ends _) (ends _) h with ⟨table, h⟩
  rcases names_append_cancel (List.append_cancel_left h) with ⟨columns, h⟩
  rcases Rule.prefixFree_keyword.append_cancel (List.append_cancel_left h) with ⟨updateRule, h⟩
  rcases Rule.prefixFree_keyword.append_cancel (List.append_cancel_left h) with ⟨deleteRule, rest⟩
  rcases reference
  rcases other
  cases table
  cases columns
  cases updateRule
  cases deleteRule
  exact ⟨rfl, rest⟩

theorem referenceText_append_cancel {kind other : KeyKind} (same : kind.kind = other.kind)
    (h : (referenceText kind).toList ++ x = (referenceText other).toList ++ y) :
    kind = other ∧ x = y := by
  cases kind with
  | primary =>
      cases other with
      | primary => exact ⟨rfl, h⟩
      | unique => cases same
      | foreign => cases same
  | unique =>
      cases other with
      | primary => cases same
      | unique => exact ⟨rfl, h⟩
      | foreign => cases same
  | foreign reference =>
      cases other with
      | primary => cases same
      | unique => cases same
      | foreign other =>
          rcases reference_append_cancel h with ⟨rfl, rest⟩
          exact ⟨rfl, rest⟩

theorem tablespaceText_inj {tablespace other : Option String}
    (h : (tablespaceText tablespace).toList = (tablespaceText other).toList) :
    tablespace = other := by
  cases tablespace with
  | none =>
      cases other with
      | none => rfl
      | some other => simp [tablespaceText] at h
  | some tablespace =>
      cases other with
      | none => simp [tablespaceText] at h
      | some other =>
          rw [tablespaceText, tablespaceText] at h
          simp only [String.toList_append, List.append_cancel_left_eq] at h
          have ends : Sql.EndsName [] := nofun
          rw [← List.append_nil (identifier tablespace).toList,
            ← List.append_nil (identifier other).toList] at h
          rw [(Sql.identifier_append_cancel ends ends h).1]

/-- What may stand behind the name of an index ends it. -/
theorem endsName_tablespaceText (tablespace : Option String) :
    Sql.EndsName (tablespaceText tablespace).toList := by
  cases tablespace with
  | none => exact nofun
  | some tablespace =>
      rw [tablespaceText, String.toList_append]
      exact endsName_of_blank rfl

theorem tailText_cancel {index otherIndex : Option Index} {tablespace other : Option String}
    (h : (indexText index).toList ++ (tablespaceText tablespace).toList =
      (indexText otherIndex).toList ++ (tablespaceText other).toList) :
    index = otherIndex ∧ tablespace = other := by
  have apart : ∀ (index : Index) (tablespace : Option String) (rest : List Char),
      (indexText (some index)).toList ++ rest ≠ (tablespaceText tablespace).toList := by
    intro index tablespace rest same
    cases tablespace <;> simp [indexText, tablespaceText] at same
  cases index with
  | none =>
      cases otherIndex with
      | none => exact ⟨rfl, tablespaceText_inj h⟩
      | some otherIndex => exact absurd h.symm (apart otherIndex tablespace _)
  | some index =>
      cases otherIndex with
      | none => exact absurd h (apart index other _)
      | some otherIndex =>
          rw [indexText, indexText] at h
          simp only [String.toList_append, List.append_assoc, List.append_cancel_left_eq] at h
          rcases Direction.prefixFree_keyword.append_cancel h with ⟨sort, h⟩
          rcases Sql.identifier_append_cancel (endsName_tablespaceText tablespace)
            (endsName_tablespaceText other) (List.append_cancel_left h) with ⟨name, rest⟩
          have same := tablespaceText_inj rest
          rcases index
          rcases otherIndex
          cases sort
          cases name
          exact ⟨rfl, same⟩

/-- A statement tells of one key only. -/
theorem text_inj {k other : Definition} (h : k.text = other.text) : k = other := by
  unfold text at h
  have chars := congrArg String.toList h
  simp only [String.toList_append, List.append_assoc, List.append_cancel_left_eq] at chars
  have ends : ∀ rest : List Char, Sql.EndsName (" ADD ".toList ++ rest) :=
    fun rest => endsName_of_blank rfl
  -- From left to right: each part ends where the next one begins.
  rcases Sql.identifier_append_cancel (ends _) (ends _) chars with ⟨table, chars⟩
  rcases nameText_append_cancel (List.append_cancel_left chars) with ⟨name, chars⟩
  rcases Kind.prefixFree_keyword.append_cancel chars with ⟨kind, chars⟩
  rcases names_append_cancel (List.append_cancel_left chars) with ⟨columns, chars⟩
  rcases referenceText_append_cancel kind chars with ⟨reference, chars⟩
  rcases tailText_cancel chars with ⟨index, tablespace⟩
  rcases k
  rcases other
  cases table
  cases name
  cases columns
  cases reference
  cases index
  cases tablespace
  rfl

end Definition

/-! ## Constraints that are keys -/

/-- The index behind a key, if it has a name. -/
def namedIndex? (c : Constraint) : Option Index :=
  (c.index.filter fun index => !Text.isBlank index.name).map fun index =>
    { index with name := Text.trim index.name }

/-- The kind of a key, and what it refers to. -/
def keyKind? (c : Constraint) : Option KeyKind :=
  match c.kind with
  | .primary => some .primary
  | .unique => some .unique
  | .foreign => (Text.nonBlank? c.referencedTable).map fun table =>
      .foreign ⟨table, c.referencedColumns.map Text.trim, c.updateRule, c.deleteRule⟩
  | .check => none

def definition? (c : Constraint) : Option Definition :=
  c.keyKind?.map fun kind =>
    { table := Text.trim c.table
      name := Text.nonBlank? (some c.name)
      kind := kind
      columns := c.columns.map Text.trim
      index := c.namedIndex?
      tablespace := Text.nonBlank? c.tablespace }

/-- The constraints stand for the same key: blanks around names do not count, and a blank name is
none. -/
structure SameKey (c d : Constraint) : Prop where
  kind : c.kind = d.kind
  table : Text.trim c.table = Text.trim d.table
  name : Text.nonBlank? (some c.name) = Text.nonBlank? (some d.name)
  columns : c.columns.map Text.trim = d.columns.map Text.trim
  index : c.namedIndex? = d.namedIndex?
  tablespace : Text.nonBlank? c.tablespace = Text.nonBlank? d.tablespace
  reference : c.kind = .foreign →
    Text.nonBlank? c.referencedTable = Text.nonBlank? d.referencedTable ∧
      c.referencedColumns.map Text.trim = d.referencedColumns.map Text.trim ∧
      c.updateRule = d.updateRule ∧ c.deleteRule = d.deleteRule

section Written

variable {c d : Constraint}

theorem identifierList_eq (columns : List String) :
    Sql.identifierList columns = Key.names (columns.map Text.trim) := by
  rw [Sql.identifierList, Key.names, List.map_map, Function.comp_def]

theorem indexClauses_eq (c : Constraint) :
    c.indexClauses = Definition.indexText c.namedIndex? ++
      Definition.tablespaceText (Text.nonBlank? c.tablespace) := by
  unfold indexClauses namedIndex?
  refine congrArg₂ (· ++ ·) ?_ ?_
  · cases c.index with
    | none => rfl
    | some index =>
        rw [Option.filter_some]
        cases blank : Text.isBlank index.name <;> simp [blank, Definition.indexText]
  · cases Text.nonBlank? c.tablespace with
    | none => rfl
    | some tablespace => rfl

/-- A name goes between the table and the definition, if there is one. -/
theorem addStatement_eq (c : Constraint) (clause : String) :
    c.addStatement clause = "ALTER TABLE " ++ identifier (Text.trim c.table) ++ " ADD " ++
      Definition.nameText (Text.nonBlank? (some c.name)) ++ clause := by
  have verb : (" ADD CONSTRAINT " : String) = " ADD " ++ "CONSTRAINT " := rfl
  unfold addStatement alterTable
  rw [Text.nonBlank?_some, verb]
  cases Text.isBlank c.name with
  | true => simp only [if_true, Definition.nameText, String.append_empty]
  | false => simp only [Bool.false_eq_true, if_false, Definition.nameText, String.append_assoc]

theorem exists_keyKind? (key : c.kind ≠ .check) {clause : String} (h : c.clause = .ok clause) :
    ∃ kind, c.keyKind? = some kind ∧
      clause = kind.kind.keyword ++ " (" ++ Key.names (c.columns.map Text.trim) ++ ")" ++
        Definition.referenceText kind ++ c.indexClauses := by
  rcases bind_eq_ok.1 h with ⟨_, -, h⟩
  unfold keyKind?
  cases kind : c.kind with
  | primary =>
      rw [kind] at h
      rcases bind_eq_ok.1 h with ⟨_, -, h⟩
      cases h
      refine ⟨.primary, rfl, ?_⟩
      rw [kind, identifierList_eq]
      simp [KeyKind.kind, Definition.referenceText]
  | unique =>
      rw [kind] at h
      rcases bind_eq_ok.1 h with ⟨_, -, h⟩
      cases h
      refine ⟨.unique, rfl, ?_⟩
      rw [kind, identifierList_eq]
      simp [KeyKind.kind, Definition.referenceText]
  | foreign =>
      rw [kind] at h
      rcases bind_eq_ok.1 h with ⟨_, -, h⟩
      rcases bind_eq_ok.1 h with ⟨referenced, target, h⟩
      rcases bind_eq_ok.1 h with ⟨_, -, h⟩
      split at h
      · cases h
      · cases h
        rw [demand_eq_ok.1 target]
        refine ⟨_, rfl, ?_⟩
        have close : (") REFERENCES " : String) = ")" ++ " REFERENCES " := rfl
        rw [kind, identifierList_eq, identifierList_eq, close]
        rw [Definition.referenceText]
        unfold Reference.text
        simp only [KeyKind.kind, String.append_assoc]
  | check => exact absurd kind key

/-- What is written for a key is its definition. -/
theorem exists_definition? (key : c.kind ≠ .check) {clause : String} (h : c.clause = .ok clause) :
    ∃ k, c.definition? = some k ∧ c.addStatement clause = k.text := by
  rcases exists_keyKind? key h with ⟨kind, told, rfl⟩
  unfold definition?
  rw [told]
  refine ⟨_, rfl, ?_⟩
  rw [addStatement_eq, indexClauses_eq]
  unfold Definition.text
  simp only [String.append_assoc]

theorem kind_of_keyKind? {kind : KeyKind} (h : c.keyKind? = some kind) : c.kind = kind.kind := by
  unfold keyKind? at h
  cases own : c.kind with
  | primary =>
      rw [own] at h
      cases h
      rfl
  | unique =>
      rw [own] at h
      cases h
      rfl
  | foreign =>
      rw [own] at h
      rcases Option.map_eq_some_iff.1 h with ⟨table, -, rfl⟩
      rfl
  | check =>
      rw [own] at h
      cases h

theorem reference_of_keyKind? {reference : Reference}
    (h : c.keyKind? = some (.foreign reference)) :
    Text.nonBlank? c.referencedTable = some reference.table ∧
      c.referencedColumns.map Text.trim = reference.columns ∧
      c.updateRule = reference.updateRule ∧ c.deleteRule = reference.deleteRule := by
  have foreign : c.kind = .foreign := kind_of_keyKind? h
  unfold keyKind? at h
  rw [foreign] at h
  rcases Option.map_eq_some_iff.1 h with ⟨table, given, same⟩
  cases same
  exact ⟨given, rfl, rfl, rfl⟩

theorem keyKind?_inj {kind other : KeyKind} (hc : c.keyKind? = some kind)
    (hd : d.keyKind? = some other) :
    kind = other ↔ c.kind = d.kind ∧ (c.kind = .foreign →
      Text.nonBlank? c.referencedTable = Text.nonBlank? d.referencedTable ∧
        c.referencedColumns.map Text.trim = d.referencedColumns.map Text.trim ∧
        c.updateRule = d.updateRule ∧ c.deleteRule = d.deleteRule) := by
  rw [kind_of_keyKind? hc, kind_of_keyKind? hd]
  cases kind with
  | primary => cases other <;> simp [KeyKind.kind]
  | unique => cases other <;> simp [KeyKind.kind]
  | foreign reference =>
      cases other with
      | primary => simp [KeyKind.kind]
      | unique => simp [KeyKind.kind]
      | foreign otherReference =>
          rcases reference_of_keyKind? hc with ⟨table, columns, updateRule, deleteRule⟩
          rcases reference_of_keyKind? hd with ⟨table', columns', updateRule', deleteRule'⟩
          rw [table, columns, updateRule, deleteRule, table', columns', updateRule', deleteRule']
          rcases reference
          rcases otherReference
          simp [KeyKind.kind]

/-- Definitions are equal exactly if the constraints stand for the same key. -/
theorem definition?_inj {k other : Definition} (hc : c.definition? = some k)
    (hd : d.definition? = some other) : k = other ↔ SameKey c d := by
  rcases Option.map_eq_some_iff.1 hc with ⟨kind, toldC, rfl⟩
  rcases Option.map_eq_some_iff.1 hd with ⟨otherKind, toldD, rfl⟩
  have kinds := keyKind?_inj toldC toldD
  rw [Definition.mk.injEq, kinds]
  constructor
  · rintro ⟨table, name, ⟨kind, reference⟩, columns, index, tablespace⟩
    exact ⟨kind, table, name, columns, index, tablespace, reference⟩
  · rintro ⟨kind, table, name, columns, index, tablespace, reference⟩
    exact ⟨table, name, ⟨kind, reference⟩, columns, index, tablespace⟩

/-! ## Statements -/

/-- One statement of both batches adds a constraint. -/
def SharesAddition (b other : Batch) : Prop :=
  ∃ table, ∃ statement ∈ b.statements, statement ∈ other.statements ∧ Adds table statement

/-- Of the statements of a constraint only the last one adds something. -/
theorem eq_addStatement_of_adds {clause : String} {dropped : List String}
    (hdropped : c.dropping = .ok dropped) {table statement : String}
    (mem : statement ∈ dropped ++ [c.addStatement clause]) (adds : Adds table statement) :
    statement = c.addStatement clause := by
  rcases List.mem_append.1 mem with drop | added
  · rw [c.dropping_eq_ok hdropped] at drop
    split at drop
    · have drops : Drops (Text.trim c.table) (Text.trim c.knownName) statement :=
        List.mem_singleton.1 drop
      exact absurd drops (adds.not_drops _ _)
    · cases drop
  · exact List.mem_singleton.1 added

/-- Two keys are added by the same statement if and only if they are the same key. So the statement
tells the kind, the table, the name, the columns in their order, the index, the tablespace and the
whole reference, whatever characters the names are made of. -/
theorem sharesAddition_iff_sameKey (keyC : c.kind ≠ .check) (keyD : d.kind ≠ .check)
    {b other : Batch} (writtenC : c.toBatch = .ok b) (writtenD : d.toBatch = .ok other) :
    SharesAddition b other ↔ SameKey c d := by
  rcases toBatch_eq_ok.1 writtenC with ⟨-, clause, dropped, hclause, hdropped, rfl⟩
  rcases toBatch_eq_ok.1 writtenD with ⟨-, clause', dropped', hclause', hdropped', rfl⟩
  rcases exists_definition? keyC hclause with ⟨k, toldC, textC⟩
  rcases exists_definition? keyD hclause' with ⟨k', toldD, textD⟩
  rw [← definition?_inj toldC toldD]
  constructor
  · rintro ⟨table, statement, memC, memD, adds⟩
    refine Definition.text_inj ?_
    calc
      k.text = statement := by rw [← textC, eq_addStatement_of_adds hdropped memC adds]
      _ = k'.text := by rw [← textD, eq_addStatement_of_adds hdropped' memD adds]
  · rintro rfl
    refine ⟨_, c.addStatement clause, ?_, ?_, c.adds_addStatement clause⟩
    · exact List.mem_append_right _ (List.mem_singleton_self _)
    · rw [textC, ← textD]
      exact List.mem_append_right _ (List.mem_singleton_self _)

end Written

/-- A foreign key whose names look like parts of a statement. -/
def oddKey : Constraint :=
  { foreignKey "T" ["A, B", "C) REFERENCES D (E"] "R\x22 (F" ["G", "H, I"] with
    name := "PRIMARY KEY (A)"
    deleteRule := .setNull
    index := some ⟨"J TABLESPACE", .descending⟩ }

/-- The same key, there already under another name, with blanks around its names. -/
def paddedOddKey : Constraint :=
  { foreignKey " T" ["A, B ", " C) REFERENCES D (E"] "R\x22 (F\n" ["G\t", "H, I"] with
    name := "PRIMARY KEY (A) "
    deleteRule := .setNull
    index := some ⟨" J TABLESPACE", .descending⟩
    tablespace := some " "
    existing := true
    initialName := some "FK_T" }

def oddDefinition : String :=
  "CONSTRAINT \x22PRIMARY KEY (A)\x22 FOREIGN KEY (\x22A, B\x22, \x22C) REFERENCES D (E\x22) " ++
    "REFERENCES \x22R\x22\x22 (F\x22 (G, \x22H, I\x22) ON UPDATE NO ACTION ON DELETE SET NULL " ++
    "USING DESC INDEX \x22J TABLESPACE\x22"

theorem sharesAddition_iff_sameKey_oddlyNamed :
    let b := Batch.ofStatements ["ALTER TABLE T ADD " ++ oddDefinition]
    let other := Batch.ofStatements
      ["ALTER TABLE T DROP CONSTRAINT FK_T", "ALTER TABLE T ADD " ++ oddDefinition]
    (oddKey.kind ≠ .check ∧ paddedOddKey.kind ≠ .check ∧
        oddKey.toBatch = .ok b ∧ paddedOddKey.toBatch = .ok other) ∧
      SharesAddition b other ∧ SameKey oddKey paddedOddKey := by
  intro b other
  have key : oddKey.kind ≠ .check := by decide
  have key' : paddedOddKey.kind ≠ .check := by decide
  have written : oddKey.toBatch = .ok b := by decide +kernel
  have written' : paddedOddKey.toBatch = .ok other := by decide +kernel
  have shared : SharesAddition b other :=
    ⟨"T", _, List.mem_singleton_self _, List.mem_cons_of_mem _ (List.mem_singleton_self _),
      oddDefinition, by decide +kernel⟩
  exact ⟨⟨key, key', written, written'⟩, shared,
    (sharesAddition_iff_sameKey key key' written written').1 shared⟩

end Constraint
end SchemaChange

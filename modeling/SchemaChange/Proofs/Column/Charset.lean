import SchemaChange.Proofs.Column.Coverage
import SchemaChange.Proofs.Column.Default
import SchemaChange.Proofs.Column.Refusal
import SchemaChange.Proofs.Text.Digits

/-!
# Proofs.Column.Charset — character sets of BLOBs

Only a BLOB of text has a character set, and which BLOBs hold text is a matter of their sub-type. A
column whose type code stands for text gets its character set whatever its sub-type is, so a BLOB
may be written with a binary sub-type and a character set.

- `Column.GivesCharset`, `Column.PrintsSubtype` : what a type clause says
- `Column.ContradictsText` : the columns whose clauses contradict themselves
- `Column.blobClause_of_typeClause?` : what the clause of a BLOB says
- `Column.MisgivesCharset` : statements that give a character set to a binary BLOB
- `ColumnDraft.misgives_iff_of_existing` : where they come from
- `ColumnDraft.CharsetAccount` : which edits of a BLOB of text lead to them
-/

namespace SchemaChange
namespace Column

open Sql (identifier)

/-! ## What a type clause says -/

/-- The clause gives a character set or a collation. -/
def GivesCharset (clause : String) : Prop :=
  "CHARACTER SET".toList <:+: clause.toList ∨ "COLLATE".toList <:+: clause.toList

/-- The clause is that of a BLOB, with the sub-type. -/
def PrintsSubtype (clause : String) (subtype : Int) : Prop :=
  ∃ rest : String, clause = "BLOB SUB_TYPE " ++ Text.decimalInt subtype ++ rest ∧
    (rest = "" ∨ ∃ more, rest = " " ++ more)

/-- The clause gives a character set or a collation to a BLOB whose sub-type is not that of
texts. -/
def IsBinaryWithCharset (clause : String) : Prop :=
  ∃ subtype, PrintsSubtype clause subtype ∧ subtype ≠ 1 ∧ GivesCharset clause

def HasCharset (c : Column) : Prop :=
  Text.nonBlank? c.charset ≠ none ∨ Text.nonBlank? c.collate ≠ none

/-- The type code stands for text and the sub-type does not, and there is a character set to be
given. -/
structure ContradictsText (c : Column) : Prop where
  text : c.group.isText = true
  subtype : ∃ subtype, c.subtype = some subtype ∧ subtype ≠ 1
  charset : c.HasCharset

theorem blank_not_mem_decimalInt (n : Int) : ∀ c ∈ (Text.decimalInt n).toList, (c != ' ') = true := by
  intro c mem
  rcases Text.isDigit_of_mem_decimalInt mem with rfl | digit
  · decide
  · rw [bne_iff_ne]
    rintro rfl
    cases digit

/-- The number ends in front of the first blank. -/
theorem PrintsSubtype.unique {clause : String} {m n : Int} (h : PrintsSubtype clause m)
    (h' : PrintsSubtype clause n) : m = n := by
  have number : ∀ {k : Int}, PrintsSubtype clause k →
      (clause.toList.drop "BLOB SUB_TYPE ".toList.length).takeWhile (· != ' ') =
        (Text.decimalInt k).toList := by
    rintro k ⟨rest, rfl, ends⟩
    have stops : rest.toList.takeWhile (· != ' ') = [] := by
      rcases ends with rfl | ⟨more, rfl⟩ <;> simp
    calc
      _ = ((Text.decimalInt k).toList ++ rest.toList).takeWhile (· != ' ') := by
          rw [String.append_assoc, String.toList_append, List.drop_left, String.toList_append]
      _ = (Text.decimalInt k).toList ++ rest.toList.takeWhile (· != ' ') :=
          List.takeWhile_append_of_pos (blank_not_mem_decimalInt k)
      _ = (Text.decimalInt k).toList := by rw [stops, List.append_nil]
  exact Text.decimalInt_injective (String.toList_inj.1 ((number h).symm.trans (number h')))

/-- Neither the words of the clause nor a number has a `C` in it. -/
theorem not_givesCharset_subtype (n : Int) :
    ¬GivesCharset ("BLOB SUB_TYPE " ++ Text.decimalInt n) := by
  have absent : 'C' ∉ ("BLOB SUB_TYPE " ++ Text.decimalInt n).toList := by
    rw [String.toList_append, List.mem_append, not_or]
    refine ⟨by decide, fun mem => ?_⟩
    rcases Text.isDigit_of_mem_decimalInt mem with same | digit
    · cases same
    · cases digit
  rintro (found | found)
  · exact absent (found.subset (by simp))
  · exact absent (found.subset (by simp))

theorem GivesCharset.behind {clause : String} (h : GivesCharset clause) (front : String) :
    GivesCharset (front ++ clause) := by
  have suffix : clause.toList <:+: (front ++ clause).toList := by
    rw [String.toList_append]
    exact (List.suffix_append _ _).isInfix
  exact h.imp (fun found => found.trans suffix) (fun found => found.trans suffix)

/-! ## Clauses of BLOBs -/

/-- The clauses behind the type, apart from whether the type takes them. -/
def charsetClauses (c : Column) : String :=
  optionalClause " CHARACTER SET " (Text.nonBlank? c.charset) ++
    optionalClause " COLLATE " (Text.nonBlank? c.collate)

variable {c : Column}

theorem charsetClauses_of_not_hasCharset (h : ¬c.HasCharset) : c.charsetClauses = "" := by
  rcases not_or.1 h with ⟨charset, collate⟩
  unfold charsetClauses
  rw [not_not.1 charset, not_not.1 collate]
  rfl

theorem charsetClauses_of_hasCharset (h : c.HasCharset) :
    GivesCharset c.charsetClauses ∧ ∃ more, c.charsetClauses = " " ++ more := by
  unfold charsetClauses
  cases charset : Text.nonBlank? c.charset with
  | some name =>
      have blank : (" CHARACTER SET " : String) = " " ++ "CHARACTER SET " := by decide
      constructor
      · exact .inl ⟨[' '], ' ' :: (name ++ optionalClause " COLLATE "
          (Text.nonBlank? c.collate)).toList, by simp [optionalClause]⟩
      · refine ⟨"CHARACTER SET " ++ (name ++ optionalClause " COLLATE "
          (Text.nonBlank? c.collate)), ?_⟩
        rw [optionalClause, blank]
        simp only [String.append_assoc]
  | none =>
      -- Without a character set the collation stands alone.
      cases collate : Text.nonBlank? c.collate with
      | some name =>
          have blank : (" COLLATE " : String) = " " ++ "COLLATE " := by decide
          constructor
          · exact .inr ⟨[' '], ' ' :: name.toList, by simp [optionalClause]⟩
          · refine ⟨"COLLATE " ++ name, ?_⟩
            simp only [optionalClause, blank, String.append_assoc, String.empty_append]
      | none => exact absurd h (not_or.2 ⟨not_not.2 charset, not_not.2 collate⟩)

/-- What the type clause of a BLOB says. -/
structure BlobClause (c : Column) (clause : String) : Prop where
  prints : PrintsSubtype clause c.blobSubtype.toInt
  gives_iff : GivesCharset clause ↔ (c.group.isText = true ∨ c.blobSubtype = 1) ∧ c.HasCharset
  binary_iff : IsBinaryWithCharset clause ↔ c.ContradictsText

theorem blobSubtype_of_subtype {subtype : Int32} (h : c.subtype = some subtype) :
    c.blobSubtype = subtype := by
  rw [blobSubtype, h]

/-- The sub-type that is printed is another one than that of texts though the type code stands for
text: then it was given. -/
theorem contradictsText_iff :
    c.ContradictsText ↔ c.group.isText = true ∧ c.blobSubtype ≠ 1 ∧ c.HasCharset := by
  have printed : c.group.isText = true →
      ((∃ subtype, c.subtype = some subtype ∧ subtype ≠ 1) ↔ c.blobSubtype ≠ 1) := by
    intro text
    cases given : c.subtype with
    | none => simp [blobSubtype, given, text]
    | some subtype => simp [blobSubtype_of_subtype given]
  constructor
  · rintro ⟨text, subtype, charset⟩
    exact ⟨text, (printed text).1 subtype, charset⟩
  · rintro ⟨text, subtype, charset⟩
    exact ⟨text, (printed text).2 subtype, charset⟩

theorem takesCharset_blob :
    c.takesCharset "BLOB" = true ↔ c.group.isText = true ∨ c.blobSubtype = 1 := by
  simp [takesCharset]

theorem blobClause_of_typeClause? (blob : c.baseType? = some "BLOB") :
    ∃ clause, c.typeClause? = some clause ∧ BlobClause c clause := by
  have clause : c.typeClause? = some ("BLOB SUB_TYPE " ++ Text.decimalInt c.blobSubtype.toInt ++
      if c.takesCharset "BLOB" then c.charsetClauses else "") := by
    rw [typeClause?, blob]
    rfl
  refine ⟨_, clause, ?_⟩
  have one : ∀ n : Int32, n.toInt ≠ 1 ↔ n ≠ 1 := fun n =>
    not_congr (Int32.toInt_inj (y := 1))
  by_cases given : c.takesCharset "BLOB" = true ∧ c.HasCharset
  · -- The sub-type that is printed decides whether the clause contradicts itself.
    rcases charsetClauses_of_hasCharset given.2 with ⟨gives, begins⟩
    have prints : PrintsSubtype ("BLOB SUB_TYPE " ++ Text.decimalInt c.blobSubtype.toInt ++
        c.charsetClauses) c.blobSubtype.toInt := ⟨_, rfl, .inr begins⟩
    have charset := gives.behind ("BLOB SUB_TYPE " ++ Text.decimalInt c.blobSubtype.toInt)
    rw [if_pos given.1]
    rw [takesCharset_blob] at given
    refine ⟨prints, iff_of_true charset given, ?_⟩
    rw [contradictsText_iff]
    constructor
    · rintro ⟨n, printed, other, -⟩
      rw [printed.unique prints, one] at other
      exact ⟨given.1.resolve_right other, other, given.2⟩
    · rintro ⟨-, other, -⟩
      exact ⟨_, prints, (one _).2 other, charset⟩
  · -- Without a character set the clause ends with the sub-type.
    have nothing : (if c.takesCharset "BLOB" then c.charsetClauses else "") = "" := by
      by_cases takes : c.takesCharset "BLOB" = true
      · rw [if_pos takes, charsetClauses_of_not_hasCharset fun has => given ⟨takes, has⟩]
      · exact if_neg takes
    rw [nothing, String.append_empty]
    rw [takesCharset_blob] at given
    have bare := not_givesCharset_subtype c.blobSubtype.toInt
    refine ⟨⟨"", by rw [String.append_empty], .inl rfl⟩, iff_of_false bare given, ?_⟩
    rw [contradictsText_iff]
    refine iff_of_false ?_ ?_
    · rintro ⟨_, -, -, charset⟩
      exact bare charset
    · rintro ⟨text, -, has⟩
      exact given ⟨.inl text, has⟩

/-! ## Statements -/

/-- The statement gives a column of a table the type of a binary BLOB with a character set. -/
def MisgivesCharset (statement : String) : Prop :=
  ∃ table column clause, statement =
    "ALTER TABLE " ++ identifier table ++ " ALTER COLUMN " ++ identifier column ++
      (" TYPE " ++ clause) ∧ IsBinaryWithCharset clause

theorem MisgivesCharset.changesType {statement : String} (h : MisgivesCharset statement) :
    ChangesType statement := by
  rcases h with ⟨table, column, clause, same, -⟩
  exact ⟨table, column, clause, same⟩

/-- A written name has blanks between quotes only, and then it begins with a quote. -/
theorem not_isBinaryWithCharset_identifier (name : String) :
    ¬IsBinaryWithCharset (identifier name) := by
  rintro ⟨subtype, ⟨rest, same, -⟩, -⟩
  have chars : (identifier name).toList =
      "BLOB SUB_TYPE ".toList ++ ((Text.decimalInt subtype).toList ++ rest.toList) := by
    rw [same, String.toList_append, String.toList_append, List.append_assoc]
  cases quotes : Sql.needsQuotes name with
  | true =>
      rw [Sql.toList_identifier_of_quoted quotes] at chars
      cases (List.cons.inj chars).1
  | false =>
      rw [Sql.identifier_of_bare quotes] at chars
      have bare : Sql.isBareChar ' ' = true := by
        refine (Sql.bare_of_needsQuotes quotes).2 ' ' ?_
        rw [chars]
        exact List.mem_append_left _ (by decide)
      cases bare

theorem misgivesCharset_alterStatement {target : String} :
    MisgivesCharset (c.alterStatement ("TYPE " ++ target)) ↔ IsBinaryWithCharset target := by
  have opens : ∀ text : String, (" TYPE " ++ text).toList.head? = some ' ' := by
    intro text
    rw [String.toList_append]
    rfl
  have action : " " ++ ("TYPE " ++ target) = " TYPE " ++ target := by
    have words : (" " : String) ++ "TYPE " = " TYPE " := by decide
    rw [← String.append_assoc, words]
  have written : c.alterStatement ("TYPE " ++ target) =
      "ALTER TABLE " ++ c.quotedTable ++ " ALTER COLUMN " ++ c.quotedName ++
        (" TYPE " ++ target) :=
    calc
      _ = "ALTER TABLE " ++ c.quotedTable ++ " ALTER COLUMN " ++ c.quotedName ++
            (" " ++ ("TYPE " ++ target)) := String.append_assoc
      _ = _ := congrArg (fun text => _ ++ text) action
  rw [written]
  constructor
  · rintro ⟨table, column, clause, same, binary⟩
    have clauses := action_eq (opens target) (opens clause) same
    rw [String.append_right_inj] at clauses
    exact clauses ▸ binary
  · intro binary
    exact ⟨_, _, target, rfl, binary⟩

/-- The type is written down, and it is that of a binary BLOB with a character set. -/
theorem misgives_retyping {target : Except Refusal String} {texts : List String}
    (h : c.retyping target = .ok texts) :
    (∃ s ∈ texts, MisgivesCharset s) ↔
      c.keptBySystem = false ∧ ∃ text, target = .ok text ∧ IsBinaryWithCharset text := by
  cases kept : c.keptBySystem with
  | true =>
      rw [retyping, if_pos kept] at h
      cases h
      simp
  | false =>
      rcases eq_of_retyping kept h with ⟨text, rfl, rfl⟩
      simp [misgivesCharset_alterStatement]

/-- The column has a type clause, that of a binary BLOB with a character set. -/
def HasBinaryClause (c : Column) : Prop :=
  ∃ clause, c.typeClause? = some clause ∧ IsBinaryWithCharset clause

theorem hasBinaryClause_iff (blob : c.baseType? = some "BLOB") :
    c.HasBinaryClause ↔ c.ContradictsText := by
  rcases blobClause_of_typeClause? blob with ⟨clause, found, account⟩
  rw [← account.binary_iff, HasBinaryClause, found]
  simp

theorem misgives_retyping_typeClause {texts : List String}
    (h : c.retyping c.typeClause = .ok texts) :
    (∃ s ∈ texts, MisgivesCharset s) ↔ c.keptBySystem = false ∧ c.HasBinaryClause := by
  rw [misgives_retyping h]
  simp only [typeClause_eq_ok, HasBinaryClause]

/-- A domain has no clauses; only a domain that is gone leaves them to the column. -/
theorem misgives_retyping_storage {texts : List String} (h : c.retyping c.storage = .ok texts) :
    (∃ s ∈ texts, MisgivesCharset s) ↔
      Text.nonBlank? c.domain = none ∧ c.keptBySystem = false ∧ c.HasBinaryClause := by
  cases domain : Text.nonBlank? c.domain with
  | none =>
      have own : c.storage = c.typeClause := by
        rw [storage, quotedDomain?, domain]
        rfl
      rw [own] at h
      rw [misgives_retyping_typeClause h, and_iff_right rfl]
  | some name =>
      have named : c.storage = .ok (identifier name) := by
        rw [storage, quotedDomain?, domain]
        rfl
      rw [misgives_retyping h, named]
      refine iff_of_false ?_ nofun
      rintro ⟨-, _, same, binary⟩
      cases same
      exact not_isBinaryWithCharset_identifier name binary

end Column

namespace ColumnDraft

open Column (MisgivesCharset Setter)
open Script (Batch)

variable {d : ColumnDraft} {b : Batch}

/-- A character set is given to a binary BLOB exactly where its clause is that of the type that is
written. -/
theorem misgives_iff_of_existing (existing : d.existing = true) (written : d.toBatch = .ok b) :
    (∃ s ∈ b.statements, MisgivesCharset s) ↔ d.WritesType ∧ d.current.HasBinaryClause := by
  rcases (toBatch_eq_ok existing).1 written with ⟨⟨-, -, found⟩, rfl⟩
  unfold WritesType
  rw [if_pos existing]
  constructor
  · -- The statement is one of an attribute that changes the type: the type itself, or a domain.
    rintro ⟨s, mem, misgives⟩
    rcases List.mem_flatMap.1 mem with ⟨part, hpart, mem⟩
    have hpart := (List.mem_filter.1 hpart).2
    rcases found part hpart with ⟨texts, h⟩
    rw [partTexts_of_ok h] at mem
    rcases Column.part_of_changesType h mem misgives.changesType with rfl | rfl
    · rcases (Column.misgives_retyping_typeClause h).1 ⟨s, mem, misgives⟩ with ⟨free, clause⟩
      exact ⟨⟨free, .inr (isWritten_type_iff.1 hpart)⟩, clause⟩
    · rcases (Column.misgives_retyping_storage h).1 ⟨s, mem, misgives⟩ with ⟨gone, free, clause⟩
      have marked := (isWritten_iff_of_ne_type .domain nofun).1 hpart
      exact ⟨⟨free, .inl ⟨marked, gone⟩⟩, clause⟩
  · rintro ⟨⟨free, ⟨marked, gone⟩ | ⟨marked, alone⟩⟩, clause⟩
    · have hpart : d.isWritten .domain = true := (isWritten_iff_of_ne_type .domain nofun).2 marked
      rcases exists_mem_statements existing written hpart with ⟨texts, h, mem⟩
      rcases (Column.misgives_retyping_storage h).2 ⟨gone, free, clause⟩ with ⟨s, hs, misgives⟩
      exact ⟨s, mem s hs, misgives⟩
    · have hpart : d.isWritten .type = true := isWritten_type_iff.2 ⟨marked, alone⟩
      rcases exists_mem_statements existing written hpart with ⟨texts, h, mem⟩
      rcases (Column.misgives_retyping_typeClause h).2 ⟨free, clause⟩ with ⟨s, hs, misgives⟩
      exact ⟨s, mem s hs, misgives⟩

/-! ## Loaded BLOBs of text -/

/-- What edits of a BLOB of text lead to. -/
structure CharsetAccount (edits : List Column.Edit) (d : ColumnDraft) (b : Batch) : Prop where
  /-- The sub-type is that of the last call of its setter. -/
  subtype : d.current.subtype = (edits.filterMap Setter.subtype.argument?).getLast?.getD (some 1)
  misgives_iff : (∃ s ∈ b.statements, MisgivesCharset s) ↔
    d.WritesType ∧ d.current.HasBinaryClause
  /-- While the column is a BLOB, it takes a type code that stands for text and another sub-type;
  then nothing but the system, or a domain that was set too, keeps the type from being written. -/
  blob : d.current.baseType? = some "BLOB" →
    ((∃ s ∈ b.statements, MisgivesCharset s) ↔
      d.current.keptBySystem = false ∧
        (d.isMarked .domain = true → Text.nonBlank? d.current.domain = none) ∧
        d.current.ContradictsText)

theorem writesType_iff_of_isMarked (existing : d.existing = true)
    (marked : d.isMarked .type = true) :
    d.WritesType ↔ d.current.keptBySystem = false ∧
      (d.isMarked .domain = true → Text.nonBlank? d.current.domain = none) := by
  unfold WritesType
  rw [if_pos existing]
  cases domain : d.isMarked .domain <;> simp [marked]

theorem charsetAccount_applyEdits {c : Column} (text : c.subtype = some 1)
    (edits : List Column.Edit) (written : (applyEdits (.ofExisting c) edits).toBatch = .ok b) :
    CharsetAccount edits (applyEdits (.ofExisting c) edits) b := by
  have account : Account c true edits (applyEdits (.ofExisting c) edits) :=
    account_applyEdits c true edits
  have misgives_iff := misgives_iff_of_existing account.existing written
  have read : c.subtype = Setter.subtype.read c := rfl
  refine ⟨?_, misgives_iff, ?_⟩
  · rw [← text, read]
    exact account.current .subtype
  · intro blob
    rw [misgives_iff, Column.hasBinaryClause_iff blob, ← and_assoc]
    refine and_congr_left fun contradicts => ?_
    -- Another sub-type than the one that was loaded has marked the type.
    have changed : Setter.subtype.read (applyEdits (.ofExisting c) edits).current ≠
        Setter.subtype.read c := by
      rcases contradicts.subtype with ⟨subtype, now, other⟩
      intro same
      have kept : some subtype = some 1 := now.symm.trans (same.trans text)
      exact other (Option.some.inj kept)
    exact writesType_iff_of_isMarked account.existing (account.changed .subtype changed)

/-- The row of the system tables describes a BLOB of text. -/
structure IsTextBlob (row : Catalog.Row) : Prop where
  field : row.integer? "RDB$FIELD_TYPE" = some 261
  subtype : row.integer? "RDB$FIELD_SUB_TYPE" = some 1

theorem IsTextBlob.ofRow {row : Catalog.Row} (h : IsTextBlob row) (table name : String) :
    (Column.ofRow table name row).baseType? = some "BLOB" ∧
      (Column.ofRow table name row).subtype = some 1 := by
  have code : (Column.ofRow table name row).typeCode =
      Column.typeOfField ((row.integer? "RDB$FIELD_TYPE").getD 0)
        ((row.integer? "RDB$FIELD_SUB_TYPE").getD 0) := rfl
  have type : (Column.ofRow table name row).typeName =
      (Column.ofRow table name row).typeCode.name?.getD "" := rfl
  have given : (Column.ofRow table name row).subtype =
      if ((row.integer? "RDB$FIELD_TYPE").getD 0).toInt = Column.blobFieldType then
        some ((row.integer? "RDB$FIELD_SUB_TYPE").getD 0).toInt32
      else none := rfl
  rw [h.field, h.subtype] at code given
  have named : (Column.ofRow table name row).typeName = "BLOB" := by
    rw [type, code]
    decide
  have upper : Text.upperCase (Text.trim "BLOB") = "BLOB" := by decide +kernel
  refine ⟨?_, given⟩
  rw [Column.baseType?, named, upper]
  rfl

/-- The clause of a BLOB gives a character set exactly if there is one and the type code or the
sub-type stands for text; and a BLOB of text that was loaded is written as a binary one with a
character set exactly if its type code still stands for text, its sub-type has been set to another
one, and its type is written. -/
theorem misgives_iff_of_load (c : Column) (catalog : Catalog) (table name : String)
    (row : Catalog.Row) (rest : List Catalog.Row) :
    (c.baseType? = some "BLOB" →
        ∃ clause, c.typeClause? = some clause ∧ Column.BlobClause c clause) ∧
      (catalog ⟨Column.catalogSql, [.text table, .text name]⟩ = .ok (row :: rest) →
        IsTextBlob row →
          ∃ d, ((load table name).run catalog).result = .ok d ∧
            d.current.baseType? = some "BLOB" ∧ d.current.blobSubtype = 1 ∧
            ∀ edits b, (d.applyEdits edits).toBatch = .ok b →
              CharsetAccount edits (d.applyEdits edits) b) := by
  refine ⟨Column.blobClause_of_typeClause?, fun answer text => ?_⟩
  rcases text.ofRow table name with ⟨base, subtype⟩
  exact ⟨_, finds_load answer, base, Column.blobSubtype_of_subtype subtype,
    fun edits b written => charsetAccount_applyEdits subtype edits written⟩

/-- The row of a BLOB of text in UTF-8. -/
def notesRow : Catalog.Row :=
  ⟨["RDB$FIELD_TYPE", "RDB$FIELD_SUB_TYPE", "RDB$CHARACTER_SET_NAME"],
    [.int16 261, .int16 1, .text "UTF8"]⟩

/-- The system tables of a database with that column. -/
def notesCatalog : Catalog :=
  .ofAnswers [(⟨Column.catalogSql, [.text "T", .text "NOTES"]⟩, [notesRow])]

/-- That column as it is loaded. -/
def notes : Column :=
  .ofRow "T" "NOTES" notesRow

/-- The column is to hold binary values. -/
def binaryNotes : ColumnDraft :=
  applyEdits (.ofExisting notes) [.subtype (some 0)]

theorem isTextBlob_notesRow : IsTextBlob notesRow where
  field := by decide
  subtype := by decide

theorem notesCatalog_answer :
    notesCatalog ⟨Column.catalogSql, [.text "T", .text "NOTES"]⟩ = .ok [notesRow] :=
  Catalog.ofAnswers_cons_self _ _ _

theorem toBatch_binaryNotes :
    binaryNotes.toBatch = .ok (Batch.ofStatements
      ["ALTER TABLE T ALTER COLUMN NOTES TYPE BLOB SUB_TYPE 0 CHARACTER SET UTF8"]) := by
  decide +kernel

theorem contradictsText_binaryNotes : binaryNotes.current.ContradictsText where
  text := by decide +kernel
  subtype := ⟨0, by decide +kernel, by decide⟩
  charset := .inl (by decide +kernel)

theorem misgives_iff_of_load_notes :
    (notes.baseType? = some "BLOB" ∧
        notesCatalog ⟨Column.catalogSql, [.text "T", .text "NOTES"]⟩ = .ok [notesRow] ∧
        IsTextBlob notesRow) ∧
      (∃ clause, notes.typeClause? = some clause ∧ Column.BlobClause notes clause) ∧
      ∃ d b, ((load "T" "NOTES").run notesCatalog).result = .ok d ∧
        (d.applyEdits [.subtype (some 0)]).toBatch = .ok b ∧
        ∃ s ∈ b.statements, MisgivesCharset s := by
  have base : notes.baseType? = some "BLOB" := (isTextBlob_notesRow.ofRow "T" "NOTES").1
  have account := misgives_iff_of_load notes notesCatalog "T" "NOTES" notesRow []
  refine ⟨⟨base, notesCatalog_answer, isTextBlob_notesRow⟩, account.1 base, ?_⟩
  rcases account.2 notesCatalog_answer isTextBlob_notesRow with ⟨d, loaded, -, -, accounts⟩
  cases loaded.symm.trans (finds_load notesCatalog_answer)
  have behind := accounts [.subtype (some 0)] _ toBatch_binaryNotes
  refine ⟨_, _, loaded, toBatch_binaryNotes, (behind.blob base).2 ?_⟩
  -- The system does not keep the column, and its domain was not touched.
  exact ⟨by decide +kernel, nofun, contradictsText_binaryNotes⟩

/-- A BLOB of text whose sub-type is set to that of binary values keeps its character set. -/
theorem binaryBlob_hasCharset :
    IsTextBlob notesRow ∧
      ∃ d, ((load "T" "NOTES").run notesCatalog).result = .ok d ∧
        (d.applyEdits [.subtype (some 0)]).current.blobSubtype = 0 ∧
        (d.applyEdits [.subtype (some 0)]).current.typeClause? =
          some "BLOB SUB_TYPE 0 CHARACTER SET UTF8" ∧
        (d.applyEdits [.subtype (some 0)]).toBatch = .ok (Batch.ofStatements
          ["ALTER TABLE T ALTER COLUMN NOTES TYPE BLOB SUB_TYPE 0 CHARACTER SET UTF8"]) ∧
        (d.applyEdits [.subtype (some 0)]).toBatch ≠ .ok (Batch.ofStatements
          ["ALTER TABLE T ALTER COLUMN NOTES TYPE BLOB SUB_TYPE 0"]) := by
  refine ⟨isTextBlob_notesRow, _, finds_load notesCatalog_answer, rfl, by decide +kernel,
    toBatch_binaryNotes, ?_⟩
  refine ne_of_eq_of_ne toBatch_binaryNotes ?_
  decide

end ColumnDraft
end SchemaChange

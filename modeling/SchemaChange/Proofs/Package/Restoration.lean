import Mathlib.Data.List.Infix
import SchemaChange.Package.Load
import SchemaChange.Package.Statements
import SchemaChange.Proofs.Catalog.Lookup
import SchemaChange.Proofs.Refusal
import SchemaChange.Proofs.Sql.Identifier
import SchemaChange.Proofs.Text.Rewording
import SchemaChange.Proofs.Text.Source

/-!
# Proofs.Package.Restoration — sources that are loaded and written

Loading puts the placeholder where the name stands, and writing puts the written name where the
placeholder stands. Head and source come back as they are, but for the places where a name that
needs quotes stood without them. In the head such a name has its own place; a head in which it
stands in another place as well is not kept.

- `Package.SparesHead`          : a name that stands in its own place of the head alone
- `Package.Restores`            : what is written for a source behind its head
- `Package.kept_iff_sparesHead` : which heads are kept
- `Package.sources_of_load`     : the statements of a package that was loaded
- `Package.source_requoted`     : a comment and a head that are changed
-/

namespace SchemaChange
namespace Package

open Sql (identifier)
open Script (Batch)

/-! ## Heads -/

/-- A source behind its head. -/
def withHead (verb name source : String) : String :=
  verb ++ name ++ "\nas\n" ++ source

/-- What follows the name. -/
def behindName (source : String) : List Char :=
  '\n' :: 'a' :: 's' :: '\n' :: source.toList

theorem toList_withHead (verb name source : String) :
    (withHead verb name source).toList =
      verb.toList ++ (name.toList ++ behindName source) := by
  have line : ("\nas\n" : String).toList = ['\n', 'a', 's', '\n'] := rfl
  simp [withHead, behindName, line]

/-- The text in front of the name: words with a blank behind each of them. -/
structure IsVerb (verb : String) : Prop where
  nonempty : verb.toList ≠ []
  starts : verb.toList.head?.map Text.isSpace = some false
  begins : Text.mayBegin true verb.toList = true
  /-- No placeholder begins in it. -/
  unmarked : '<' ∉ verb.toList
  unquoted : '\x22' ∉ verb.toList

theorem isVerb_header : IsVerb "create or alter package " :=
  ⟨by decide, by decide, by decide, by decide, by decide⟩

theorem isVerb_body : IsVerb "recreate package body " :=
  ⟨by decide, by decide, by decide, by decide, by decide⟩

/-- In the head the name stands in its own place alone: nowhere in front of that place, and not at
the word in the line behind it. -/
def SparesHead (verb name source : String) : Prop :=
  ∀ gap after, Text.StandsAt name.toList true (withHead verb name source).toList gap after →
    verb.toList.length ≤ gap.length ∧ gap ≠ (verb ++ name ++ "\n").toList

theorem sparesHead_iff {verb name source : String} :
    SparesHead verb name source ↔
      ∀ gap ∈ (withHead verb name source).toList.inits,
        Text.mayBegin true gap = true →
        Text.wordAt name.toList ((withHead verb name source).toList.drop gap.length) = true →
          verb.toList.length ≤ gap.length ∧ gap ≠ (verb ++ name ++ "\n").toList := by
  constructor
  · intro spares gap mem begins found
    rcases Text.exists_standsAt_iff.2 ⟨(List.mem_inits gap _).1 mem, begins, found⟩ with
      ⟨after, stands⟩
    exact spares gap after stands
  · intro spares gap after stands
    rcases Text.exists_standsAt_iff.1 ⟨after, stands⟩ with ⟨front, begins, found⟩
    exact spares gap ((List.mem_inits gap _).2 front) begins found

instance (verb name source : String) : Decidable (SparesHead verb name source) :=
  decidable_of_iff _ sparesHead_iff.symm

theorem not_wordAt_of_sparesHead {verb name source : String}
    (spares : SparesHead verb name source) :
    Text.wordAt name.toList ('a' :: 's' :: '\n' :: source.toList) = false := by
  rw [← Bool.not_eq_true]
  intro found
  rcases Text.wordAt_iff.1 found with ⟨after, chars, ends⟩
  have stands : Text.StandsAt name.toList true (withHead verb name source).toList
      (verb ++ name ++ "\n").toList after := by
    refine ⟨?_, ?_, ends⟩
    · rw [toList_withHead, behindName, chars]
      simp
    · simp only [String.toList_append, Text.mayBegin, List.getLast?_append]
      rfl
  exact (spares _ _ stands).2 rfl

section Head

variable {verb name source : String} (h : IsVerb verb)

include h

theorem IsVerb.startsFull : Text.StartsFull verb.toList := by
  intro c hc
  have starts := h.starts
  rw [hc] at starts
  exact Option.some_inj.1 starts

theorem isTrimmed_withHead (name : String) (last : Text.EndsFull source.toList)
    (full : source ≠ "") : Text.IsTrimmed (withHead verb name source).toList := by
  have nonempty : source.toList ≠ [] := by simpa using full
  constructor
  · rw [toList_withHead]
    exact h.startsFull.append h.nonempty _
  · rw [withHead, String.toList_append]
    exact last.behind nonempty _

/-- The name's own place. -/
theorem standsAt_own (name source : String) :
    Text.StandsAt name.toList true (withHead verb name source).toList verb.toList
      (behindName source) :=
  ⟨toList_withHead verb name source, h.begins, rfl⟩

/-- Where the name spares the head it is replaced there in its own place alone. -/
theorem replaceWords_withHead (nonempty : name ≠ "") (spares : SparesHead verb name source)
    (new : String) :
    Text.replaceWords name new (withHead verb name source) =
      withHead verb new (Text.replaceWords name new source) := by
  have full : name.toList ≠ [] := by simpa using nonempty
  have other := not_wordAt_of_sparesHead spares
  have inside : ∀ text, false = true → Text.wordAt name.toList text = false := by
    intro text impossible
    cases impossible
  have newline : Text.isSpace '\n' = true := rfl
  have a : Text.isSpace 'a' = false := rfl
  have s : Text.isSpace 's' = false := rfl
  -- The line behind the name is passed over, and then a word may begin.
  have line : Text.replaceWordsFrom name.toList new.toList 0 false (behindName source) =
      '\n' :: 'a' :: 's' :: '\n' ::
        Text.replaceWordsFrom name.toList new.toList 0 true source.toList := by
    rw [behindName, Text.replaceWordsFrom_of_not_wordAt (inside _), newline,
      Text.replaceWordsFrom_of_not_wordAt (fun _ => other), a,
      Text.replaceWordsFrom_of_not_wordAt (inside _), s,
      Text.replaceWordsFrom_of_not_wordAt (inside _), newline]
  rw [← String.toList_inj, Text.toList_replaceWords nonempty,
    Text.replaceWordsFrom_of_first full (standsAt_own h name source)
      (fun gap after stands => (spares gap after stands).1),
    line, toList_withHead, behindName, Text.toList_replaceWords nonempty]

/-- The head is kept for no other name that is written with quotes. -/
theorem sparesHead_of_rewords {new restored : String} (quoted : new.toList.head? = some '\x22')
    (words : Text.Rewords name.toList new.toList true (withHead verb name source).toList
      (withHead verb new restored).toList) :
    SparesHead verb name source := by
  rw [toList_withHead verb new] at words
  have first : ∀ gap after,
      Text.StandsAt name.toList true (withHead verb name source).toList gap after →
        verb.toList.length ≤ gap.length :=
    fun gap after stands => words.length_le quoted h.unquoted stands
  intro gap after stands
  refine ⟨first gap after stands, ?_⟩
  rintro rfl
  -- Seen from behind the name, the word in the next line is one character away.
  have line : Text.StandsAt name.toList false (behindName source) ['\n'] after := by
    refine ⟨?_, rfl, stands.ends⟩
    have whole := stands.chars
    simp only [toList_withHead, String.toList_append, List.append_assoc,
      List.append_cancel_left_eq] at whole
    exact whole
  have behind := words.behind_first (standsAt_own h name source) first
  have kept : behindName restored = ['\n', 'a'] ++ ('s' :: '\n' :: restored.toList) := rfl
  rw [kept] at behind
  exact absurd (behind.length_le quoted (by decide) line) (by decide)

end Head

/-! ## Sources -/

/-- What is written for a source behind its head: head and source with the written name. A name
without quotes changes nothing in the source. A name that needs them and spares the head is written
with them in every place of the source where it stands between blanks. -/
structure Restores (verb name source written : String) : Prop where
  of_bare : Sql.needsQuotes name = false → written = withHead verb (identifier name) source
  of_spared : SparesHead verb name source → ∃ restored : String,
    written = withHead verb (identifier name) restored ∧
      Text.Rewords name.toList (identifier name).toList true source.toList restored.toList
  of_absent : SparesHead verb name source →
    (∀ gap after, ¬Text.StandsAt name.toList true source.toList gap after) →
      written = withHead verb (identifier name) source

theorem restores_replaceWords {verb name : String} (h : IsVerb verb) (nonempty : name ≠ "")
    (source : String) :
    Restores verb name source
      (Text.replaceWords name (identifier name) (withHead verb name source)) := by
  have words := Text.rewords_replaceWords nonempty (identifier name) (withHead verb name source)
  have inner := Text.rewords_replaceWords nonempty (identifier name) source
  constructor
  · intro bare
    rw [Sql.identifier_of_bare bare] at words ⊢
    exact String.toList_inj.1 words.eq_of_same
  · intro spares
    exact ⟨_, replaceWords_withHead h nonempty spares _, inner⟩
  · intro spares absent
    rw [replaceWords_withHead h nonempty spares,
      String.toList_inj.1 (inner.eq_of_absent absent)]

/-- Of the names that need quotes no other keeps its head. -/
theorem kept_iff_sparesHead {verb name source : String} (h : IsVerb verb) (nonempty : name ≠ "")
    (quotes : Sql.needsQuotes name = true) :
    (∃ restored, Text.replaceWords name (identifier name) (withHead verb name source) =
        withHead verb (identifier name) restored) ↔
      SparesHead verb name source := by
  constructor
  · rintro ⟨restored, kept⟩
    have words := Text.rewords_replaceWords nonempty (identifier name) (withHead verb name source)
    rw [kept] at words
    refine sparesHead_of_rewords h ?_ words
    rw [Sql.toList_identifier_of_quoted quotes]
    rfl
  · intro spares
    exact ⟨_, replaceWords_withHead h nonempty spares _⟩

theorem isToken_defaultPlaceholder :
    Text.IsToken defaultPlaceholder.toList '<' "name_package>".toList :=
  ⟨by decide, by decide⟩

theorem spares_trim {token : List Char} {source : String} (spared : ¬token <:+: source.toList) :
    ¬token <:+: (Text.trim source).toList := by
  rcases Text.exists_blanks_around source.toList with ⟨before, after, -, -, chars⟩
  intro contained
  rw [Text.toList_trim] at contained
  exact spared (contained.trans ⟨before, after, chars.symm⟩)

section Source

variable {verb name source : String} (h : IsVerb verb)

include h

/-- A name with the mark of a placeholder in it stands nowhere in front of its own place. -/
theorem length_le_of_marked (marked : '<' ∈ name.toList) {gap after : List Char}
    (stands : Text.StandsAt name.toList true (withHead verb name source).toList gap after) :
    verb.toList.length ≤ gap.length := by
  have chars := stands.chars.symm.trans (toList_withHead verb name source)
  rcases List.append_eq_append_iff.1 chars with ⟨more, front, behind⟩ | ⟨less, rfl, -⟩
  · -- The first mark is equally far behind the beginning of both texts.
    have unmarked : '<' ∉ more := by
      intro mem
      exact h.unmarked (front ▸ List.mem_append_right gap mem)
    have index := congrArg (List.idxOf '<') behind
    rw [List.idxOf_append_of_mem marked, List.idxOf_append_of_notMem unmarked,
      List.idxOf_append_of_mem marked] at index
    have length := congrArg List.length front
    rw [List.length_append] at length
    omega
  · rw [List.length_append]
    omega

variable (last : Text.EndsFull source.toList) (full : source ≠ "")

include last full

theorem abstractName_withHead (name : String) :
    abstractName name (withHead verb name source) =
      Text.replaceWords name defaultPlaceholder (withHead verb name source) := by
  have whole : Text.trim (withHead verb name source) = withHead verb name source :=
    Text.trim_eq_self_iff.2 (isTrimmed_withHead h name last full)
  rw [abstractName, whole]

/-- A source with its head is as loading left it when it is written. -/
theorem demand_abstractName (nonempty : name ≠ "") (field : Field) :
    demand field (some (abstractName name (withHead verb name source))) =
      .ok (abstractName name (withHead verb name source)) := by
  have token : defaultPlaceholder.toList ≠ [] := by decide
  have sides : Text.IsTrimmed defaultPlaceholder.toList :=
    Text.trim_eq_self_iff.1 (by decide +kernel)
  have whole := isTrimmed_withHead h name last full
  have words := Text.rewords_replaceWords nonempty defaultPlaceholder (withHead verb name source)
  have trimmed := Text.trim_eq_self_iff.2
    ⟨words.startsFull token sides.head whole.head, words.endsFull token sides.last whole.last⟩
  have left := words.ne_nil token (by
    rw [toList_withHead]
    exact List.append_ne_nil_of_left_ne_nil h.nonempty _)
  rw [abstractName_withHead h last full]
  refine demand_some_eq_ok.2 ⟨?_, trimmed⟩
  rw [Text.isBlank_eq_false_iff, trimmed]
  simpa using left

/-- The placeholders that loading puts into a source become the written name. -/
theorem replaceAll_abstractName (nonempty : name ≠ "")
    (spared : ¬defaultPlaceholder.toList <:+: source.toList)
    (new : String) :
    Text.replaceAll defaultPlaceholder new (abstractName name (withHead verb name source)) =
      Text.replaceWords name new (withHead verb name source) := by
  have token := isToken_defaultPlaceholder
  have named : name.toList ≠ [] := by simpa using nonempty
  have line : '<' ∉ ['\n', 'a', 's', '\n'] := by decide
  have behind : ¬defaultPlaceholder.toList <:+: behindName source := by
    intro found
    exact spared (Text.infix_of_infix_append token line found)
  rw [abstractName_withHead h last full, Text.replaceAll, if_neg (by decide),
    ← String.toList_inj, String.toList_ofList, Text.toList_replaceWords nonempty,
    Text.toList_replaceWords nonempty]
  by_cases marked : '<' ∈ name.toList
  · -- The name may have a placeholder in it, but its own place is the first one.
    have first : ∀ earlier later, Text.StandsAt name.toList true
        (withHead verb name source).toList earlier later → verb.toList.length ≤ earlier.length :=
      fun earlier later stands => length_le_of_marked h marked stands
    have own := standsAt_own h name source
    rw [Text.replaceWordsFrom_of_first named own first,
      Text.replaceWordsFrom_of_first named own first,
      Text.replaceFrom_append_of_not_mem token h.unmarked, Text.replaceFrom_token token,
      Text.replaceFrom_replaceWordsFrom token 0 false behind]
  · refine Text.replaceFrom_replaceWordsFrom token 0 true ?_
    intro found
    rw [toList_withHead] at found
    exact behind (Text.infix_of_infix_append token marked
      (Text.infix_of_infix_append token h.unmarked found))

end Source

/-- What becomes of a source that is stored: it is there when it is demanded, and the name is
written wherever it stands between blanks. -/
theorem written_of_stored {verb name source : String} (h : IsVerb verb) (nonempty : name ≠ "")
    (full : Text.isBlank source = false)
    (spared : ¬defaultPlaceholder.toList <:+: source.toList) (field : Field) :
    demand field (some (abstractName name (withHead verb name (Text.trim source)))) =
        .ok (abstractName name (withHead verb name (Text.trim source))) ∧
      Text.replaceAll defaultPlaceholder (identifier name)
          (abstractName name (withHead verb name (Text.trim source))) =
        Text.replaceWords name (identifier name) (withHead verb name (Text.trim source)) := by
  have last := (Text.isTrimmed_trim source).last
  have left := Text.isBlank_eq_false_iff.1 full
  constructor
  · exact demand_abstractName h last left nonempty field
  · exact replaceAll_abstractName h last left nonempty (spares_trim spared) _

/-! ## Loading and writing -/

variable {catalog : Catalog} {name header body : String}
variable {row : Catalog.Row} {rest : List Catalog.Row}

/-- The comment of a package, if it has one. -/
def loadedComment (name : String) (row : Catalog.Row) : List String :=
  (row.text? "RDB$DESCRIPTION").toList.map fun text =>
    "COMMENT ON PACKAGE " ++ identifier name ++ " IS " ++ Sql.quoteText text

theorem finds_load (answer : catalog ⟨catalogSql, [.text name]⟩ = .ok (row :: rest)) :
    (load name).Finds catalog (ofRow name row) :=
  finds_row.2 ⟨row, rest, answer, Lookup.finds_pure.2 rfl⟩

theorem commentStatements_ofRow (name : String) (row : Catalog.Row) :
    (ofRow name row).commentStatements (identifier name) = loadedComment name row := by
  have description : (ofRow name row).description = row.text? "RDB$DESCRIPTION" := rfl
  unfold commentStatements loadedComment
  rw [description]
  cases given : row.text? "RDB$DESCRIPTION" with
  | none => rfl
  | some text =>
      rcases Catalog.Row.text?_eq_some given with ⟨trimmed, nonempty⟩
      have full : Text.isBlank text = false := Text.isBlank_eq_false_iff.2 (by rwa [trimmed])
      simp [full, trimmed]

/-- A package that is loaded and written without an edit is written with its own heads and sources;
a name that needs quotes, and spares the heads, is written with them wherever it stood between
blanks. -/
theorem sources_of_load (trimmed : Text.trim name = name) (nonempty : name ≠ "")
    (answer : catalog ⟨catalogSql, [.text name]⟩ = .ok (row :: rest))
    (headerStored : row.value? "RDB$PACKAGE_HEADER_SOURCE" = some (.text header))
    (headerFull : Text.isBlank header = false)
    (headerSpared : ¬defaultPlaceholder.toList <:+: header.toList)
    (bodyStored : row.value? "RDB$PACKAGE_BODY_SOURCE" = some (.text body))
    (bodyFull : Text.isBlank body = false)
    (bodySpared : ¬defaultPlaceholder.toList <:+: body.toList) :
    ∃ p writtenHeader writtenBody, ((load name).run catalog).result = .ok p ∧
      p.toBatch =
        .ok (Batch.ofStatements ([writtenHeader, writtenBody] ++ loadedComment name row)) ∧
      Restores "create or alter package " name (Text.trim header) writtenHeader ∧
      Restores "recreate package body " name (Text.trim body) writtenBody := by
  have named : demand .name (some name) = .ok name :=
    demand_some_eq_ok.2 ⟨Text.isBlank_eq_false_iff.2 (by rwa [trimmed]), trimmed⟩
  rcases written_of_stored isVerb_header nonempty headerFull headerSpared .header with
    ⟨headerDemanded, headerWritten⟩
  rcases written_of_stored isVerb_body nonempty bodyFull bodySpared .body with
    ⟨bodyDemanded, bodyWritten⟩
  -- Loading puts the heads in front of what is stored, without the blanks around it.
  have headerText : (ofRow name row).header =
      abstractName name (withHead "create or alter package " name (Text.trim header)) := by
    rw [ofRow, Catalog.Row.text?_of_text headerStored headerFull]
    rfl
  have bodyText : (ofRow name row).body =
      abstractName name (withHead "recreate package body " name (Text.trim body)) := by
    rw [ofRow, Catalog.Row.text?_of_text bodyStored bodyFull]
    rfl
  refine ⟨ofRow name row, _, _, finds_load answer, ?_,
    restores_replaceWords isVerb_header nonempty _, restores_replaceWords isVerb_body nonempty _⟩
  refine map_eq_ok.2 ⟨_, ?_, rfl⟩
  refine bind_eq_ok.2 ⟨name, named, ?_⟩
  rw [headerText, bodyText]
  refine bind_eq_ok.2 ⟨_, headerDemanded, ?_⟩
  refine bind_eq_ok.2 ⟨_, bodyDemanded, ?_⟩
  rw [← commentStatements_ofRow]
  exact congrArg₂ (fun first second => Except.ok ([first, second] ++
    (ofRow name row).commentStatements (identifier name))) headerWritten bodyWritten

def packageRow (header body : String) : Catalog.Row :=
  ⟨["RDB$PACKAGE_HEADER_SOURCE", "RDB$PACKAGE_BODY_SOURCE", "RDB$DESCRIPTION"],
    [.text header, .text body, .text "totals "]⟩

/-- The system tables of a database with one package. -/
def packageCatalog (name header body : String) : Catalog :=
  .ofAnswers [(⟨catalogSql, [.text name]⟩, [packageRow header body])]

theorem packageCatalog_row (name header body : String) :
    packageCatalog name header body ⟨catalogSql, [.text name]⟩ = .ok [packageRow header body] :=
  Catalog.ofAnswers_cons_self _ _ _

/-- A name that is mentioned in a comment, and one that begins with a word of a head. -/
theorem sources_of_load_quoted :
    (Text.trim "Sales" = "Sales" ∧ "Sales" ≠ "" ∧
        ¬defaultPlaceholder.toList <:+: "begin\n  -- Sales\nend\n".toList ∧
        ¬defaultPlaceholder.toList <:+: "begin\n  -- 'Sales' <as \x22Sales\x22>\nend".toList ∧
        Text.trim "body parts" = "body parts" ∧ "body parts" ≠ "" ∧
        ¬defaultPlaceholder.toList <:+: "begin\nend".toList) ∧
      (∃ p, ((load "Sales").run (packageCatalog "Sales" "begin\n  -- Sales\nend\n"
          "begin\n  -- 'Sales' <as \x22Sales\x22>\nend")).result = .ok p ∧
        p.toBatch = .ok (Batch.ofStatements
          [ "create or alter package \x22Sales\x22\nas\nbegin\n  -- \x22Sales\x22\nend",
            "recreate package body \x22Sales\x22\nas\nbegin\n  -- 'Sales' <as \x22Sales\x22>\nend",
            "COMMENT ON PACKAGE \x22Sales\x22 IS 'totals'" ])) ∧
      ∃ p, ((load "body parts").run
          (packageCatalog "body parts" "begin\nend" "begin\nend")).result = .ok p ∧
        p.toBatch = .ok (Batch.ofStatements
          [ "create or alter package \x22body parts\x22\nas\nbegin\nend",
            "recreate package body \x22body parts\x22\nas\nbegin\nend",
            "COMMENT ON PACKAGE \x22body parts\x22 IS 'totals'" ]) := by
  have sales : Text.trim "Sales" = "Sales" := by decide +kernel
  have salesFull : "Sales" ≠ "" := by decide
  have header : ¬defaultPlaceholder.toList <:+: "begin\n  -- Sales\nend\n".toList := by
    decide +kernel
  have body : ¬defaultPlaceholder.toList <:+:
      "begin\n  -- 'Sales' <as \x22Sales\x22>\nend".toList := by decide +kernel
  have parts : Text.trim "body parts" = "body parts" := by decide +kernel
  have partsFull : "body parts" ≠ "" := by decide
  have empty : ¬defaultPlaceholder.toList <:+: "begin\nend".toList := by decide +kernel
  refine ⟨⟨sales, salesFull, header, body, parts, partsFull, empty⟩, ?_, ?_⟩
  · rcases sources_of_load sales salesFull (packageCatalog_row _ _ _) rfl
        (by decide) header rfl (by decide) body with
      ⟨p, writtenHeader, writtenBody, loaded, batch, restoredHeader, restoredBody⟩
    rcases restoredHeader.of_spared (by decide +kernel) with ⟨first, rfl, headerWords⟩
    rcases restoredBody.of_spared (by decide +kernel) with ⟨second, rfl, bodyWords⟩
    refine ⟨p, loaded, batch.trans ?_⟩
    rw [(Text.rewords_iff salesFull).1 headerWords, (Text.rewords_iff salesFull).1 bodyWords]
    decide +kernel
  · rcases sources_of_load parts partsFull (packageCatalog_row _ _ _) rfl
        (by decide) empty rfl (by decide) empty with
      ⟨p, writtenHeader, writtenBody, loaded, batch, restoredHeader, restoredBody⟩
    rcases restoredHeader.of_spared (by decide +kernel) with ⟨first, rfl, headerWords⟩
    rcases restoredBody.of_spared (by decide +kernel) with ⟨second, rfl, bodyWords⟩
    refine ⟨p, loaded, batch.trans ?_⟩
    rw [(Text.rewords_iff partsFull).1 headerWords, (Text.rewords_iff partsFull).1 bodyWords]
    decide +kernel

/-- A comment that mentions a name which needs quotes is not left alone, and neither is a head with
such a name among its words. -/
theorem source_requoted :
    (Text.trim "Sales" = "Sales" ∧ "Sales" ≠ "" ∧ Text.trim "or" = "or" ∧ "or" ≠ "" ∧
        ¬defaultPlaceholder.toList <:+: "begin\n  -- Sales totals\nend".toList ∧
        ¬defaultPlaceholder.toList <:+: "begin\nend".toList) ∧
      (∃ p, ((load "Sales").run
          (packageCatalog "Sales" "begin\n  -- Sales totals\nend" "begin\nend")).result = .ok p ∧
        (p.toBatch.map fun b => b.statements.head?) =
          .ok (some ("create or alter package \x22Sales\x22\nas\n" ++
            "begin\n  -- \x22Sales\x22 totals\nend")) ∧
        (p.toBatch.map fun b => b.statements.head?) ≠
          .ok (some ("create or alter package \x22Sales\x22\nas\n" ++
            "begin\n  -- Sales totals\nend"))) ∧
      ∃ p, ((load "or").run (packageCatalog "or" "begin\nend" "begin\nend")).result = .ok p ∧
        (p.toBatch.map fun b => b.statements.head?) =
          .ok (some "create \x22or\x22 alter package \x22or\x22\nas\nbegin\nend") ∧
        (p.toBatch.map fun b => b.statements.head?) ≠
          .ok (some "create or alter package \x22or\x22\nas\nbegin\nend") := by
  refine ⟨⟨by decide +kernel, by decide, by decide +kernel, by decide, by decide +kernel,
    by decide +kernel⟩, ?_, ?_⟩
  · refine ⟨_, finds_load (packageCatalog_row _ _ _), ?_⟩
    refine (and_iff_left_of_imp ?_).2 (by decide +kernel)
    intro requoted
    rw [requoted]
    decide
  · refine ⟨_, finds_load (packageCatalog_row _ _ _), ?_⟩
    refine (and_iff_left_of_imp ?_).2 (by decide +kernel)
    intro requoted
    rw [requoted]
    decide

end Package
end SchemaChange

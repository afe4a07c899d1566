import SchemaChange.Proofs.Script.Reading
import SchemaChange.Script.Batch

/-!
# Proofs.Script.Split — the one way to split a script

The lexical rules leave no choice where a script is cut: it has one split, and that is the one which
parsing finds.

- `IsSplit`              : texts with delimiters between them, each read in place from plain text
- `isSplit_iff`          : the fragments of the scanner are the only split
- `Batch.parse_of_split` : the statements of a script are the trimmed texts of its split
-/

namespace SchemaChange
namespace Script

/-- The texts are those of the script between its cuts. Each is read in place, with everything
behind it in view; all but the last end in plain text exactly where a delimiter begins. -/
inductive IsSplit (delimiter : List Char) : List Char → List (List Char) → Prop
  | last {text : List Char} {r : Region} :
      Reads delimiter .plain text [] r → IsSplit delimiter text [text]
  | cut {text rest : List Char} {texts : List (List Char)} :
      Reads delimiter .plain text (delimiter ++ rest) .plain →
      IsSplit delimiter rest texts →
      IsSplit delimiter (text ++ delimiter ++ rest) (text :: texts)

namespace IsSplit

variable {delimiter script : List Char} {texts : List (List Char)}

theorem ne_nil (h : IsSplit delimiter script texts) : texts ≠ [] := by
  cases h <;> simp

/-- Nothing but delimiters is lost. -/
theorem intercalate_eq (h : IsSplit delimiter script texts) :
    delimiter.intercalate texts = script := by
  induction h with
  | last => exact List.intercalate_singleton
  | @cut text rest texts _ later ih =>
      rcases List.exists_cons_of_ne_nil later.ne_nil with ⟨first, others, rfl⟩
      rw [List.intercalate_cons_cons, ih]

/-- The scanner finds every split. -/
theorem eq_fragments (hd : delimiter ≠ []) (h : IsSplit delimiter script texts) :
    texts = fragments delimiter script := by
  induction h with
  | last read => exact read.fragments_eq.symm
  | cut read _ ih => rw [read.fragments_append hd, ih]

end IsSplit

/-- What the scanner finds is a split. -/
theorem isSplit_fragments {delimiter : List Char} (hd : delimiter ≠ []) (script : List Char) :
    IsSplit delimiter script (fragments delimiter script) := by
  -- Behind the first delimiter a shorter script is split in the same way.
  induction hn : script.length using Nat.strongRecOn generalizing script with
  | _ n ih =>
    subst hn
    rcases reads_or_cut delimiter .plain script with ⟨r, read⟩ | ⟨text, rest, rfl, read⟩
    · rw [read.fragments_eq]
      exact .last read
    · have shorter : rest.length < (text ++ delimiter ++ rest).length := by
        have := List.length_pos_iff.2 hd
        simp only [List.length_append]
        omega
      rw [read.fragments_append hd]
      exact .cut read (ih _ shorter rest rfl)

theorem isSplit_iff {delimiter script : List Char} {texts : List (List Char)}
    (hd : delimiter ≠ []) :
    IsSplit delimiter script texts ↔ texts = fragments delimiter script := by
  constructor
  · intro h
    exact h.eq_fragments hd
  · rintro rfl
    exact isSplit_fragments hd script

/-! ## Statements of a script -/

theorem statement?_eq (text : List Char) :
    Batch.statement? text =
      if Text.isBlank (String.ofList text) then none
      else some (Text.trim (String.ofList text)) := rfl

theorem filterMap_statement? (texts : List (List Char)) :
    texts.filterMap Batch.statement? =
      ((texts.map String.ofList).filter fun text => !Text.isBlank text).map Text.trim := by
  induction texts with
  | nil => rfl
  | cons text texts ih =>
      cases blank : Text.isBlank (String.ofList text) <;> simp [statement?_eq, blank, ih]

theorem Batch.parse_eq (script : String) {delimiter : String} (h : delimiter ≠ "") :
    Batch.parse script delimiter =
      ⟨(fragments delimiter.toList script.toList).filterMap Batch.statement?, delimiter⟩ := by
  have given : delimiter.isEmpty = false := by simpa using h
  simp [Batch.parse, given]

/-- A script has one split, and its statements are the texts of it that are not blank, trimmed and
in order. -/
theorem Batch.parse_of_split (script delimiter : String) (h : delimiter ≠ "") :
    ∃ texts : List (List Char),
      IsSplit delimiter.toList script.toList texts ∧
      (∀ others, IsSplit delimiter.toList script.toList others → others = texts) ∧
      delimiter.toList.intercalate texts = script.toList ∧
      Batch.parse script delimiter =
        ⟨((texts.map String.ofList).filter fun text => !Text.isBlank text).map Text.trim,
          delimiter⟩ := by
  have hd : delimiter.toList ≠ [] := by simpa using h
  have split := isSplit_fragments hd script.toList
  refine ⟨fragments delimiter.toList script.toList, split, ?_, split.intercalate_eq, ?_⟩
  · intro others hothers
    exact (isSplit_iff hd).1 hothers
  · rw [Batch.parse_eq script h, filterMap_statement?]

/-- The delimiter begins like a comment, and the first of its places is inside a text. -/
theorem Batch.parse_of_split_slashes :
    "/+" ≠ "" ∧
      ∃ texts : List (List Char),
        IsSplit "/+".toList "A '/+' /+ /* /+ */ B".toList texts ∧
        (∀ others, IsSplit "/+".toList "A '/+' /+ /* /+ */ B".toList others → others = texts) ∧
        "/+".toList.intercalate texts = "A '/+' /+ /* /+ */ B".toList ∧
        Batch.parse "A '/+' /+ /* /+ */ B" "/+" =
          ⟨((texts.map String.ofList).filter fun text => !Text.isBlank text).map Text.trim, "/+"⟩ :=
  ⟨by decide, Batch.parse_of_split "A '/+' /+ /* /+ */ B" "/+" (by decide)⟩

end Script
end SchemaChange

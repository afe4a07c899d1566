import SchemaChange.Proofs.Package.Restoration

/-!
# Proofs.Package.Abstraction — sources without the name

Where an existing package is described, the placeholder takes the place of its name. Which places
those are is told here of the whole source: what is in front of a place and what is behind it. The
pass itself only keeps a flag about the character that it left, and forgets it behind a word.

- `Text.Exchanges`                    : the word exchanged wherever it stands free in the source
- `Text.exchanges_iff`                : which is what the pass with its flag comes to
- `Package.Abstracts`                 : a source with the placeholder for the name
- `Package.abstracts_ofSources`       : both sources of an existing package
- `Package.abstracts_ofSources_twice` : a name that follows itself
-/

namespace SchemaChange
namespace Text

variable {word new : List Char}

/-! ## Places in a whole source -/

/-- A word that has these texts around it stands between blanks or the ends of the source. -/
structure StandsFree (before after : List Char) : Prop where
  front : ∀ c ∈ before.getLast?, isSpace c = true
  behind : ∀ c ∈ after.head?, isSpace c = true

/-- What becomes of the text that follows `passed` in a source: the first place where the word
stands free is exchanged, and then the text behind that place is gone through. -/
inductive Exchanges (word new : List Char) : List Char → List Char → List Char → Prop
  | kept {passed text : List Char} :
      (∀ gap after, text = gap ++ (word ++ after) → ¬StandsFree (passed ++ gap) after) →
      Exchanges word new passed text text
  | exchanged {passed text gap after rest : List Char} :
      text = gap ++ (word ++ after) →
      StandsFree (passed ++ gap) after →
      (∀ earlier later, text = earlier ++ (word ++ later) →
        StandsFree (passed ++ earlier) later → gap.length ≤ earlier.length) →
      Exchanges word new (passed ++ gap ++ word) after rest →
      Exchanges word new passed text (gap ++ (new ++ rest))

/-! ## The flag of the pass -/

theorem mayBegin_append (fresh : Bool) (before gap : List Char) :
    mayBegin fresh (before ++ gap) = mayBegin (mayBegin fresh before) gap := by
  cases last : gap.getLast? with
  | none => simp [mayBegin, List.getLast?_append, last]
  | some c => simp [mayBegin, List.getLast?_append, last]

theorem mayBegin_true_iff {before : List Char} :
    mayBegin true before = true ↔ ∀ c ∈ before.getLast?, isSpace c = true := by
  cases last : before.getLast? with
  | none => simp [mayBegin, last]
  | some c => simp [mayBegin, last]

theorem endsWord_iff {after : List Char} :
    endsWord after = true ↔ ∀ c ∈ after.head?, isSpace c = true := by
  cases after with
  | nil => simp [endsWord]
  | cons c cs => simp [endsWord]

/-- No word begins right behind one whose last character is not blank. -/
theorem mayBegin_behind (nonempty : word ≠ []) (ends : EndsFull word) (fresh : Bool)
    (before : List Char) : mayBegin fresh (before ++ word) = false := by
  cases last : word.getLast? with
  | none => exact absurd (List.getLast?_eq_none_iff.1 last) nonempty
  | some c =>
      have full : isSpace c = false := ends c last
      simpa [mayBegin, List.getLast?_append, last] using full

/-- The flag that is kept of the text passed tells the same places as that text itself. -/
theorem standsAt_iff {passed text gap after : List Char} :
    StandsAt word (mayBegin true passed) text gap after ↔
      text = gap ++ (word ++ after) ∧ StandsFree (passed ++ gap) after := by
  constructor
  · rintro ⟨chars, begins, ends⟩
    rw [← mayBegin_append] at begins
    exact ⟨chars, mayBegin_true_iff.1 begins, endsWord_iff.1 ends⟩
  · rintro ⟨chars, front, behind⟩
    refine ⟨chars, ?_, endsWord_iff.2 behind⟩
    rw [← mayBegin_append]
    exact mayBegin_true_iff.2 front

theorem Exchanges.rewords (nonempty : word ≠ []) (ends : EndsFull word)
    {passed text result : List Char} (h : Exchanges word new passed text result) :
    Rewords word new (mayBegin true passed) text result := by
  induction h with
  | kept none =>
      refine .absent ?_
      intro gap after stands
      rcases standsAt_iff.1 stands with ⟨chars, free⟩
      exact none gap after chars free
  | @exchanged passed text gap after rest chars free first _ ih =>
      rw [mayBegin_behind nonempty ends] at ih
      refine .place (standsAt_iff.2 ⟨chars, free⟩) ?_ ih
      intro earlier later stands
      rcases standsAt_iff.1 stands with ⟨chars', free'⟩
      exact first earlier later chars' free'

theorem Rewords.exchanges (nonempty : word ≠ []) (ends : EndsFull word) {fresh : Bool}
    {text result : List Char} (h : Rewords word new fresh text result) {passed : List Char}
    (flag : fresh = mayBegin true passed) : Exchanges word new passed text result := by
  induction h generalizing passed with
  | absent none =>
      subst flag
      refine .kept ?_
      intro gap after chars free
      exact none gap after (standsAt_iff.2 ⟨chars, free⟩)
  | @place _ text gap after rest stands first _ ih =>
      subst flag
      rcases standsAt_iff.1 stands with ⟨chars, free⟩
      -- The pass takes its flag back behind a word, and rightly so: the word does not end blank.
      have behind := ih (mayBegin_behind nonempty ends true (passed ++ gap)).symm
      refine .exchanged chars free ?_ behind
      intro earlier later chars' free'
      exact first earlier later (standsAt_iff.2 ⟨chars', free'⟩)

theorem exchanges_iff {word : String} (nonempty : word ≠ "") (ends : EndsFull word.toList)
    {new source result : String} :
    Exchanges word.toList new.toList [] source.toList result.toList ↔
      result = replaceWords word new source := by
  have full : word.toList ≠ [] := by simpa using nonempty
  rw [← rewords_iff nonempty]
  constructor
  · intro h
    exact h.rewords full ends
  · intro h
    exact h.exchanges full ends rfl

/-! ## A token in a source that has none -/

theorem replaceFrom_eq_self {token replacement : List Char} {cs : List Char}
    (spared : ¬token <:+: cs) : replaceFrom token replacement 0 cs = cs := by
  induction cs with
  | nil => rfl
  | cons c cs ih =>
      have here : ¬token.isPrefixOf (c :: cs) = true := by
        rw [List.isPrefixOf_iff_prefix]
        intro found
        exact spared found.isInfix
      have later : ¬token <:+: cs := by
        intro contained
        exact spared (contained.trans (List.suffix_cons c cs).isInfix)
      rw [replaceFrom, if_neg here, ih later]

end Text

namespace Package

/-! ## Sources with the placeholder -/

/-- A source of the package with the placeholder for the name. -/
structure Abstracts (p : Package) (name source abstracted : String) : Prop where
  /-- The name in place of the placeholder gives the source again, without the blanks around it. -/
  restored : ¬defaultPlaceholder.toList <:+: source.toList →
    p.fillIn abstracted name = Text.trim source
  /-- The name is exchanged where it stands free, and nowhere else. -/
  places : name ≠ "" → Text.EndsFull name.toList → ∀ text : String,
    Text.Exchanges name.toList defaultPlaceholder.toList [] (Text.trim source).toList text.toList ↔
      text = abstracted

/-- The placeholders that were put into a source become the name again, whatever the name is. -/
theorem replaceAll_abstractName_self (name : String) {source : String}
    (spared : ¬defaultPlaceholder.toList <:+: source.toList) :
    Text.replaceAll defaultPlaceholder name (abstractName name source) = Text.trim source := by
  have inside := spares_trim spared
  rw [← String.toList_inj, Text.replaceAll, if_neg (by decide), String.toList_ofList, abstractName]
  by_cases empty : name = ""
  · -- Nothing is exchanged for a package without a name, and there is no placeholder to replace.
    subst empty
    exact Text.replaceFrom_eq_self inside
  · have full : name.toList ≠ [] := by simpa using empty
    have same : Text.Rewords name.toList name.toList true (Text.trim source).toList
        (Text.replaceWordsFrom name.toList name.toList 0 true (Text.trim source).toList) :=
      Text.rewords_replaceWordsFrom full true _
    calc Text.replaceFrom defaultPlaceholder.toList name.toList 0
          (Text.replaceWords name defaultPlaceholder (Text.trim source)).toList
        = Text.replaceWordsFrom name.toList name.toList 0 true (Text.trim source).toList := by
          rw [Text.toList_replaceWords empty,
            Text.replaceFrom_replaceWordsFrom isToken_defaultPlaceholder 0 true inside]
      _ = (Text.trim source).toList := same.eq_of_same

theorem abstracts_abstractName {p : Package} (placeholder : p.placeholder = defaultPlaceholder)
    (name source : String) : p.Abstracts name source (abstractName name source) := by
  constructor
  · intro spared
    rw [fillIn, placeholder]
    exact replaceAll_abstractName_self name spared
  · intro nonempty ends text
    exact Text.exchanges_iff nonempty ends

/-- Both sources of an existing package have the placeholder where the name stood free, and the
name where the placeholder is gives them back. -/
theorem abstracts_ofSources (name header body : String) (description : Option String) :
    (ofSources name header body description).Abstracts name header
        (ofSources name header body description).header ∧
      (ofSources name header body description).Abstracts name body
        (ofSources name header body description).body :=
  ⟨abstracts_abstractName rfl name header, abstracts_abstractName rfl name body⟩

/-- The name at both ends of a source, followed by itself and as a part of another word. -/
theorem abstracts_ofSources_twice :
    (¬defaultPlaceholder.toList <:+: " SALES SALES\nSALES_TOTAL SALES\n".toList ∧
        Text.EndsFull "SALES".toList) ∧
      (ofSources "SALES" " SALES SALES\nSALES_TOTAL SALES\n" "end" none).header =
        "<name_package> <name_package>\nSALES_TOTAL <name_package>" ∧
      (ofSources "SALES" " SALES SALES\nSALES_TOTAL SALES\n" "end" none).fillIn
          (ofSources "SALES" " SALES SALES\nSALES_TOTAL SALES\n" "end" none).header "SALES" =
        "SALES SALES\nSALES_TOTAL SALES" := by
  have spared : ¬defaultPlaceholder.toList <:+: " SALES SALES\nSALES_TOTAL SALES\n".toList := by
    decide +kernel
  have trimmed : Text.trim " SALES SALES\nSALES_TOTAL SALES\n" =
      "SALES SALES\nSALES_TOTAL SALES" := by decide +kernel
  have ends : Text.EndsFull "SALES".toList := by
    intro c hc
    have : 'S' = c := by simpa using hc
    rw [← this]
    rfl
  have header := (abstracts_ofSources "SALES" " SALES SALES\nSALES_TOTAL SALES\n" "end" none).1
  refine ⟨⟨spared, ends⟩, ?_, (header.restored spared).trans trimmed⟩
  refine ((header.places (by decide) ends _).1 ?_).symm
  exact (Text.exchanges_iff (by decide) ends).2 (by decide +kernel)

end Package
end SchemaChange

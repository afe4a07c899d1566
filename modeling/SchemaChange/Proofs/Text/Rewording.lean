import SchemaChange.Proofs.Text.Replace

/-!
# Proofs.Text.Rewording — words that are replaced

A word is replaced wherever it stands between blanks, from left to right. Nothing else is touched,
so a token that was put in its place can be found again, provided that the source had none.

- `StandsAt`                      : a word between blanks or the ends of a text
- `Rewords`                       : a text with another word in all these places
- `rewords_iff`                   : which is what replacing words comes to
- `replaceWordsFrom_of_first`     : the first place of a word
- `replaceFrom_replaceWordsFrom`  : a token that is replaced in its turn
-/

namespace SchemaChange
namespace Text

variable {word new : List Char}

/-! ## Words between blanks -/

/-- A word may begin behind the gap: the gap ends in a blank, or it is empty and a word may begin
where it stands. -/
def mayBegin (fresh : Bool) (gap : List Char) : Bool :=
  (gap.getLast?.map isSpace).getD fresh

/-- The word stands in the text behind the gap, with blanks or the ends of the text around it. -/
structure StandsAt (word : List Char) (fresh : Bool) (text gap after : List Char) : Prop where
  chars : text = gap ++ (word ++ after)
  begins : mayBegin fresh gap = true
  ends : endsWord after = true

theorem mayBegin_cons (fresh : Bool) (c : Char) (gap : List Char) :
    mayBegin fresh (c :: gap) = mayBegin (isSpace c) gap := by
  cases gap with
  | nil => rfl
  | cons d ds => rfl

theorem wordAt_iff {text : List Char} :
    wordAt word text = true ↔ ∃ after, text = word ++ after ∧ endsWord after = true := by
  rw [wordAt, Bool.and_eq_true, List.isPrefixOf_iff_prefix]
  constructor
  · rintro ⟨⟨after, rfl⟩, ends⟩
    rw [List.drop_left] at ends
    exact ⟨after, rfl, ends⟩
  · rintro ⟨after, rfl, ends⟩
    rw [List.drop_left]
    exact ⟨List.prefix_append word after, ends⟩

/-- A place behind the first character is a place in the rest of the text. -/
theorem standsAt_cons_iff {fresh : Bool} {c d : Char} {cs gap after : List Char} :
    StandsAt word fresh (c :: cs) (d :: gap) after ↔
      c = d ∧ StandsAt word (isSpace c) cs gap after := by
  constructor
  · rintro ⟨chars, begins, ends⟩
    rw [List.cons_append, List.cons.injEq] at chars
    rcases chars with ⟨rfl, chars⟩
    rw [mayBegin_cons] at begins
    exact ⟨rfl, chars, begins, ends⟩
  · rintro ⟨rfl, chars, begins, ends⟩
    refine ⟨?_, ?_, ends⟩
    · rw [chars, List.cons_append]
    · rw [mayBegin_cons]
      exact begins

/-- The places of a word, told by the number of characters in front of them. -/
theorem exists_standsAt_iff {fresh : Bool} {text gap : List Char} :
    (∃ after, StandsAt word fresh text gap after) ↔
      gap <+: text ∧ mayBegin fresh gap = true ∧ wordAt word (text.drop gap.length) = true := by
  constructor
  · rintro ⟨after, rfl, begins, ends⟩
    rw [List.drop_left]
    exact ⟨List.prefix_append gap _, begins, wordAt_iff.2 ⟨after, rfl, ends⟩⟩
  · rintro ⟨⟨rest, rfl⟩, begins, found⟩
    rw [List.drop_left] at found
    rcases wordAt_iff.1 found with ⟨after, rfl, ends⟩
    exact ⟨after, rfl, begins, ends⟩

/-! ## Rewording -/

/-- The text with another word in every place where the word stands. The places are taken from left
to right, and none begins right behind another. -/
inductive Rewords (word new : List Char) : Bool → List Char → List Char → Prop
  | absent {fresh : Bool} {text : List Char} :
      (∀ gap after, ¬StandsAt word fresh text gap after) → Rewords word new fresh text text
  | place {fresh : Bool} {text gap after rest : List Char} :
      StandsAt word fresh text gap after →
      (∀ earlier later, StandsAt word fresh text earlier later → gap.length ≤ earlier.length) →
      Rewords word new false after rest →
      Rewords word new fresh text (gap ++ (new ++ rest))

namespace Rewords

variable {fresh : Bool} {text result : List Char}

/-- A character at which the word does not stand is kept. -/
theorem cons {c : Char} {cs rest : List Char}
    (passed : fresh = true → wordAt word (c :: cs) = false)
    (h : Rewords word new (isSpace c) cs rest) : Rewords word new fresh (c :: cs) (c :: rest) := by
  have later : ∀ gap after, StandsAt word fresh (c :: cs) gap after →
      ∃ tail, gap = c :: tail ∧ StandsAt word (isSpace c) cs tail after := by
    intro gap after stands
    cases gap with
    | nil =>
        have found : wordAt word (c :: cs) = true := wordAt_iff.2 ⟨after, stands.chars, stands.ends⟩
        rw [passed stands.begins] at found
        cases found
    | cons d tail =>
        rcases standsAt_cons_iff.1 stands with ⟨rfl, inner⟩
        exact ⟨tail, rfl, inner⟩
  cases h with
  | absent none =>
      refine .absent ?_
      intro gap after stands
      rcases later gap after stands with ⟨tail, -, inner⟩
      exact none tail after inner
  | @place _ _ gap after rest stands first behind =>
      have outer : StandsAt word fresh (c :: cs) (c :: gap) after :=
        standsAt_cons_iff.2 ⟨rfl, stands⟩
      refine .place outer ?_ behind
      intro earlier other found
      rcases later earlier other found with ⟨tail, rfl, inner⟩
      exact Nat.succ_le_succ (first tail other inner)

theorem eq_of_absent (h : Rewords word new fresh text result)
    (none : ∀ gap after, ¬StandsAt word fresh text gap after) : result = text := by
  cases h with
  | absent _ => rfl
  | place stands _ _ => exact absurd stands (none _ _)

/-- The places leave no choice. -/
theorem unique (h : Rewords word new fresh text result) {other : List Char}
    (h' : Rewords word new fresh text other) : result = other := by
  induction h generalizing other with
  | absent none => exact (h'.eq_of_absent none).symm
  | @place fresh text gap after rest stands first _ ih =>
      cases h' with
      | absent none => exact absurd stands (none _ _)
      | @place _ _ gap' after' rest' stands' first' behind' =>
          -- Both places are the first one, so the same text is in front of them.
          have length : gap.length = gap'.length :=
            Nat.le_antisymm (first gap' after' stands') (first' gap after stands)
          have chars : gap ++ (word ++ after) = gap' ++ (word ++ after') :=
            stands.chars.symm.trans stands'.chars
          rcases List.append_inj chars length with ⟨rfl, tails⟩
          obtain rfl := List.append_cancel_left tails
          rw [ih behind']

/-- Behind the first place the rest of the text is gone through. -/
theorem behind_first {gap after rest : List Char} (stands : StandsAt word fresh text gap after)
    (first : ∀ earlier later, StandsAt word fresh text earlier later →
      gap.length ≤ earlier.length)
    (h : Rewords word new fresh text (gap ++ (new ++ rest))) :
    Rewords word new false after rest := by
  generalize written : gap ++ (new ++ rest) = result at h
  cases h with
  | absent none => exact absurd stands (none _ _)
  | @place _ _ gap' after' rest' stands' first' behind =>
      have length : gap'.length = gap.length :=
        Nat.le_antisymm (first' gap after stands) (first gap' after' stands')
      rcases List.append_inj written length.symm with ⟨rfl, tails⟩
      obtain rfl := List.append_cancel_left tails
      have texts := List.append_cancel_left (stands.chars.symm.trans stands'.chars)
      obtain rfl := List.append_cancel_left texts
      exact behind

/-- No place lies in front of a part of the result in which the new word does not begin. -/
theorem length_le {front rest : List Char} {mark : Char} (marked : new.head? = some mark)
    (spared : mark ∉ front) (h : Rewords word new fresh text (front ++ rest))
    {gap after : List Char} (stands : StandsAt word fresh text gap after) :
    front.length ≤ gap.length := by
  rcases List.head?_eq_some_iff.1 marked with ⟨inner, rfl⟩
  generalize written : front ++ rest = result at h
  cases h with
  | absent none => exact absurd stands (none _ _)
  | @place _ _ gap' _ _ _ first _ =>
      refine Nat.le_trans ?_ (first gap after stands)
      rcases List.append_eq_append_iff.1 written with ⟨less, rfl, -⟩ | ⟨more, rfl, behind⟩
      · rw [List.length_append]
        exact Nat.le_add_right _ _
      · -- The new word stands where the front part goes on, so that part ends there.
        cases more with
        | nil => simp
        | cons c cs =>
            rw [List.cons_append, List.cons_append, List.cons.injEq] at behind
            rw [behind.1] at spared
            simp at spared

/-- A word in its own place changes nothing. -/
theorem eq_of_same (h : Rewords word word fresh text result) : result = text := by
  induction h with
  | absent _ => rfl
  | place stands _ _ ih => rw [ih, stands.chars]

theorem ne_nil (full : new ≠ []) (h : Rewords word new fresh text result) (nonempty : text ≠ []) :
    result ≠ [] := by
  cases h with
  | absent _ => exact nonempty
  | place _ _ _ =>
      exact List.append_ne_nil_of_right_ne_nil _ (List.append_ne_nil_of_left_ne_nil full _)

/-- The text begins as the source does or with the new word. -/
theorem startsFull (full : new ≠ []) (starts : StartsFull new)
    (h : Rewords word new fresh text result) (first : StartsFull text) : StartsFull result := by
  cases h with
  | absent _ => exact first
  | @place _ _ gap after rest stands _ _ =>
      cases gap with
      | nil => exact starts.append full rest
      | cons d gap =>
          rw [stands.chars] at first
          exact first

/-- The end of the text is that of the source or of the new word. -/
theorem endsFull (full : new ≠ []) (ends : EndsFull new) (h : Rewords word new fresh text result)
    (last : EndsFull text) : EndsFull result := by
  induction h with
  | absent _ => exact last
  | @place _ text gap after rest stands _ _ ih =>
      have behind : EndsFull after := by
        intro c hc
        refine last c ?_
        rw [stands.chars, List.getLast?_append, List.getLast?_append, hc]
        rfl
      have front : EndsFull (gap ++ new) := ends.behind full gap
      rw [← List.append_assoc]
      exact front.append (ih behind)

end Rewords

/-! ## Replacing words -/

/-- What is left of an occurrence is passed over. -/
theorem replaceWordsFrom_passed (passed rest : List Char) :
    replaceWordsFrom word new passed.length false (passed ++ rest) =
      replaceWordsFrom word new 0 false rest := by
  induction passed with
  | nil => rfl
  | cons c cs ih => exact ih

theorem replaceWordsFrom_word (nonempty : word ≠ []) {after : List Char}
    (ends : endsWord after = true) :
    replaceWordsFrom word new 0 true (word ++ after) =
      new ++ replaceWordsFrom word new 0 false after := by
  have found : wordAt word (word ++ after) = true := wordAt_iff.2 ⟨after, rfl, ends⟩
  rcases List.exists_cons_of_ne_nil nonempty with ⟨c, cs, rfl⟩
  rw [List.cons_append] at found ⊢
  rw [replaceWordsFrom, found, List.length_cons, Nat.add_sub_cancel, replaceWordsFrom_passed]
  rfl

theorem replaceWordsFrom_of_not_wordAt {fresh : Bool} {c : Char} {cs : List Char}
    (passed : fresh = true → wordAt word (c :: cs) = false) :
    replaceWordsFrom word new 0 fresh (c :: cs) =
      c :: replaceWordsFrom word new 0 (isSpace c) cs := by
  have no : ¬(fresh && wordAt word (c :: cs)) = true := by
    rw [Bool.and_eq_true]
    rintro ⟨begins, found⟩
    rw [passed begins] at found
    cases found
  rw [replaceWordsFrom, if_neg no]

/-- Replacing a word puts the other one in every place where the word stands. -/
theorem rewords_replaceWordsFrom (nonempty : word ≠ []) (fresh : Bool) (text : List Char) :
    Rewords word new fresh text (replaceWordsFrom word new 0 fresh text) := by
  -- Behind an occurrence or a character that is kept, a shorter text is left.
  induction hn : text.length using Nat.strongRecOn generalizing fresh text with
  | _ n ih =>
    subst hn
    cases text with
    | nil =>
        refine .absent ?_
        intro gap after stands
        have empty := List.append_eq_nil_iff.1 stands.chars.symm
        exact nonempty (List.append_eq_nil_iff.1 empty.2).1
    | cons c cs =>
        by_cases here : fresh = true ∧ wordAt word (c :: cs) = true
        · rcases here with ⟨rfl, found⟩
          rcases wordAt_iff.1 found with ⟨after, chars, ends⟩
          have shorter : after.length < (c :: cs).length := by
            have := List.length_pos_iff.2 nonempty
            rw [chars, List.length_append]
            omega
          have stands : StandsAt word true (c :: cs) [] after := ⟨chars, rfl, ends⟩
          rw [chars, replaceWordsFrom_word nonempty ends, ← chars]
          exact .place stands (fun _ _ _ => Nat.zero_le _) (ih _ shorter false after rfl)
        · have passed : fresh = true → wordAt word (c :: cs) = false := by
            intro begins
            rw [← Bool.not_eq_true]
            intro found
            exact here ⟨begins, found⟩
          rw [replaceWordsFrom_of_not_wordAt passed]
          exact .cons passed (ih _ (Nat.lt_succ_self _) _ cs rfl)

/-- What is in front of the first place is kept. -/
theorem replaceWordsFrom_of_first (nonempty : word ≠ []) {fresh : Bool}
    {text gap after : List Char} (stands : StandsAt word fresh text gap after)
    (first : ∀ earlier later, StandsAt word fresh text earlier later →
      gap.length ≤ earlier.length) :
    replaceWordsFrom word new 0 fresh text =
      gap ++ (new ++ replaceWordsFrom word new 0 false after) :=
  (rewords_replaceWordsFrom nonempty fresh text).unique
    (.place stands first (rewords_replaceWordsFrom nonempty false after))

theorem toList_replaceWords {word : String} (nonempty : word ≠ "") (new source : String) :
    (replaceWords word new source).toList =
      replaceWordsFrom word.toList new.toList 0 true source.toList := by
  rw [replaceWords, if_neg (by rwa [String.isEmpty_iff]), String.toList_ofList]

theorem rewords_replaceWords {word : String} (nonempty : word ≠ "") (new source : String) :
    Rewords word.toList new.toList true source.toList (replaceWords word new source).toList := by
  have full : word.toList ≠ [] := by simpa using nonempty
  rw [toList_replaceWords nonempty]
  exact rewords_replaceWordsFrom full true source.toList

theorem rewords_iff {word : String} (nonempty : word ≠ "") {new source result : String} :
    Rewords word.toList new.toList true source.toList result.toList ↔
      result = replaceWords word new source := by
  have words := rewords_replaceWords nonempty new source
  constructor
  · intro h
    exact String.toList_inj.1 (h.unique words)
  · rintro rfl
    exact words

/-! ## Tokens -/

/-- The token can be told from any other text by its first character. -/
structure IsToken (token : List Char) (mark : Char) (tail : List Char) : Prop where
  chars : token = mark :: tail
  once : mark ∉ tail

section Token

variable {token replacement : List Char} {mark : Char} {tail : List Char}

/-- A token is not found in text without its first character, nor does it begin there. -/
theorem infix_of_infix_append (h : IsToken token mark tail) {cs rest : List Char}
    (spared : mark ∉ cs) (found : token <:+: cs ++ rest) : token <:+: rest := by
  rcases h with ⟨rfl, -⟩
  induction cs with
  | nil => exact found
  | cons c cs ih =>
      rw [List.mem_cons, not_or] at spared
      rw [List.cons_append, List.infix_cons_iff, List.cons_prefix_cons] at found
      rcases found with ⟨same, -⟩ | later
      · exact absurd same spared.1
      · exact ih spared.2 later

/-- Text without the first character of the token is passed over. -/
theorem replaceFrom_append_of_not_mem (h : IsToken token mark tail) {cs : List Char}
    (spared : mark ∉ cs) (rest : List Char) :
    replaceFrom token replacement 0 (cs ++ rest) = cs ++ replaceFrom token replacement 0 rest := by
  rcases h with ⟨rfl, -⟩
  induction cs with
  | nil => rfl
  | cons c cs ih =>
      rw [List.mem_cons, not_or] at spared
      have other : ¬(mark :: tail).isPrefixOf (c :: (cs ++ rest)) = true := by
        rw [List.isPrefixOf_iff_prefix, List.cons_prefix_cons]
        rintro ⟨same, -⟩
        exact spared.1 same
      rw [List.cons_append, replaceFrom, if_neg other, ih spared.2, List.cons_append]

theorem replaceFrom_passed (passed rest : List Char) :
    replaceFrom token replacement passed.length (passed ++ rest) =
      replaceFrom token replacement 0 rest := by
  induction passed with
  | nil => rfl
  | cons c cs ih => exact ih

theorem replaceFrom_token (h : IsToken token mark tail) (rest : List Char) :
    replaceFrom token replacement 0 (token ++ rest) =
      replacement ++ replaceFrom token replacement 0 rest := by
  rcases h with ⟨rfl, -⟩
  have found : (mark :: tail).isPrefixOf (mark :: (tail ++ rest)) = true :=
    List.isPrefixOf_iff_prefix.2 (List.prefix_append (mark :: tail) rest)
  rw [List.cons_append, replaceFrom, if_pos found, List.length_cons, Nat.add_sub_cancel,
    replaceFrom_passed]

/-- A text without the token's first character that is found at the front was there before. -/
theorem prefix_of_prefix_replaceWordsFrom (h : IsToken token mark tail) {front : List Char}
    (spared : mark ∉ front) {fresh : Bool} {cs : List Char}
    (found : front <+: replaceWordsFrom word token 0 fresh cs) : front <+: cs := by
  rcases h with ⟨rfl, -⟩
  induction front generalizing fresh cs with
  | nil => exact List.nil_prefix
  | cons f fs ih =>
      rw [List.mem_cons, not_or] at spared
      cases cs with
      | nil => exact found
      | cons c cs =>
          rw [replaceWordsFrom] at found
          split at found
          · -- Here a token was put, which begins with another character.
            rw [List.cons_append, List.cons_prefix_cons] at found
            exact absurd found.1.symm spared.1
          · rw [List.cons_prefix_cons] at found ⊢
            exact ⟨found.1, ih spared.2 found.2⟩

/-- Words that were replaced by a token, and tokens by a text, are words replaced by that text. -/
theorem replaceFrom_replaceWordsFrom (h : IsToken token mark tail) (skip : Nat) (fresh : Bool)
    {cs : List Char} (spared : ¬token <:+: cs) :
    replaceFrom token replacement 0 (replaceWordsFrom word token skip fresh cs) =
      replaceWordsFrom word replacement skip fresh cs := by
  induction cs generalizing skip fresh with
  | nil =>
      cases skip with
      | zero => rfl
      | succ skip => rfl
  | cons c cs ih =>
      have later : ¬token <:+: cs := by
        intro contained
        exact spared (contained.trans (List.suffix_cons c cs).isInfix)
      cases skip with
      | succ skip => exact ih skip false later
      | zero =>
          rw [replaceWordsFrom, replaceWordsFrom]
          split
          · rw [replaceFrom_token h, ih _ _ later]
          · -- No token begins at a character that was kept, for the source has none.
            have none : ¬token <+: c :: replaceWordsFrom word token 0 (isSpace c) cs := by
              obtain rfl := h.chars
              intro found
              rw [List.cons_prefix_cons] at found
              have before := prefix_of_prefix_replaceWordsFrom h h.once found.2
              refine spared (List.IsPrefix.isInfix ?_)
              rw [List.cons_prefix_cons]
              exact ⟨found.1, before⟩
            rw [replaceFrom, if_neg (by rwa [List.isPrefixOf_iff_prefix]), ih _ _ later]

end Token

end Text
end SchemaChange

import Mathlib.Data.List.TakeWhile
import SchemaChange.Proofs.Json.Rendering

/-!
# Proofs.Json.Continuation — texts that go on

What is read at the beginning of a text is read just the same if the text goes on, as long as that
does not go on with a number. A string or a number is read on its own; a value may hold others, and
then more fuel does no harm either.

- `ReadsOn`     : a reader of literals, in front of more text
- `ReadsOnWith` : a reader of values, in front of more text and with more fuel
- `readsOnWith` : values, items and members
-/

namespace SchemaChange
namespace Json

/-! ## Words and strings -/

section Literals

variable {cs rest more : List Char}

theorem afterWord_append {word : List Char} (h : afterWord word cs = some rest)
    (more : List Char) : afterWord word (cs ++ more) = some (rest ++ more) := by
  induction word generalizing cs with
  | nil =>
      cases h
      rfl
  | cons w ws ih =>
      cases cs with
      | nil => cases h
      | cons c cs =>
          rw [afterWord] at h
          rw [List.cons_append, afterWord]
          split at h
          · rename_i same
            rw [if_pos same]
            exact ih h
          · cases h

theorem readPieces_append {pieces : List Piece} (h : readPieces cs = some (pieces, rest))
    (more : List Char) : readPieces (cs ++ more) = some (pieces, rest ++ more) := by
  -- The reader goes on character by character or escape by escape.
  fun_induction readPieces cs generalizing pieces rest with
  | case1 => cases h
  | case2 cs =>
      cases h
      rfl
  | case3 a b c d cs n found tail read digits ih =>
      cases h
      simp only [List.cons_append]
      rw [readPieces_unit digits, ih read]
      rfl
  | case4 => cases h
  | case5 letter cs _ c found tail read short ih =>
      cases h
      simp only [List.cons_append]
      rw [readPieces_short short, ih read]
      rfl
  | case6 => cases h
  | case7 => cases h
  | case8 c cs quote _ short visible ih =>
      rcases Option.map_eq_some_iff.1 h with ⟨⟨found, tail⟩, read, same⟩
      cases same
      have backslash : c ≠ '\\' := by
        -- A single backslash at the end is no literal.
        intro single
        cases cs with
        | nil => cases read
        | cons d ds => exact short d ds single rfl
      rw [List.cons_append, readPieces_verbatim quote backslash visible, ih read]
      rfl

theorem readStringValue_append {v : Value} (h : readStringValue cs = some (v, rest))
    (more : List Char) : readStringValue (cs ++ more) = some (v, rest ++ more) := by
  unfold readStringValue at h ⊢
  cases read : readPieces cs with
  | none =>
      rw [read] at h
      cases h
  | some found =>
      rcases found with ⟨pieces, tail⟩
      rw [readPieces_append read]
      rw [read] at h
      dsimp only at h ⊢
      cases joined : joinPieces pieces with
      | some body =>
          rw [joined] at h
          cases h
          rfl
      | none =>
          rw [joined] at h
          cases h
          -- What is kept of the literal ends before the rest.
          have length : (cs ++ more).length - (rest ++ more).length - 1 =
              cs.length - rest.length - 1 := by
            simp only [List.length_append]
            omega
          have inside : cs.length - rest.length - 1 ≤ cs.length := by omega
          simp only [length, List.take_append_of_le_length inside]

theorem readName_append {name : String} (h : readName cs = some (name, rest))
    (more : List Char) : readName (cs ++ more) = some (name, rest ++ more) := by
  unfold readName at h ⊢
  cases read : readPieces cs with
  | none =>
      rw [read] at h
      cases h
  | some found =>
      rcases found with ⟨pieces, tail⟩
      rw [readPieces_append read]
      rw [read] at h
      rcases Option.map_eq_some_iff.1 h with ⟨body, joined, same⟩
      cases same
      simp [joined]

/-! ## Numbers -/

/-- What follows does not go on with a number, unless something stands between them. -/
def Separates (rest more : List Char) : Prop :=
  rest = [] → EndsNumber more

/-- What is read of a text is read in front of more. -/
def ReadsOn {α : Type} (read : List Char → Option (α × List Char)) : Prop :=
  ∀ {cs : List Char} {a : α} {rest more : List Char}, read cs = some (a, rest) →
    Separates rest more → read (cs ++ more) = some (a, rest ++ more)

theorem ReadsOn.map {α β : Type} {read : List Char → Option (α × List Char)} (h : ReadsOn read)
    (f : α → β) : ReadsOn fun cs => (read cs).map fun found => (f found.1, found.2) := by
  intro cs b rest more found sep
  rcases Option.map_eq_some_iff.1 found with ⟨⟨a, tail⟩, reads, same⟩
  cases same
  exact Option.map_eq_some_iff.2 ⟨(a, tail ++ more), h reads sep, rfl⟩

theorem readsOn_readDigits : ReadsOn readDigits := by
  intro cs digits rest more h sep
  unfold readDigits at h
  split at h
  · cases h
  · rename_i nonempty
    cases h
    have all : ∀ c ∈ cs.takeWhile Char.isDigit, c.isDigit = true := by
      intro c mem
      exact List.mem_takeWhile_imp mem
    have stops : ∀ c, (cs.dropWhile Char.isDigit ++ more).head? = some c → c.isDigit = false := by
      cases left : cs.dropWhile Char.isDigit with
      | nil =>
          intro c first
          exact (sep left c first).1
      | cons d ds =>
          have no := List.head_dropWhile_not (p := Char.isDigit) (l := cs) (by simp [left])
          simp only [left, List.head_cons] at no
          rintro c ⟨⟩
          exact no
    calc
      readDigits (cs ++ more)
          = readDigits (cs.takeWhile Char.isDigit ++ (cs.dropWhile Char.isDigit ++ more)) := by
            rw [← List.append_assoc, List.takeWhile_append_dropWhile]
      _ = some (cs.takeWhile Char.isDigit, cs.dropWhile Char.isDigit ++ more) :=
          readDigits_append all nonempty stops

theorem readWhole_of_ne_zero {c : Char} (h : c ≠ '0') (cs : List Char) :
    readWhole (c :: cs) = readDigits (c :: cs) := by
  simp [readWhole, h]

theorem readsOn_readWhole : ReadsOn readWhole := by
  rintro (_ | ⟨c, cs⟩) digits rest more h sep
  · cases h
  · by_cases zero : c = '0'
    · subst zero
      cases h
      rfl
    · rw [readWhole_of_ne_zero zero] at h
      rw [List.cons_append, readWhole_of_ne_zero zero]
      exact readsOn_readDigits h sep

theorem readFraction_of_ne_point {c : Char} (h : c ≠ '.') (cs : List Char) :
    readFraction (c :: cs) = some (none, c :: cs) := by
  simp [readFraction, h]

theorem readsOn_readFraction : ReadsOn readFraction := by
  rintro (_ | ⟨c, cs⟩) fraction rest more h sep
  · cases h
    exact readFraction_of_endsNumber (sep rfl)
  · by_cases point : c = '.'
    · subst point
      exact readsOn_readDigits.map some h sep
    · rw [readFraction_of_ne_point point] at h
      cases h
      exact readFraction_of_ne_point point _

theorem readPower_of_ne_sign {c : Char} (minus : c ≠ '-') (plus : c ≠ '+') (cs : List Char) :
    readPower (c :: cs) = (readDigits (c :: cs)).map fun (digits, rest) =>
      ((Nat.ofDigitChars 10 digits 0 : Int), rest) := by
  simp [readPower, minus, plus]

theorem readsOn_readPower : ReadsOn readPower := by
  rintro (_ | ⟨c, cs⟩) power rest more h sep
  · cases h
  · by_cases minus : c = '-'
    · subst minus
      exact readsOn_readDigits.map (fun digits => -(Nat.ofDigitChars 10 digits 0 : Int)) h sep
    by_cases plus : c = '+'
    · subst plus
      exact readsOn_readDigits.map (fun digits => (Nat.ofDigitChars 10 digits 0 : Int)) h sep
    · rw [readPower_of_ne_sign minus plus] at h
      rw [List.cons_append, readPower_of_ne_sign minus plus]
      exact readsOn_readDigits.map (fun digits => (Nat.ofDigitChars 10 digits 0 : Int)) h sep

theorem readExponent_of_ne_letter {c : Char} (small : c ≠ 'e') (capital : c ≠ 'E')
    (cs : List Char) : readExponent (c :: cs) = some (none, c :: cs) := by
  simp [readExponent, small, capital]

theorem readsOn_readExponent : ReadsOn readExponent := by
  rintro (_ | ⟨c, cs⟩) exponent rest more h sep
  · cases h
    exact readExponent_of_endsNumber (sep rfl)
  · by_cases small : c = 'e'
    · subst small
      exact readsOn_readPower.map some h sep
    by_cases capital : c = 'E'
    · subst capital
      exact readsOn_readPower.map some h sep
    · rw [readExponent_of_ne_letter small capital] at h
      cases h
      exact readExponent_of_ne_letter small capital _

/-- The number of the three parts. -/
theorem readsOn_readUnsigned (negative : Bool) : ReadsOn (readUnsigned negative) := by
  intro cs v rest more h sep
  unfold readUnsigned at h ⊢
  rcases Option.bind_eq_some_iff.1 h with ⟨⟨whole, behindWhole⟩, readsWhole, h⟩
  rcases Option.bind_eq_some_iff.1 h with ⟨⟨fraction, behindFraction⟩, readsFraction, h⟩
  rcases Option.bind_eq_some_iff.1 h with ⟨⟨exponent, behindExponent⟩, readsExponent, h⟩
  have last : behindExponent = rest := by
    dsimp only at h
    split at h <;> cases h <;> rfl
  subst last
  -- If a part ends the text, there are no further parts.
  have sepFraction : Separates behindFraction more := by
    intro none
    subst none
    cases readsExponent
    exact sep rfl
  have sepWhole : Separates behindWhole more := by
    intro none
    subst none
    cases readsFraction
    exact sepFraction rfl
  refine Option.bind_eq_some_iff.2 ⟨_, readsOn_readWhole readsWhole sepWhole, ?_⟩
  refine Option.bind_eq_some_iff.2 ⟨_, readsOn_readFraction readsFraction sepFraction, ?_⟩
  refine Option.bind_eq_some_iff.2 ⟨_, readsOn_readExponent readsExponent sep, ?_⟩
  dsimp only at h ⊢
  split at h
  · cases h
    rfl
  · cases h
    rfl

theorem readNumber_of_ne_minus {c : Char} (h : c ≠ '-') (cs : List Char) :
    readNumber (c :: cs) = readUnsigned false (c :: cs) := by
  simp [readNumber, h]

theorem readsOn_readNumber : ReadsOn readNumber := by
  rintro (_ | ⟨c, cs⟩) v rest more h sep
  · cases h
  · by_cases minus : c = '-'
    · subst minus
      exact readsOn_readUnsigned true h sep
    · rw [readNumber_of_ne_minus minus] at h
      rw [List.cons_append, readNumber_of_ne_minus minus]
      exact readsOn_readUnsigned false h sep

theorem readScalar_of_number {c : Char} (null : c ≠ 'n') (true : c ≠ 't') (false : c ≠ 'f')
    (quote : c ≠ '\x22') (cs : List Char) : readScalar (c :: cs) = readNumber (c :: cs) := by
  simp [readScalar, null, true, false, quote]

theorem readsOn_afterWord (word : List Char) (v : Value) :
    ReadsOn fun cs => (afterWord word cs).map fun rest => (v, rest) := by
  intro cs w rest more found _
  rcases Option.map_eq_some_iff.1 found with ⟨tail, behind, same⟩
  cases same
  exact Option.map_eq_some_iff.2 ⟨rest ++ more, afterWord_append behind more, rfl⟩

theorem readsOn_readScalar : ReadsOn readScalar := by
  rintro (_ | ⟨c, cs⟩) v rest more h sep
  · cases h
  by_cases null : c = 'n'
  · subst null
    exact readsOn_afterWord ['u', 'l', 'l'] .null h sep
  by_cases true : c = 't'
  · subst true
    exact readsOn_afterWord ['r', 'u', 'e'] (.bool Bool.true) h sep
  by_cases false : c = 'f'
  · subst false
    exact readsOn_afterWord ['a', 'l', 's', 'e'] (.bool Bool.false) h sep
  by_cases quote : c = '\x22'
  · subst quote
    exact readStringValue_append h more
  · rw [readScalar_of_number null true false quote] at h
    rw [List.cons_append, readScalar_of_number null true false quote]
    exact readsOn_readNumber h sep

end Literals

/-! ## Values -/

section Values

variable {cs tail rest more : List Char} {fuel : Nat}

theorem skipBlanks_append_cons {c : Char} (h : skipBlanks cs = c :: tail) (more : List Char) :
    skipBlanks (cs ++ more) = c :: (tail ++ more) := by
  unfold skipBlanks at h ⊢
  rw [List.dropWhile_append, h]
  rfl

theorem readValue_emptyArray (first : skipBlanks cs = '[' :: tail)
    (close : skipBlanks tail = ']' :: rest) :
    readValue (fuel + 1) cs = some (.array [], rest) := by
  rw [readValue, first]
  simp only [close]

theorem readValue_array (first : skipBlanks cs = '[' :: tail)
    (more : ∀ rest, skipBlanks tail ≠ ']' :: rest) :
    readValue (fuel + 1) cs =
      (readItems fuel tail).map fun found => (.array found.1, found.2) := by
  rw [readValue]
  simp only [first]

theorem readValue_emptyObject (first : skipBlanks cs = '\x7b' :: tail)
    (close : skipBlanks tail = '\x7d' :: rest) :
    readValue (fuel + 1) cs = some (.object [], rest) := by
  rw [readValue, first]
  simp only [close]

theorem readValue_object (first : skipBlanks cs = '\x7b' :: tail)
    (more : ∀ rest, skipBlanks tail ≠ '\x7d' :: rest) :
    readValue (fuel + 1) cs =
      (readMembers fuel tail).map fun found => (.object found.1, found.2) := by
  rw [readValue]
  simp only [first]

/-- What opens neither an array nor an object is read as a literal. -/
theorem readValue_scalar {c : Char} (array : c ≠ '[') (object : c ≠ '\x7b')
    (first : skipBlanks cs = c :: tail) :
    readValue (fuel + 1) cs = readScalar (c :: tail) := by
  rw [readValue, first]
  split
  · rename_i opens
    cases opens
    exact absurd rfl array
  · rename_i opens
    cases opens
    exact absurd rfl object
  · rfl

/-- Nothing is read of blanks. -/
theorem skipBlanks_of_readValue {found : Value × List Char} (h : readValue fuel cs = some found) :
    ∃ c tail, skipBlanks cs = c :: tail := by
  cases fuel with
  | zero => cases h
  | succ fuel =>
      cases first : skipBlanks cs with
      | nil =>
          rw [readValue, first] at h
          cases h
      | cons c tail => exact ⟨c, tail, rfl⟩

theorem skipBlanks_of_readItems {found : List Value × List Char}
    (h : readItems fuel cs = some found) : ∃ c tail, skipBlanks cs = c :: tail := by
  cases fuel with
  | zero => cases h
  | succ fuel =>
      rw [readItems] at h
      cases first : readValue fuel cs with
      | none =>
          rw [first] at h
          cases h
      | some value => exact skipBlanks_of_readValue first

theorem skipBlanks_of_readMembers {found : Members × List Char}
    (h : readMembers fuel cs = some found) : ∃ tail, skipBlanks cs = '\x22' :: tail := by
  cases fuel with
  | zero => cases h
  | succ fuel =>
      rw [readMembers] at h
      split at h
      · rename_i tail first
        exact ⟨tail, first⟩
      · cases h

/-- With as much fuel or more, what is read of a text is read in front of more. -/
def ReadsOnWith {α : Type} (read : Nat → List Char → Option (α × List Char)) (fuel : Nat) :
    Prop :=
  ∀ {more : Nat}, fuel ≤ more → ∀ {cs : List Char} {a : α} {rest behind : List Char},
    read fuel cs = some (a, rest) → Separates rest behind →
      read more (cs ++ behind) = some (a, rest ++ behind)

theorem readsOnWith_readItems (values : ReadsOnWith readValue fuel)
    (items : ReadsOnWith readItems fuel) : ReadsOnWith readItems (fuel + 1) := by
  rintro (_ | more) enough cs found rest behind h sep
  · cases enough
  have enough := Nat.le_of_succ_le_succ enough
  rw [readItems] at h
  cases read : readValue fuel cs with
  | none =>
      rw [read] at h
      cases h
  | some value =>
      rcases value with ⟨v, tail⟩
      rw [read] at h
      dsimp only at h
      -- A comma or a bracket is still to come, so the value does not end the text.
      have separated : Separates tail behind := by
        intro none
        rw [none] at h
        cases h
      have first := values enough read separated
      split at h
      · rename_i tail' comma
        rcases Option.map_eq_some_iff.1 h with ⟨⟨vs, last⟩, later, same⟩
        cases same
        rw [readItems]
        simp only [first, skipBlanks_append_cons comma, items enough later sep, Option.map_some]
      · rename_i tail' close
        cases h
        rw [readItems]
        simp only [first, skipBlanks_append_cons close]
      · cases h

theorem readsOnWith_readMembers (values : ReadsOnWith readValue fuel)
    (members : ReadsOnWith readMembers fuel) : ReadsOnWith readMembers (fuel + 1) := by
  rintro (_ | more) enough cs found rest behind h sep
  · cases enough
  have enough := Nat.le_of_succ_le_succ enough
  rw [readMembers] at h
  split at h
  · rename_i tail quote
    split at h
    · cases h
    · rename_i name tail named
      split at h
      · rename_i tail colon
        split at h
        · cases h
        · rename_i v tail read
          have separated : Separates tail behind := by
            intro none
            rw [none] at h
            cases h
          have value := values enough read separated
          rw [readMembers]
          simp only [skipBlanks_append_cons quote, readName_append named,
            skipBlanks_append_cons colon, value]
          split at h
          · rename_i tail comma
            rcases Option.map_eq_some_iff.1 h with ⟨⟨ms, last⟩, later, same⟩
            cases same
            simp only [skipBlanks_append_cons comma, members enough later sep, Option.map_some]
          · rename_i tail close
            cases h
            simp only [skipBlanks_append_cons close]
          · cases h
      · cases h
  · cases h

theorem readsOnWith_readValue (items : ReadsOnWith readItems fuel)
    (members : ReadsOnWith readMembers fuel) : ReadsOnWith readValue (fuel + 1) := by
  rintro (_ | more) enough cs v rest behind h sep
  · cases enough
  have enough := Nat.le_of_succ_le_succ enough
  rcases skipBlanks_of_readValue h with ⟨c, tail, first⟩
  have longer := skipBlanks_append_cons first behind
  by_cases array : c = '['
  · subst array
    by_cases closes : ∃ last, skipBlanks tail = ']' :: last
    · rcases closes with ⟨last, close⟩
      rw [readValue_emptyArray first close] at h
      cases h
      exact readValue_emptyArray longer (skipBlanks_append_cons close behind)
    · rw [readValue_array first (not_exists.1 closes)] at h
      rcases Option.map_eq_some_iff.1 h with ⟨⟨vs, last⟩, read, same⟩
      cases same
      -- An item was read, so what closes the array is not what comes next.
      have others : ∀ last, skipBlanks (tail ++ behind) ≠ ']' :: last := by
        intro last close
        rcases skipBlanks_of_readItems read with ⟨d, ds, chars⟩
        rw [skipBlanks_append_cons chars] at close
        cases close
        exact closes ⟨ds, chars⟩
      rw [readValue_array longer others, items enough read sep]
      rfl
  by_cases object : c = '\x7b'
  · subst object
    by_cases closes : ∃ last, skipBlanks tail = '\x7d' :: last
    · rcases closes with ⟨last, close⟩
      rw [readValue_emptyObject first close] at h
      cases h
      exact readValue_emptyObject longer (skipBlanks_append_cons close behind)
    · rw [readValue_object first (not_exists.1 closes)] at h
      rcases Option.map_eq_some_iff.1 h with ⟨⟨ms, last⟩, read, same⟩
      cases same
      have others : ∀ last, skipBlanks (tail ++ behind) ≠ '\x7d' :: last := by
        intro last close
        rcases skipBlanks_of_readMembers read with ⟨ds, chars⟩
        rw [skipBlanks_append_cons chars] at close
        cases close
      rw [readValue_object longer others, members enough read sep]
      rfl
  · rw [readValue_scalar array object first] at h
    rw [readValue_scalar array object longer]
    exact readsOn_readScalar h sep

theorem readsOnWith (fuel : Nat) :
    ReadsOnWith readValue fuel ∧ ReadsOnWith readItems fuel ∧ ReadsOnWith readMembers fuel := by
  induction fuel with
  | zero =>
      refine ⟨?_, ?_, ?_⟩ <;> (intro _ _ _ _ _ _ h; cases h)
  | succ fuel ih =>
      rcases ih with ⟨values, items, members⟩
      exact ⟨readsOnWith_readValue items members, readsOnWith_readItems values items,
        readsOnWith_readMembers values members⟩

end Values

end Json
end SchemaChange

import SchemaChange.Proofs.Sql.Identifier
import SchemaChange.Sql.Expression
import SchemaChange.Sql.Literal
import SchemaChange.Text.Digits

/-!
# Proofs.Sql.Value — values and texts in statements

Statements take over some texts of a description as they are: between single quotes, where a quote
would end them, or with nothing around them, where anything may happen. Such a text is safe if it
cannot lead out of its place.

- `Insertion`           : a text that is taken over, and in which way
- `Insertion.IsSafe`    : it stays in its place
- `isWord_quoteText`    : a quoted text may stand in a statement
- `isWord_grouped`      : so may an expression in parentheses
- `isWord_decimalInt`   : so may a number
-/

namespace SchemaChange
namespace Sql

open Script (Reads Closes IsWord Region)

/-- A text that a statement takes over as it is. -/
inductive Insertion
  | quoted (text : String)
  | verbatim (text : String)
  deriving DecidableEq, Repr

namespace Insertion

/-- A quoted text has no quote in it; a bare one leads back to plain text without being cut. -/
def IsSafe : Insertion → Prop
  | quoted text => '\x27' ∉ text.toList
  | verbatim text => Closes text.toList

instance : (i : Insertion) → Decidable i.IsSafe
  | quoted text => inferInstanceAs (Decidable ('\x27' ∉ text.toList))
  | verbatim text => inferInstanceAs (Decidable (Closes text.toList))

/-- A value, quoted as its type group asks for. -/
def ofLiteral (value : String) (group : TypeGroup) : Insertion :=
  if group.isQuoted then quoted value else verbatim value

end Insertion

/-! ## Quoted texts -/

theorem reads_quotedText {cs : List Char} (h : '\x27' ∉ cs) (following : List Char) :
    Reads ['^'] .quotedText (cs ++ ['\x27']) following .plain := by
  have notPlain : ∀ text : List Char, Region.quotedText = .plain → ¬['^'] <+: text := by
    intro _ plain
    cases plain
  induction cs with
  | nil => exact .cons (notPlain _) (.closeText _) (.done _ _)
  | cons c cs ih =>
      rw [List.mem_cons, not_or] at h
      exact .cons (notPlain _) (.text _ (Ne.symm h.1)) (ih h.2)

theorem toList_quoteText (text : String) :
    (quoteText text).toList = '\x27' :: (text.toList ++ ['\x27']) := by
  simp [quoteText]

theorem isWord_quoteText {text : String} (h : (Insertion.quoted text).IsSafe) :
    IsWord (quoteText text) := by
  have quote : Text.isSpace '\x27' = false := by decide
  constructor
  · rw [toList_quoteText]
    refine .cons ?_ (.openText _) (reads_quotedText h [])
    intro _ found
    simp [List.cons_prefix_cons] at found
  · rw [toList_quoteText]
    exact Text.isTrimmed_between quote quote text.toList
  · rw [toList_quoteText]
    exact List.cons_ne_nil _ _

/-! ## Texts taken over bare -/

theorem isWord_verbatim {text : String} (h : (Insertion.verbatim text).IsSafe)
    (trimmed : Text.trim text = text) (nonempty : text ≠ "") : IsWord text :=
  ⟨h, Text.trim_eq_self_iff.1 trimmed, by simpa using nonempty⟩

/-- A text that is taken over trimmed and bare, unless it is blank. -/
def bareInsertions (value : Option String) : List Insertion :=
  (Text.nonBlank? value).toList.map .verbatim

/-- A text that is taken over trimmed and quoted, unless it is blank. -/
def quotedInsertions (value : Option String) : List Insertion :=
  (Text.nonBlank? value).toList.map .quoted

theorem isWord_of_bareInsertions {value : Option String} {text : String}
    (found : Text.nonBlank? value = some text) (safe : ∀ i ∈ bareInsertions value, i.IsSafe) :
    IsWord text := by
  have closes := safe (.verbatim text) (by simp [bareInsertions, found])
  rcases Text.nonBlank?_eq_some found with ⟨trimmed, nonempty⟩
  exact isWord_verbatim closes trimmed nonempty

theorem isWord_of_quotedInsertions {value : Option String} {text : String}
    (found : Text.nonBlank? value = some text) (safe : ∀ i ∈ quotedInsertions value, i.IsSafe) :
    IsWord (quoteText text) :=
  isWord_quoteText (safe (.quoted text) (by simp [quotedInsertions, found]))

theorem isWord_grouped {expression : String} (h : IsWord expression) :
    IsWord (grouped expression) := by
  have trimmed : Text.trim expression = expression := Text.trim_eq_self_iff.2 h.trimmed
  rw [grouped, trimmed]
  split
  · exact h
  · have lead : Script.IsLead "(" := Script.isLead_ofList _ rfl
    have tail : Script.IsTail ")" := Script.isTail_ofList _ rfl
    exact (lead.word h).append tail

theorem isWord_literal {value : String} {group : TypeGroup}
    (h : (Insertion.ofLiteral value group).IsSafe) (trimmed : Text.trim value = value)
    (nonempty : value ≠ "") : IsWord (literal value group) := by
  unfold Insertion.ofLiteral at h
  unfold literal
  split
  · rename_i quoted
    rw [if_pos quoted] at h
    exact isWord_quoteText h
  · rename_i bare
    rw [if_neg bare] at h
    exact isWord_verbatim h trimmed nonempty

/-- The texts that the value of a comment takes over. -/
def commentInsertions : Option String → List Insertion
  | none => []
  | some text => if Text.isBlank text then [] else [.quoted text]

theorem isWord_commentLiteral {text : Option String}
    (h : ∀ i ∈ commentInsertions text, i.IsSafe) : IsWord (commentLiteral text) := by
  have null : IsWord "NULL" := Script.isWord_ofList _ rfl
  cases text with
  | none => exact null
  | some text =>
      rw [commentInsertions] at h
      rw [commentLiteral]
      split
      · exact null
      · rename_i full
        rw [if_neg full] at h
        exact isWord_quoteText (h _ List.mem_cons_self)

/-! ## Numbers -/

theorem isBareChar_of_mem_decimal {n : Nat} {c : Char} (h : c ∈ (Text.decimal n).toList) :
    isBareChar c = true := by
  rw [Text.decimal, String.toList_ofList] at h
  have digit := Nat.isDigit_of_mem_toDigits (by decide) (by decide) h
  simp [isBareChar, digit]

theorem isWord_decimal (n : Nat) : IsWord (Text.decimal n) := by
  refine isWord_of_bare ?_ (fun c hc => isBareChar_of_mem_decimal hc)
  rw [Text.decimal, String.toList_ofList]
  exact Nat.toDigits_ne_nil

/-- A sign opens no comment, since a digit follows it. -/
theorem isWord_decimalInt (n : Int) : IsWord (Text.decimalInt n) := by
  cases n with
  | ofNat n => exact isWord_decimal n
  | negSucc n =>
      have digits := isWord_decimal (n + 1)
      have signed : (Text.decimalInt (Int.negSucc n)).toList =
          '-' :: (Text.decimal (n + 1)).toList := by
        simp [Text.decimalInt]
      have digit : ∀ c, (Text.decimal (n + 1)).toList.head? = some c → c ≠ '-' := by
        rintro c hc rfl
        have := isBareChar_of_mem_decimal (List.mem_of_head? hc)
        simp [isBareChar] at this
      constructor
      · -- Two signs would open a comment, which is why the first digit counts.
        rw [signed]
        refine .cons ?_ (.plain ?_ ?_ ?_ ?_) digits.closes
        · intro _ found
          simp [List.cons_prefix_cons] at found
        · decide
        · decide
        · rintro ⟨-, dash⟩
          rw [List.append_nil] at dash
          exact digit '-' dash rfl
        · rintro ⟨slash, -⟩
          cases slash
      · rw [signed]
        constructor
        · intro c hc
          have : '-' = c := by simpa using hc
          subst this
          decide
        · intro c hc
          rw [← List.singleton_append, List.getLast?_append_of_ne_nil _ digits.nonempty] at hc
          exact digits.trimmed.last c hc
      · rw [signed]
        exact List.cons_ne_nil _ _

end Sql
end SchemaChange

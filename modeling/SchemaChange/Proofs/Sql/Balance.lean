import SchemaChange.Proofs.Sql.Group
import SchemaChange.Text.Bytes

/-!
# Proofs.Sql.Balance — parentheses that are counted wherever they stand

`isGroup` counts the parentheses inside quotes along with all others. In that count an expression is
taken for a group just if it stands between two parentheses and the text between them is balanced.
The check keeps a counter that never drops below none; on a group this makes no difference.

- `IsBalanced`    : nothing is closed that is not open, and nothing is left open
- `IsBracketed`   : a balanced text between two parentheses
- `depthBehind`   : the counter of the check
- `GroupAccount`  : all that is said of the parentheses of an expression
- `groupAccount_of_expression` : it holds of every expression
-/

namespace SchemaChange
namespace Sql

/-! ## Balanced texts -/

/-- Every parenthesis counts, inside quotes too. -/
structure IsBalanced (cs : List Char) : Prop where
  covered : ∀ read, read <+: cs → read.count ')' ≤ read.count '('
  settled : cs.count '(' = cs.count ')'

/-- The first parenthesis of the text is closed by its last character. -/
def IsBracketed (cs : List Char) : Prop :=
  ∃ inner, cs = '(' :: (inner ++ [')']) ∧ IsBalanced inner

/-- The text is balanced inside so many parentheses that are open in front of it, and closes them
all. -/
def BalancedFrom (depth : Nat) (cs : List Char) : Prop :=
  (∀ read, read <+: cs → read.count ')' ≤ depth + read.count '(') ∧
    cs.count ')' = depth + cs.count '('

theorem balancedFrom_zero {cs : List Char} : BalancedFrom 0 cs ↔ IsBalanced cs := by
  constructor
  · rintro ⟨covered, settled⟩
    exact ⟨by simpa using covered, by simpa using settled.symm⟩
  · rintro ⟨covered, settled⟩
    exact ⟨by simpa using covered, by simpa using settled.symm⟩

theorem forall_prefix_cons {p : List Char → Prop} {c : Char} {cs : List Char} :
    (∀ read, read <+: c :: cs → p read) ↔ p [] ∧ ∀ read, read <+: cs → p (c :: read) := by
  simp only [List.prefix_cons_iff]
  constructor
  · intro h
    exact ⟨h [] (.inl rfl), fun read found => h _ (.inr ⟨read, rfl, found⟩)⟩
  · rintro ⟨nil, cons⟩ read (rfl | ⟨rest, rfl, found⟩)
    · exact nil
    · exact cons rest found

theorem balancedFrom_open {depth : Nat} {cs : List Char} :
    BalancedFrom depth ('(' :: cs) ↔ BalancedFrom (depth + 1) cs := by
  simp [BalancedFrom, forall_prefix_cons, Nat.add_assoc, Nat.add_comm 1]

theorem balancedFrom_close {depth : Nat} {cs : List Char} :
    BalancedFrom (depth + 1) (')' :: cs) ↔ BalancedFrom depth cs := by
  have shift : ∀ m n, m + 1 ≤ depth + 1 + n ↔ m ≤ depth + n := by omega
  have shift' : ∀ m n, m + 1 = depth + 1 + n ↔ m = depth + n := by omega
  simp [BalancedFrom, forall_prefix_cons, shift, shift']

/-- What is not open cannot be closed. -/
theorem not_balancedFrom_close {cs : List Char} : ¬BalancedFrom 0 (')' :: cs) := by
  rintro ⟨covered, -⟩
  have first := covered [')'] (by simp)
  simp at first

theorem balancedFrom_other {depth : Nat} {c : Char} {cs : List Char} (notOpen : c ≠ '(')
    (notClose : c ≠ ')') : BalancedFrom depth (c :: cs) ↔ BalancedFrom depth cs := by
  simp [BalancedFrom, forall_prefix_cons, notOpen, notClose]

/-- Behind an opened parenthesis, the count drops to none at the closing one at the end and nowhere
before it just if the text between them is balanced. -/
theorem closesAtEnd_iff_balancedFrom (depth : Nat) (inner : List Char) :
    closesAtEnd (depth + 1) (inner ++ [')']) = true ↔ BalancedFrom depth inner := by
  -- Along the text, with any number of parentheses open in front of it.
  induction inner generalizing depth with
  | nil =>
      have none : BalancedFrom depth [] ↔ depth = 0 := by simp [BalancedFrom, eq_comm]
      simp [closesAtEnd, none]
  | cons c inner ih =>
      by_cases opens : c = '('
      · subst opens
        simpa [closesAtEnd, balancedFrom_open] using ih (depth + 1)
      · by_cases closes : c = ')'
        · subst closes
          cases depth with
          | zero => simp [closesAtEnd, not_balancedFrom_close]
          | succ depth => simpa [closesAtEnd, balancedFrom_close] using ih depth
        · simpa [closesAtEnd, opens, closes, balancedFrom_other opens closes] using ih depth

theorem isGroup_iff_isBracketed {cs : List Char} : isGroup cs = true ↔ IsBracketed cs := by
  rw [isGroup_iff_closesAtEnd]
  simp only [closesAtEnd_iff_balancedFrom 0, balancedFrom_zero, IsBracketed]

theorem IsBracketed.isBalanced {cs : List Char} (h : IsBracketed cs) : IsBalanced cs := by
  rcases h with ⟨inner, rfl, covered, settled⟩
  constructor
  · refine forall_prefix_cons.2 ⟨by simp, ?_⟩
    intro read found
    rcases List.prefix_concat_iff.1 found with rfl | found
    · simp [settled]
    · have := covered read found
      simp
      omega
  · simp [settled]

/-! ## The counter -/

/-- One character of the count; nothing is taken from none. -/
def depthStep (depth : Nat) (c : Char) : Nat :=
  if c = '(' then depth + 1 else if c = ')' then depth - 1 else depth

/-- The counter behind a text. -/
def depthBehind (depth : Nat) (cs : List Char) : Nat :=
  cs.foldl depthStep depth

theorem depthBehind_cons (depth : Nat) (c : Char) (cs : List Char) :
    depthBehind depth (c :: cs) = depthBehind (depthStep depth c) cs := rfl

/-- As long as nothing is closed that is not open, the counter is exact. -/
theorem depthBehind_of_covered {depth : Nat} {cs : List Char}
    (covered : ∀ read, read <+: cs → read.count ')' ≤ depth + read.count '(') :
    depthBehind depth cs + cs.count ')' = depth + cs.count '(' := by
  induction cs generalizing depth with
  | nil => rfl
  | cons c cs ih =>
      have behind := (forall_prefix_cons.1 covered).2
      rw [depthBehind_cons]
      by_cases opens : c = '('
      · subst opens
        have inside : ∀ read, read <+: cs → read.count ')' ≤ depth + 1 + read.count '(' := by
          intro read found
          have := behind read found
          simp at this
          omega
        have kept := ih inside
        simp [depthStep]
        omega
      · by_cases closes : c = ')'
        · subst closes
          have positive : 0 < depth := by simpa [Nat.lt_iff_add_one_le] using behind [] List.nil_prefix
          have outside : ∀ read, read <+: cs → read.count ')' ≤ depth - 1 + read.count '(' := by
            intro read found
            have := behind read found
            simp at this
            omega
          have kept := ih outside
          simp [depthStep]
          omega
        · have beside : ∀ read, read <+: cs → read.count ')' ≤ depth + read.count '(' := by
            intro read found
            simpa [opens, closes] using behind read found
          simpa [depthStep, opens, closes] using ih beside

/-! ## Places in bytes -/

theorem byteLength_append (cs ds : List Char) :
    Text.byteLength (cs ++ ds) = Text.byteLength cs + Text.byteLength ds := by
  induction cs with
  | nil => simp [Text.byteLength]
  | cons c cs ih =>
      have head : ∀ rest, Text.byteLength (c :: rest) = c.utf8Size + Text.byteLength rest :=
        fun _ => rfl
      simp only [List.cons_append, head, ih]
      omega

theorem byteLength_eq_zero_iff {cs : List Char} : Text.byteLength cs = 0 ↔ cs = [] := by
  cases cs with
  | nil => simp [Text.byteLength]
  | cons c cs =>
      have := c.utf8Size_pos
      simp [Text.byteLength]
      omega

/-- A closing parenthesis is a single byte, so it is the last character if it stands one byte in
front of the end. -/
theorem byteLength_eq_last_iff {before after : List Char} :
    Text.byteLength before = Text.byteLength (before ++ ')' :: after) - 1 ↔ after = [] := by
  have total : Text.byteLength (before ++ ')' :: after) =
      Text.byteLength before + (1 + Text.byteLength after) := byteLength_append _ _
  rw [← byteLength_eq_zero_iff, total]
  omega

/-! ## The whole count -/

/-- The count of the check, told of the whole text: nothing is open behind it, and something is open
behind every closing parenthesis that is not the last character. -/
theorem closesAtEnd_iff (depth : Nat) (cs : List Char) :
    closesAtEnd depth cs = true ↔
      depthBehind depth cs = 0 ∧
        ∀ before after, cs = before ++ ')' :: after → after ≠ [] →
          depthBehind depth (before ++ [')']) ≠ 0 := by
  induction cs generalizing depth with
  | nil => simp [closesAtEnd, depthBehind]
  | cons c cs ih =>
      -- A split of the text is one in front of its first character, or one of the rest.
      have splits : (∀ before after, c :: cs = before ++ ')' :: after → after ≠ [] →
          depthBehind depth (before ++ [')']) ≠ 0) ↔
          (c = ')' → cs ≠ [] → depth - 1 ≠ 0) ∧
            ∀ before after, cs = before ++ ')' :: after → after ≠ [] →
              depthBehind (depthStep depth c) (before ++ [')']) ≠ 0 := by
        constructor
        · intro h
          refine ⟨?_, fun before after text => ?_⟩
          · rintro rfl
            exact h [] cs rfl
          · exact h (c :: before) after (by rw [text]; rfl)
        · rintro ⟨first, later⟩ before after text more
          rcases before with _ | ⟨d, before⟩
          · cases text
            exact first rfl more
          · cases text
            exact later before after rfl more
      rw [splits, depthBehind_cons]
      by_cases opens : c = '('
      · subst opens
        simpa [closesAtEnd, depthStep] using ih (depth + 1)
      · by_cases closes : c = ')'
        · subst closes
          by_cases early : depth - 1 = 0 ∧ cs ≠ []
          · simp [closesAtEnd, early]
          · have late : cs ≠ [] → depth - 1 ≠ 0 := fun more none => early ⟨none, more⟩
            have goesOn : closesAtEnd depth (')' :: cs) = closesAtEnd (depth - 1) cs := by
              simp [closesAtEnd, early]
            have step : depthStep depth ')' = depth - 1 := rfl
            rw [goesOn, ih (depth - 1), step]
            exact and_congr_right fun _ => (and_iff_right fun _ => late).symm
        · simpa [closesAtEnd, depthStep, opens, closes] using ih depth

/-! ## Expressions as groups -/

theorem grouped_of_isBracketed {e : String} (h : IsBracketed (Text.trim e).toList) :
    grouped e = Text.trim e :=
  if_pos (isGroup_iff_isBracketed.2 h)

theorem grouped_of_not_isBracketed {e : String} (h : ¬IsBracketed (Text.trim e).toList) :
    grouped e = "(" ++ Text.trim e ++ ")" :=
  if_neg fun group => h (isGroup_iff_isBracketed.1 group)

theorem toList_between (text : String) :
    ("(" ++ text ++ ")").toList = '(' :: (text.toList ++ [')']) := by
  simp

/-- Behind a pair of parentheses that was added, the text is one group just if it was balanced. -/
theorem isBracketed_between {inner : List Char} :
    IsBracketed ('(' :: (inner ++ [')'])) ↔ IsBalanced inner := by
  constructor
  · rintro ⟨inner', same, balanced⟩
    have : inner = inner' := by simpa using same
    rwa [this]
  · intro balanced
    exact ⟨inner, rfl, balanced⟩

theorem isBracketed_grouped {e : String} :
    IsBracketed (grouped e).toList ↔ IsBalanced (Text.trim e).toList := by
  by_cases group : IsBracketed (Text.trim e).toList
  · rw [grouped_of_isBracketed group]
    exact ⟨IsBracketed.isBalanced, fun _ => group⟩
  · rw [grouped_of_not_isBracketed group, toList_between, isBracketed_between]

/-- A group begins and ends with a parenthesis, so nothing of it is trimmed. -/
theorem IsBracketed.trim_eq {text : String} (h : IsBracketed text.toList) :
    Text.trim text = text := by
  rcases h with ⟨inner, chars, -⟩
  rw [Text.trim_eq_self_iff, chars]
  exact Text.isTrimmed_between rfl rfl inner

theorem grouped_grouped_of_isBalanced {e : String} (h : IsBalanced (Text.trim e).toList) :
    grouped (grouped e) = grouped e := by
  have group : IsBracketed (grouped e).toList := isBracketed_grouped.2 h
  have trimmed : Text.trim (grouped e) = grouped e := group.trim_eq
  calc
    grouped (grouped e) = Text.trim (grouped e) := grouped_of_isBracketed (by rwa [trimmed])
    _ = grouped e := trimmed

/-- A pair of parentheses makes a text longer, so only a group is left as it is. -/
theorem grouped_eq_trim_iff {e : String} :
    grouped e = Text.trim e ↔ IsBracketed (Text.trim e).toList := by
  refine ⟨fun same => ?_, grouped_of_isBracketed⟩
  by_contra other
  rw [grouped_of_not_isBracketed other] at same
  have longer := congrArg (fun text => text.toList.length) same
  simp at longer
  omega

/-- What is said of the parentheses of an expression. -/
structure GroupAccount (e : String) : Prop where
  isGroup_iff : isGroup e.toList = true ↔
    ∃ inner, e.toList = '(' :: (inner ++ [')']) ∧ IsBalanced inner
  /-- The check as a count, with the places of the parentheses in bytes. -/
  counted : isGroup e.toList = true ↔
    (e.toList.head? = some '(' ∧ e.toList.getLast? = some ')') ∧
      depthBehind 0 e.toList = 0 ∧
        ∀ before after, e.toList = before ++ ')' :: after →
          Text.byteLength before ≠ Text.byteLength e.toList - 1 →
            depthBehind 0 (before ++ [')']) ≠ 0
  /-- Where the check succeeds, its counter is exact in front of every closing parenthesis, and
  something is open there. -/
  neverBelow : isGroup e.toList = true → ∀ before after, e.toList = before ++ ')' :: after →
    depthBehind 0 before + before.count ')' = before.count '(' ∧ 0 < depthBehind 0 before
  isBracketed_iff : IsBracketed (grouped e).toList ↔ IsBalanced (Text.trim e).toList
  kept_iff : grouped e = Text.trim e ↔ IsBracketed (Text.trim e).toList
  wrapped : ¬IsBracketed (Text.trim e).toList → grouped e = "(" ++ Text.trim e ++ ")"
  again : IsBalanced (Text.trim e).toList → grouped (grouped e) = grouped e

theorem isGroup_iff_counted {cs : List Char} :
    isGroup cs = true ↔
      (cs.head? = some '(' ∧ cs.getLast? = some ')') ∧ depthBehind 0 cs = 0 ∧
        ∀ before after, cs = before ++ ')' :: after →
          Text.byteLength before ≠ Text.byteLength cs - 1 →
            depthBehind 0 (before ++ [')']) ≠ 0 := by
  have places : ∀ before after, cs = before ++ ')' :: after →
      (Text.byteLength before ≠ Text.byteLength cs - 1 ↔ after ≠ []) := by
    rintro before after rfl
    exact not_congr byteLength_eq_last_iff
  have early : (∀ before after, cs = before ++ ')' :: after → after ≠ [] →
      depthBehind 0 (before ++ [')']) ≠ 0) ↔
      ∀ before after, cs = before ++ ')' :: after →
        Text.byteLength before ≠ Text.byteLength cs - 1 →
          depthBehind 0 (before ++ [')']) ≠ 0 :=
    forall₂_congr fun before after => forall_congr' fun text =>
      imp_congr (places before after text).symm Iff.rfl
  rw [← early, ← closesAtEnd_iff]
  simp [isGroup]

/-- In front of a closing parenthesis of a group, its first parenthesis is still open. -/
theorem depthBehind_of_isBracketed {cs before after : List Char} (h : IsBracketed cs)
    (text : cs = before ++ ')' :: after) :
    depthBehind 0 before + before.count ')' = before.count '(' ∧ 0 < depthBehind 0 before := by
  rcases h with ⟨inner, rfl, balanced⟩
  rcases before with _ | ⟨c, before⟩
  · cases text
  rcases List.cons.inj text with ⟨rfl, rest⟩
  -- What stands in front of the closing parenthesis is the first one and a part of what is inside.
  have part : before <+: inner := by
    have whole : before <+: inner ++ [')'] := ⟨')' :: after, rest.symm⟩
    rcases List.prefix_concat_iff.1 whole with same | part
    · rw [same] at rest
      simp at rest
    · exact part
  have covered := balanced.covered before part
  have counter : depthBehind 1 before + before.count ')' = 1 + before.count '(' := by
    refine depthBehind_of_covered fun read found => ?_
    have := balanced.covered read (found.trans part)
    omega
  have first : depthBehind 0 ('(' :: before) = depthBehind 1 before := rfl
  simp [first]
  omega

/-- What the check takes for one group, and what is written of an expression: the trimmed text,
in one pair of parentheses unless it already is one group. -/
theorem groupAccount_of_expression (e : String) : GroupAccount e where
  isGroup_iff := isGroup_iff_isBracketed
  counted := isGroup_iff_counted
  neverBelow := fun group _ _ text =>
    depthBehind_of_isBracketed (isGroup_iff_isBracketed.1 group) text
  isBracketed_iff := isBracketed_grouped
  kept_iff := grouped_eq_trim_iff
  wrapped := grouped_of_not_isBracketed
  again := grouped_grouped_of_isBalanced

/-- Two groups begin and end with parentheses and are not one group. -/
example : grouped " (A) OR (B) " = "((A) OR (B))" ∧ grouped "((A) OR (B))" = "((A) OR (B))" := by
  decide +kernel

end Sql
end SchemaChange

import SchemaChange.Proofs.Text.Source
import SchemaChange.Sql.Expression

/-!
# Proofs.Sql.Group — expressions that become one group

Parentheses are read here as the database reads them: those inside a quoted text or a quoted name
open and close nothing. `isGroup` counts all of them, so it takes some expressions for one group
that are none, and those stand in a statement without the parentheses that they need.

- `IsClosed`             : every quote and every parenthesis of a text is closed
- `IsOneGroup`           : the first parenthesis of a text is closed by its last character
- `IsOneGroup.isClosed`  : such a text is closed
- `isOneGroup_grouped`   : when an expression is written as one group
- `isGroup_iff_closesAtEnd`: what the check asks of a text between two parentheses
- `isGroup_iff_of_spares`: the two readings agree if quotes hold no parentheses
-/

namespace SchemaChange
namespace Sql

/-! ## Parentheses that count -/

/-- Where a text has been read to. -/
inductive Place
  | bare
  | quotedText
  | quotedName
  deriving DecidableEq, Repr

/-- A doubled quote closes and opens again, so it needs no case of its own. -/
def Place.next : Place → Char → Place
  | .bare, c => if c = '\x27' then .quotedText else if c = '\x22' then .quotedName else .bare
  | .quotedText, c => if c = '\x27' then .bare else .quotedText
  | .quotedName, c => if c = '\x22' then .bare else .quotedName

/-- The place, and the number of parentheses that are open. -/
structure Nesting where
  place : Place := .bare
  depth : Nat := 0
  deriving DecidableEq, Repr

namespace Nesting

/-- No nesting is left behind a parenthesis that closes nothing. -/
def next? (s : Nesting) (c : Char) : Option Nesting :=
  if s.place = .bare ∧ c = '(' then some { s with depth := s.depth + 1 }
  else if s.place = .bare ∧ c = ')' then
    if s.depth = 0 then none else some { s with depth := s.depth - 1 }
  else some { s with place := s.place.next c }

def read? (s : Nesting) (cs : List Char) : Option Nesting :=
  cs.foldlM next? s

theorem read?_cons (s : Nesting) (c : Char) (cs : List Char) :
    s.read? (c :: cs) = (s.next? c).bind fun t => t.read? cs := by
  rw [read?, List.foldlM_cons]
  rfl

theorem read?_append (s : Nesting) (cs ds : List Char) :
    s.read? (cs ++ ds) = (s.read? cs).bind fun t => t.read? ds := by
  rw [read?, List.foldlM_append]
  rfl

/-! ## Deeper nesting -/

/-- The same place inside more parentheses. -/
def under (k : Nat) (s : Nesting) : Nesting :=
  { s with depth := s.depth + k }

theorem next?_under {s t : Nesting} {c : Char} (h : s.next? c = some t) (k : Nat) :
    (s.under k).next? c = some (t.under k) := by
  -- Whether a parenthesis counts is a matter of the place, which stays the same.
  unfold next? under at *
  by_cases opens : s.place = .bare ∧ c = '('
  · rw [if_pos opens, Option.some_inj] at h
    rw [if_pos opens, ← h, Nat.add_right_comm]
  · by_cases closes : s.place = .bare ∧ c = ')'
    · rw [if_neg opens, if_pos closes, Option.ite_none_left_eq_some, Option.some_inj] at h
      rcases h with ⟨nested, rfl⟩
      have positive : 0 < s.depth := Nat.pos_of_ne_zero nested
      have deeper : ¬s.depth + k = 0 := by omega
      rw [if_neg opens, if_pos closes, if_neg deeper, Nat.sub_add_comm positive]
    · rw [if_neg opens, if_neg closes, Option.some_inj] at h
      rw [if_neg opens, if_neg closes, ← h]

/-- What a text closes it closes inside other parentheses too. -/
theorem read?_under {s t : Nesting} {cs : List Char} (h : s.read? cs = some t) (k : Nat) :
    (s.under k).read? cs = some (t.under k) := by
  induction cs generalizing s with
  | nil =>
      cases h
      rfl
  | cons c cs ih =>
      rw [read?_cons, Option.bind_eq_some_iff] at h
      rcases h with ⟨u, first, rest⟩
      rw [read?_cons, next?_under first k]
      exact ih rest

/-! ## Blanks -/

theorem next?_of_isSpace {c : Char} (h : Text.isSpace c = true) (s : Nesting) :
    s.next? c = some s := by
  have other : ∀ d : Char, Text.isSpace d = false → c ≠ d := by
    rintro d full rfl
    rw [h] at full
    cases full
  have place : s.place.next c = s.place := by
    cases s.place <;> simp [Place.next, other '\x27' rfl, other '\x22' rfl]
  rw [next?, if_neg (fun opens => other '(' rfl opens.2),
    if_neg (fun closes => other ')' rfl closes.2), place]

theorem read?_of_allSpaces {cs : List Char} (h : Text.AllSpaces cs) (s : Nesting) :
    s.read? cs = some s := by
  induction cs with
  | nil => rfl
  | cons c cs ih =>
      rw [read?_cons, next?_of_isSpace (h c List.mem_cons_self)]
      exact ih fun d mem => h d (List.mem_cons_of_mem c mem)

theorem read?_trimChars (s : Nesting) (cs : List Char) :
    s.read? (Text.trimChars cs) = s.read? cs := by
  rcases Text.exists_blanks_around cs with ⟨before, after, hbefore, hafter, chars⟩
  conv_rhs => rw [chars]
  rw [read?_append, read?_append, read?_of_allSpaces hbefore, Option.bind_some]
  cases s.read? (Text.trimChars cs) with
  | none => rfl
  | some t => exact (read?_of_allSpaces hafter t).symm

end Nesting

/-! ## Groups -/

/-- Every quote and every parenthesis is closed. -/
def IsClosed (cs : List Char) : Prop :=
  ({} : Nesting).read? cs = some {}

instance (cs : List Char) : Decidable (IsClosed cs) :=
  inferInstanceAs (Decidable (_ = _))

/-- The text begins with a parenthesis, and its last character closes that one. -/
def IsOneGroup (cs : List Char) : Prop :=
  ∃ inner, cs = '(' :: (inner ++ [')']) ∧ IsClosed inner

theorem isOneGroup_iff {cs : List Char} :
    IsOneGroup cs ↔ (2 ≤ cs.length ∧ cs.head? = some '(' ∧ cs.getLast? = some ')') ∧
      IsClosed cs.tail.dropLast := by
  rw [Text.between_iff]
  constructor
  · rintro ⟨inner, rfl, closed⟩
    exact ⟨⟨inner, rfl⟩, by rwa [Text.between_content]⟩
  · rintro ⟨⟨inner, rfl⟩, closed⟩
    exact ⟨inner, rfl, by rwa [Text.between_content] at closed⟩

instance (cs : List Char) : Decidable (IsOneGroup cs) :=
  decidable_of_iff _ isOneGroup_iff.symm

theorem isOneGroup_between {inner : List Char} :
    IsOneGroup ('(' :: (inner ++ [')'])) ↔ IsClosed inner := by
  constructor
  · rintro ⟨inner', same, closed⟩
    rw [List.cons.injEq, List.append_cancel_right_eq] at same
    rwa [same.2]
  · intro closed
    exact ⟨inner, rfl, closed⟩

theorem IsOneGroup.isClosed {cs : List Char} (h : IsOneGroup cs) : IsClosed cs := by
  rcases h with ⟨inner, rfl, closed⟩
  have deeper : (⟨.bare, 1⟩ : Nesting).read? inner = some ⟨.bare, 1⟩ :=
    Nesting.read?_under closed 1
  have opened : ({} : Nesting).next? '(' = some ⟨.bare, 1⟩ := rfl
  rw [IsClosed, Nesting.read?_cons, opened, Option.bind_some, Nesting.read?_append, deeper]
  rfl

theorem isClosed_trimChars {cs : List Char} : IsClosed (Text.trimChars cs) ↔ IsClosed cs := by
  rw [IsClosed, Nesting.read?_trimChars, IsClosed]

/-- An expression is written as one group if it is closed and not wrongly taken for a group. -/
theorem isOneGroup_grouped {e : String} :
    IsOneGroup (grouped e).toList ↔
      IsClosed e.toList ∧
        (isGroup (Text.trim e).toList = true → IsOneGroup (Text.trim e).toList) := by
  have trimmed : IsClosed (Text.trim e).toList ↔ IsClosed e.toList := by
    rw [Text.toList_trim, isClosed_trimChars]
  unfold grouped
  by_cases group : isGroup (Text.trim e).toList = true
  · rw [if_pos group, forall_prop_of_true group, ← trimmed]
    exact (and_iff_right_of_imp IsOneGroup.isClosed).symm
  · have wrapped : ("(" ++ Text.trim e ++ ")").toList =
        '(' :: ((Text.trim e).toList ++ [')']) := by
      rw [String.toList_append, String.toList_append]
      rfl
    rw [if_neg group, wrapped, isOneGroup_between, trimmed]
    exact (and_iff_left fun yes => absurd yes group).symm

/-! ## Parentheses outside quotes -/

/-- The quotes of a text that is read from the place hold no parentheses. -/
def SparesQuotes (place : Place) (cs : List Char) : Prop :=
  ∀ before c after, cs = before ++ c :: after → c = '(' ∨ c = ')' →
    before.foldl Place.next place = .bare

theorem SparesQuotes.head {place : Place} {c : Char} {cs : List Char}
    (h : SparesQuotes place (c :: cs)) (parenthesis : c = '(' ∨ c = ')') : place = .bare :=
  h [] c cs rfl parenthesis

theorem SparesQuotes.tail {place : Place} {c : Char} {cs : List Char}
    (h : SparesQuotes place (c :: cs)) : SparesQuotes (place.next c) cs := by
  intro before d after chars parenthesis
  exact h (c :: before) d after (by rw [chars]; rfl) parenthesis

/-- Up to the last parenthesis, the count drops to none nowhere if nothing is closed too often. -/
theorem closesAtEnd_concat {place : Place} {inner : List Char}
    (spares : SparesQuotes place (inner ++ [')'])) (depth : Nat) :
    closesAtEnd (depth + 1) (inner ++ [')']) = true ↔
      (⟨place, depth⟩ : Nesting).read? inner = some {} := by
  induction inner generalizing place depth with
  | nil =>
      cases spares.head (.inr rfl)
      have last : closesAtEnd (depth + 1) [')'] = (depth == 0) := by simp [closesAtEnd]
      rw [List.nil_append, last]
      simp [Nesting.read?]
  | cons c inner ih =>
      have later := ih spares.tail
      rw [List.cons_append, Nesting.read?_cons, Nesting.next?]
      -- A parenthesis stands outside quotes here, so both readings take the same step.
      by_cases opens : c = '('
      · subst opens
        cases spares.head (.inl rfl)
        rw [closesAtEnd, if_pos rfl, if_pos ⟨rfl, rfl⟩]
        exact later (depth + 1)
      · by_cases closes : c = ')'
        · subst closes
          cases spares.head (.inr rfl)
          have more : inner ++ [')'] ≠ [] := List.append_ne_nil_of_right_ne_nil _ (by simp)
          rw [closesAtEnd, if_neg opens, if_pos rfl]
          cases depth with
          | zero => simp [more]
          | succ depth =>
              have outside : Place.bare.next ')' = .bare := rfl
              simpa [opens, outside] using later depth
        · rw [closesAtEnd, if_neg opens, if_neg closes, if_neg (fun h => opens h.2),
            if_neg (fun h => closes h.2)]
          exact later depth

/-- What is taken for a group stands between two parentheses, and the count goes on behind the first
of them. -/
theorem isGroup_iff_closesAtEnd {cs : List Char} :
    isGroup cs = true ↔
      ∃ inner, cs = '(' :: (inner ++ [')']) ∧ closesAtEnd 1 (inner ++ [')']) = true := by
  constructor
  · intro group
    simp only [isGroup, Bool.and_eq_true, beq_iff_eq] at group
    rcases group with ⟨⟨first, last⟩, closes⟩
    -- A text of one character does not begin and end with different ones.
    have long : 2 ≤ cs.length := by
      rcases cs with _ | ⟨c, _ | ⟨d, cs⟩⟩
      · cases first
      · rw [List.head?_cons] at first
        rw [List.getLast?_singleton, first] at last
        cases last
      · simp
    rcases Text.between_iff.1 ⟨long, first, last⟩ with ⟨inner, rfl⟩
    exact ⟨inner, rfl, by simpa [closesAtEnd] using closes⟩
  · rintro ⟨inner, rfl, closes⟩
    have last : ('(' :: (inner ++ [')'])).getLast? = some ')' := by
      rw [← List.cons_append, List.getLast?_concat]
    simp [isGroup, last, closesAtEnd, closes]

/-- Without parentheses in quotes an expression is taken for a group just if it is one. -/
theorem isGroup_iff_of_spares {cs : List Char} (spares : SparesQuotes .bare cs) :
    isGroup cs = true ↔ IsOneGroup cs := by
  rw [isGroup_iff_closesAtEnd]
  constructor
  · rintro ⟨inner, rfl, closes⟩
    exact ⟨inner, rfl, (closesAtEnd_concat spares.tail 0).1 closes⟩
  · rintro ⟨inner, rfl, closed⟩
    exact ⟨inner, rfl, (closesAtEnd_concat spares.tail 0).2 closed⟩

end Sql
end SchemaChange

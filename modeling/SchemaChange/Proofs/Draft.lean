import Mathlib.Data.List.Basic
import SchemaChange.Draft

/-!
# Proofs.Draft — what edits leave behind

An edit touches one attribute and changes the values wanted now. A run of edits leaves the old
values alone and marks what it touched, and nothing else; of the values set in the same place the
last one is left.

- `LawfulAttribute`      : every attribute has a bit of its own
- `Marks.eq_of_contains` : a set of attributes is known by its members
- `Draft.run`            : edits one after the other
- `Draft.Follows`        : what is said of a draft behind edits
- `read_foldl`           : what is left where edits set values
- `SameOrder`            : runs that differ in the places of unrelated edits
-/

namespace SchemaChange

/-- Every attribute has a bit of its own among the 16. -/
class LawfulAttribute (A : Type) [Attribute A] : Prop where
  bit_lt : ∀ a : A, Attribute.bit a < 16
  bit_injective : ∀ a b : A, Attribute.bit a = Attribute.bit b → a = b
  mem_all : ∀ a : A, a ∈ (Attribute.all : List A)

/-! ## Sets of attributes -/

namespace Marks

variable {A : Type} [Attribute A]

theorem contains_empty (a : A) : (empty : Marks A).contains a = false := by
  simp [contains, empty]

variable [LawfulAttribute A]

theorem getLsbD_insert (m : Marks A) (a : A) (i : Nat) :
    (m.insert a).bits.getLsbD i = (m.bits.getLsbD i || decide (Attribute.bit a = i)) := by
  have within := LawfulAttribute.bit_lt a
  rw [insert, BitVec.getLsbD_or, BitVec.getLsbD_twoPow, decide_eq_true within, Bool.true_and]

/-- The bits that a list of attributes adds. -/
theorem getLsbD_foldl (attributes : List A) (bits : BitVec 16) (i : Nat) :
    (attributes.foldl (fun bits a => bits ||| BitVec.twoPow 16 (Attribute.bit a)) bits).getLsbD i =
      (bits.getLsbD i || attributes.any fun a => Attribute.bit a = i) := by
  induction attributes generalizing bits with
  | nil => simp
  | cons a rest ih =>
      have step := getLsbD_insert ⟨bits⟩ a i
      rw [List.foldl_cons, ih, List.any_cons, ← Bool.or_assoc]
      exact congrArg (· || rest.any fun a => Attribute.bit a = i) step

theorem getLsbD_named (i : Nat) :
    (named (A := A)).getLsbD i = true ↔ ∃ a : A, Attribute.bit a = i := by
  rw [named, getLsbD_foldl]
  simp [LawfulAttribute.mem_all]

theorem contains_insert (m : Marks A) (a b : A) :
    (m.insert a).contains b = true ↔ a = b ∨ m.contains b = true := by
  have same : Attribute.bit a = Attribute.bit b ↔ a = b :=
    ⟨LawfulAttribute.bit_injective a b, fun h => by rw [h]⟩
  rw [contains, contains, getLsbD_insert, Bool.or_eq_true, decide_eq_true_eq, same, or_comm]

/-- Inserting an attribute sets no bit without a name. -/
theorem unnamed_insert (m : Marks A) (a : A) : (m.insert a).unnamed = m.unnamed := by
  apply BitVec.eq_of_getLsbD_eq
  intro i hi
  have own : Attribute.bit a = i → (named (A := A)).getLsbD i = true :=
    fun h => (getLsbD_named i).2 ⟨a, h⟩
  simp only [unnamed, BitVec.getLsbD_and, BitVec.getLsbD_not, getLsbD_insert, hi, decide_true,
    Bool.true_and]
  by_cases ha : Attribute.bit a = i
  · simp [own ha]
  · simp [ha]

/-- The bits with names are known from the members, the others from what is left of them. -/
theorem eq_of_contains {m n : Marks A} (members : ∀ a, m.contains a = n.contains a)
    (rest : m.unnamed = n.unnamed) : m = n := by
  rcases m with ⟨bits⟩
  rcases n with ⟨others⟩
  congr 1
  apply BitVec.eq_of_getLsbD_eq
  intro i hi
  by_cases own : ∃ a : A, Attribute.bit a = i
  · rcases own with ⟨a, rfl⟩
    exact members a
  · -- The mask of the bits without names leaves this one as it is.
    have masked : (named (A := A)).getLsbD i = false := by
      rw [← Bool.not_eq_true, getLsbD_named]
      exact own
    have same := congrArg (fun bits : BitVec 16 => bits.getLsbD i) rest
    simp only [unnamed, BitVec.getLsbD_and, BitVec.getLsbD_not, hi, masked] at same
    simpa using same

end Marks

/-! ## Runs of edits -/

/-- Where an edit sets a value it is there behind the edit, and an edit that sets none leaves the
value. So the last value that was set is there behind all edits, or the one from before. -/
theorem read_foldl {V E X : Type} (read : V → X) {apply : E → V → V} {argument? : E → Option X}
    (step : ∀ e v, read (apply e v) = (argument? e).getD (read v)) (v : V) (edits : List E) :
    read (edits.foldl (fun v e => apply e v) v) =
      (edits.filterMap argument?).getLast?.getD (read v) := by
  induction edits generalizing v with
  | nil => rfl
  | cons e rest ih =>
      rw [List.foldl_cons, ih, step]
      cases h : argument? e with
      | none => rw [List.filterMap_cons_none h, Option.getD_none]
      | some x =>
          rw [List.filterMap_cons_some h, List.getLast?_cons, Option.getD_some, Option.getD_some]

/-- What no edit changes is there behind all of them. -/
theorem read_foldl_of_untouched {V E X : Type} (read : V → X) {apply : E → V → V} {edits : List E}
    (h : ∀ e ∈ edits, ∀ v, read (apply e v) = read v) (v : V) :
    read (edits.foldl (fun v e => apply e v) v) = read v := by
  induction edits generalizing v with
  | nil => rfl
  | cons e rest ih =>
      rw [List.foldl_cons, ih fun e' he' => h e' (List.mem_cons_of_mem e he'),
        h e List.mem_cons_self]

namespace Draft

variable {V A E : Type}

/-- An object with the given values, there already or still to be created. -/
def start (existing : Bool) (values : V) : Draft V A :=
  if existing then ofExisting values else ofNew values

@[simp] theorem start_initial (existing : Bool) (values : V) :
    (start existing values : Draft V A).initial = values := by
  cases existing <;> rfl

@[simp] theorem start_current (existing : Bool) (values : V) :
    (start existing values : Draft V A).current = values := by
  cases existing <;> rfl

@[simp] theorem start_marks (existing : Bool) (values : V) :
    (start existing values : Draft V A).marks = Marks.empty := by
  cases existing <;> rfl

@[simp] theorem start_existing (existing : Bool) (values : V) :
    (start existing values : Draft V A).existing = existing := by
  cases existing <;> rfl

variable [Attribute A] (touches : E → A) (apply : E → V → V)

/-- Applies edits one after the other. -/
def run (d : Draft V A) (edits : List E) : Draft V A :=
  edits.foldl (fun d e => d.change (touches e) (apply e)) d

variable (d : Draft V A) (edits : List E)

theorem initial_run : (d.run touches apply edits).initial = d.initial := by
  induction edits generalizing d with
  | nil => rfl
  | cons e rest ih => exact ih (d.change (touches e) (apply e))

theorem existing_run : (d.run touches apply edits).existing = d.existing := by
  induction edits generalizing d with
  | nil => rfl
  | cons e rest ih => exact ih (d.change (touches e) (apply e))

theorem current_run :
    (d.run touches apply edits).current = edits.foldl (fun v e => apply e v) d.current := by
  induction edits generalizing d with
  | nil => rfl
  | cons e rest ih => exact ih (d.change (touches e) (apply e))

theorem current_run_start (values : V) (existing : Bool) (edits : List E) :
    ((start existing values).run touches apply edits).current =
      edits.foldl (fun v e => apply e v) values := by
  rw [current_run, start_current]

section Lawful

variable [LawfulAttribute A]

theorem isMarked_change (a b : A) (f : V → V) :
    (d.change a f).isMarked b = true ↔ a = b ∨ d.isMarked b = true :=
  Marks.contains_insert d.marks a b

/-- A mark is never taken away, and no edit marks what it does not touch. -/
theorem isMarked_run (a : A) :
    (d.run touches apply edits).isMarked a = true ↔
      d.isMarked a = true ∨ ∃ e ∈ edits, touches e = a := by
  induction edits generalizing d with
  | nil => simp [run]
  | cons e rest ih =>
      have step : (d.run touches apply (e :: rest)).isMarked a = true ↔
          (d.change (touches e) (apply e)).isMarked a = true ∨ ∃ e ∈ rest, touches e = a :=
        ih (d.change (touches e) (apply e))
      rw [step, isMarked_change, List.exists_mem_cons_iff, or_assoc, or_left_comm]

theorem unnamed_run : (d.run touches apply edits).marks.unnamed = d.marks.unnamed := by
  induction edits generalizing d with
  | nil => rfl
  | cons e rest ih =>
      have step : (d.run touches apply (e :: rest)).marks.unnamed =
          (d.change (touches e) (apply e)).marks.unnamed :=
        ih (d.change (touches e) (apply e))
      rw [step]
      exact Marks.unnamed_insert d.marks (touches e)

/-! ### The account of a run -/

/-- What is said of a draft behind edits, whatever they are edits of: where it started is known, and
so is what was touched, even if a later edit took a change back. -/
structure Follows (values : V) (existing : Bool) (edits : List E) (d : Draft V A) : Prop where
  initial : d.initial = values
  existing : d.existing = existing
  marked : ∀ a, d.isMarked a = true ↔ ∃ e ∈ edits, touches e = a
  unnamed : d.marks.unnamed = 0

theorem follows_run (values : V) (existing : Bool) (edits : List E) :
    Follows touches values existing edits ((start existing values).run touches apply edits) where
  initial := by
    rw [initial_run, start_initial]
  existing := by
    rw [existing_run, start_existing]
  marked := by
    intro a
    rw [isMarked_run, isMarked, start_marks, Marks.contains_empty]
    simp
  unnamed := by
    rw [unnamed_run, start_marks]
    exact BitVec.zero_and

/-- What only edits of one attribute can change is not changed without a mark. -/
theorem isMarked_of_ne {X : Type} (read : V → X) {a : A}
    (other : ∀ e v, touches e ≠ a → read (apply e v) = read v) {values : V} {existing : Bool}
    {edits : List E}
    (changed : read ((start existing values).run touches apply edits).current ≠ read values) :
    ((start existing values).run touches apply edits).isMarked a = true := by
  rw [(follows_run touches apply values existing edits).marked]
  -- If no edit touched the attribute, every edit left the value as it was.
  by_contra untouched
  refine changed ?_
  rw [current_run_start]
  refine read_foldl_of_untouched read ?_ values
  intro e he v
  exact other e v fun touched => untouched ⟨e, he, touched⟩

theorem Follows.eq {touches : E → A} {values : V} {existing : Bool} {edits others : List E}
    {d d' : Draft V A} (h : Follows touches values existing edits d)
    (h' : Follows touches values existing others d')
    (touched : ∀ e, e ∈ edits ↔ e ∈ others) (current : d.current = d'.current) : d = d' := by
  have marks : d.marks = d'.marks := by
    refine Marks.eq_of_contains ?_ (h.unnamed.trans h'.unnamed.symm)
    intro a
    have marked := h.marked a
    simp only [touched, ← h'.marked a] at marked
    exact Bool.eq_iff_iff.2 marked
  rcases d
  rcases d'
  have initial := h.initial.trans h'.initial.symm
  have existing := h.existing.trans h'.existing.symm
  subst initial current marks existing
  rfl

end Lawful
end Draft

/-! ## Runs in another order -/

section Order

variable {E K : Type} [DecidableEq K] {key : E → K}

/-- The edits of each key are the same, in the same order. Edits of different keys may have changed
places. -/
def SameOrder (key : E → K) (edits others : List E) : Prop :=
  ∀ k, edits.filter (fun e => key e = k) = others.filter fun e => key e = k

variable {edits others : List E}

theorem SameOrder.mem_iff (h : SameOrder key edits others) (e : E) : e ∈ edits ↔ e ∈ others := by
  have own : ∀ list : List E, e ∈ list ↔ e ∈ list.filter fun e' => key e' = key e := by
    intro list
    simp
  rw [own edits, own others, h (key e)]

/-- An edit may come last if those behind it have other keys. -/
theorem sameOrder_move {e : E} {after : List E} (others : ∀ other ∈ after, key other ≠ key e)
    (before : List E) : SameOrder key (before ++ e :: after) (before ++ after ++ [e]) := by
  intro k
  simp only [List.filter_append, List.filter_cons, List.filter_nil, List.append_assoc]
  by_cases own : key e = k
  · have none : after.filter (fun other => key other = k) = [] := by
      rw [List.filter_eq_nil_iff]
      intro other mem
      simpa [← own] using others other mem
    simp [own, none]
  · simp [own]

/-- What is taken from the edits of one key does not depend on the places of the others. -/
theorem SameOrder.filterMap_eq {X : Type} (h : SameOrder key edits others) {f : E → Option X} (k : K)
    (only : ∀ e, key e ≠ k → f e = none) : edits.filterMap f = others.filterMap f := by
  have own : ∀ list : List E, list.filterMap f = (list.filter fun e => key e = k).filterMap f := by
    intro list
    rw [List.filterMap_filter]
    congr 1
    funext e
    by_cases hk : key e = k
    · simp [hk]
    · simp [hk, only e hk]
  rw [own edits, own others, h k]

/-- Nor does what the edits of one key do to a value that the others leave alone. -/
theorem SameOrder.foldl_eq {X : Type} (h : SameOrder key edits others) {f : X → E → X} (k : K)
    (only : ∀ x e, key e ≠ k → f x e = x) (x : X) : edits.foldl f x = others.foldl f x := by
  have own : ∀ list : List E, list.foldl f x = (list.filter fun e => key e = k).foldl f x := by
    intro list
    rw [List.foldl_filter]
    congr 1
    funext x e
    by_cases hk : key e = k
    · simp [hk]
    · simp [hk, only x e hk]
  rw [own edits, own others, h k]

end Order
end SchemaChange

import Mathlib.Data.List.Nodup
import SchemaChange.Proofs.Refusal
import SchemaChange.Sql.Literal

/-!
# Proofs.Frame — literals among what is written around them

A text that may be any text is written as a literal behind a keyword. Which literal of the
statements that is, is told by what becomes of all texts at once: around the literal the statements
are the same for each of them.

- `Frame`       : statements around one literal
- `WritesText`  : texts whose literals stand in one frame
- `mapM_around` : one step among others, and `join_around` one text among others
-/

namespace SchemaChange

/-! ## Frames -/

/-- The statements around one literal, which stands behind a keyword. -/
structure Frame (keyword : String) where
  before : List String
  lead : String
  rest : String
  after : List String

namespace Frame

variable {keyword : String}

def fill (frame : Frame keyword) (literal : String) : List String :=
  frame.before ++ (frame.lead ++ keyword ++ " " ++ literal ++ frame.rest) :: frame.after

/-- The literal can be told from what is written with it. -/
theorem fill_quoteText_inj {frame : Frame keyword} {text other : String}
    (h : frame.fill (Sql.quoteText text) = frame.fill (Sql.quoteText other)) : text = other := by
  have statement := (List.cons.inj (List.append_cancel_left h)).1
  have chars := congrArg String.toList statement
  simp only [Sql.quoteText, String.toList_append, List.append_assoc, List.append_cancel_left_eq]
    at chars
  exact String.toList_inj.1 (List.append_cancel_right chars)

end Frame

/-- For any text that is not blank the statements are the same, but for the literal behind the
keyword, which has the text in the given form; or the same refusal is told for any text. -/
def WritesText (keyword : String) (form : String → String)
    (statements : String → Except Refusal (List String)) : Prop :=
  ∃ outcome : Except Refusal (Frame keyword), ∀ x, Text.isBlank x = false →
    statements x = outcome.map fun frame => frame.fill (Sql.quoteText (form x))

namespace WritesText

variable {keyword : String} {form : String → String}

theorem congr {statements others : String → Except Refusal (List String)}
    (h : WritesText keyword form others)
    (same : ∀ x, Text.isBlank x = false → statements x = others x) :
    WritesText keyword form statements := by
  rcases h with ⟨outcome, written⟩
  exact ⟨outcome, fun x full => (same x full).trans (written x full)⟩

/-- A step in front that does not look at the text. -/
theorem bind {α : Type} {step : Except Refusal α} {next : String → α → Except Refusal (List String)}
    (h : ∀ a, step = .ok a → WritesText keyword form fun x => next x a) :
    WritesText keyword form fun x => step >>= next x := by
  cases step with
  | error r => exact ⟨.error r, fun _ _ => rfl⟩
  | ok a => exact h a rfl

theorem of_frame {statements : String → Except Refusal (List String)} (frame : Frame keyword)
    (h : ∀ x, Text.isBlank x = false →
      statements x = .ok (frame.fill (Sql.quoteText (form x)))) :
    WritesText keyword form statements :=
  ⟨.ok frame, h⟩

end WritesText

/-! ## One step among others -/

section Steps

variable {α β : Type} {f g : α → Except Refusal β}

theorem mapM_congr {xs : List α} (h : ∀ a ∈ xs, f a = g a) : xs.mapM f = xs.mapM g := by
  induction xs with
  | nil => rfl
  | cons a xs ih =>
      rcases List.forall_mem_cons.1 h with ⟨first, later⟩
      rw [List.mapM_cons, List.mapM_cons, first, ih later]

/-- The steps in front and behind give the same results whatever one step in the middle gives. -/
theorem mapM_around {front back : List α} {a : α} {b : β} (here : f a = .ok b)
    (others : ∀ c ∈ front ++ back, f c = g c) :
    (front ++ a :: back).mapM f =
      front.mapM g >>= fun bs => back.mapM g >>= fun cs => .ok (bs ++ b :: cs) := by
  rw [List.forall_mem_append] at others
  rw [List.mapM_append, List.mapM_cons, here, mapM_congr others.1, mapM_congr others.2]
  cases front.mapM g with
  | error r => rfl
  | ok bs =>
      cases back.mapM g with
      | error r => rfl
      | ok cs => rfl

end Steps

/-! ## Texts in a row -/

theorem join_around {α : Type} {f g : α → String} {front back : List α} (a : α)
    (others : ∀ b ∈ front ++ back, f b = g b) :
    String.join ((front ++ a :: back).map f) =
      String.join (front.map g) ++ f a ++ String.join (back.map g) := by
  rw [List.forall_mem_append] at others
  rw [List.map_append, List.map_cons, String.join_append, String.join_cons,
    List.map_congr_left others.1, List.map_congr_left others.2, String.append_assoc]

/-- Texts with a blank between them have a blank in front of each, with one more in front. -/
theorem blank_intercalate {cs : List String} (nonempty : cs ≠ []) :
    " " ++ " ".intercalate cs = String.join (cs.map (" " ++ ·)) := by
  induction cs with
  | nil => exact absurd rfl nonempty
  | cons c cs ih =>
      cases cs with
      | nil => simp
      | cons d ds =>
          rw [String.intercalate_cons_cons, List.map_cons, String.join_cons,
            ← ih (List.cons_ne_nil d ds)]
          simp only [String.append_assoc]

/-- What is in a list without doubles stands between others. -/
theorem exists_around {α : Type} {xs : List α} (distinct : xs.Nodup) {a : α} (mem : a ∈ xs) :
    ∃ front back, xs = front ++ a :: back ∧ ∀ b ∈ front ++ back, b ≠ a := by
  rcases List.append_of_mem mem with ⟨front, back, rfl⟩
  rw [List.nodup_middle, List.nodup_cons] at distinct
  refine ⟨front, back, rfl, ?_⟩
  rintro b inside rfl
  exact distinct.1 inside

end SchemaChange

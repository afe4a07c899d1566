import Mathlib.Data.List.Forall2
import SchemaChange.Proofs.Text.Trim
import SchemaChange.Refusal

/-!
# Proofs.Refusal — when nothing is refused

A computation that may be refused is written as a chain of steps. It has a result exactly if every
step has one, and it is refused by the first step that is, so each of these laws takes a chain
apart.

- `bind_eq_ok`, `bind_eq_error`     : one step after another
- `mapM_eq_ok`                      : one step for each entry of a list, and `mapM_lists_eq_ok` with
  the results
- `mapM_single_eq_ok`               : steps with one result or none
- `demand_eq_ok`, `demand_eq_error` : a field that must not be blank
- `SameOutcome`                     : two computations that are refused in the same cases
-/

namespace SchemaChange

section Steps

variable {α β : Type} {x : Except Refusal α}

theorem bind_eq_ok {f : α → Except Refusal β} {b : β} :
    x >>= f = .ok b ↔ ∃ a, x = .ok a ∧ f a = .ok b := by
  cases x with
  | error refusal => simp [bind, Except.bind]
  | ok a => simp [bind, Except.bind]

theorem bind_eq_error {f : α → Except Refusal β} {r : Refusal} :
    x >>= f = .error r ↔ x = .error r ∨ ∃ a, x = .ok a ∧ f a = .error r := by
  cases x with
  | error refusal => simp [bind, Except.bind]
  | ok a => simp [bind, Except.bind]

theorem map_eq_ok {f : α → β} {b : β} : x.map f = .ok b ↔ ∃ a, x = .ok a ∧ f a = b := by
  cases x with
  | error refusal => simp [Except.map]
  | ok a => simp [Except.map]

theorem map_eq_error {f : α → β} {r : Refusal} : x.map f = .error r ↔ x = .error r := by
  cases x with
  | error refusal => simp [Except.map]
  | ok a => simp [Except.map]

theorem mapM_eq_ok {f : α → Except Refusal β} {xs : List α} {ys : List β} :
    xs.mapM f = .ok ys ↔ List.Forall₂ (fun a b => f a = .ok b) xs ys := by
  induction xs generalizing ys with
  | nil =>
      rw [List.mapM_nil, List.forall₂_nil_left_iff]
      simp [pure, Except.pure, eq_comm]
  | cons a xs ih =>
      rw [List.mapM_cons, bind_eq_ok, List.forall₂_cons_left_iff]
      constructor
      · rintro ⟨b, hb, h⟩
        rcases bind_eq_ok.1 h with ⟨bs, hbs, h⟩
        cases h
        exact ⟨b, bs, hb, ih.1 hbs, rfl⟩
      · rintro ⟨b, bs, hb, hbs, rfl⟩
        exact ⟨b, hb, bind_eq_ok.2 ⟨bs, ih.2 hbs, rfl⟩⟩

theorem exists_of_forall₂ {R : α → β → Prop} {xs : List α} {ys : List β}
    (h : List.Forall₂ R xs ys) {b : β} (hb : b ∈ ys) : ∃ a ∈ xs, R a b := by
  induction h with
  | nil => cases hb
  | @cons a b' xs ys first _ ih =>
      rcases List.mem_cons.1 hb with rfl | later
      · exact ⟨a, List.mem_cons_self, first⟩
      · rcases ih later with ⟨a', ha', h'⟩
        exact ⟨a', List.mem_cons_of_mem a ha', h'⟩

/-- Each result is that of some entry. -/
theorem exists_of_mapM_eq_ok {f : α → Except Refusal β} {xs : List α} {ys : List β}
    (h : xs.mapM f = .ok ys) {b : β} (hb : b ∈ ys) : ∃ a ∈ xs, f a = .ok b :=
  exists_of_forall₂ (mapM_eq_ok.1 h) hb

/-- The results of a step, none if it is refused. -/
def resultsOf : Except Refusal (List β) → List β
  | .ok results => results
  | .error _ => []

/-- Steps in a row have results exactly if each of them has. -/
theorem mapM_lists_eq_ok {f : α → Except Refusal (List β)} {xs : List α} {ys : List (List β)} :
    xs.mapM f = .ok ys ↔
      (∀ a ∈ xs, ∃ results, f a = .ok results) ∧ ys = xs.map fun a => resultsOf (f a) := by
  rw [mapM_eq_ok]
  induction xs generalizing ys with
  | nil => simp
  | cons a xs ih =>
      rw [List.forall₂_cons_left_iff, List.forall_mem_cons, List.map_cons]
      constructor
      · rintro ⟨results, rest, first, later, rfl⟩
        rcases ih.1 later with ⟨others, rfl⟩
        exact ⟨⟨⟨results, first⟩, others⟩, by rw [first, resultsOf]⟩
      · rintro ⟨⟨⟨results, first⟩, others⟩, rfl⟩
        exact ⟨results, _, first, ih.2 ⟨others, rfl⟩, by rw [first, resultsOf]⟩

/-- Where each step has one result, or none because it is left out, the results in a row are those
of the steps that are not left out. -/
theorem mapM_single_eq_ok {f : α → Except Refusal (List β)} {p : α → Bool} {R : α → β → Prop}
    {xs : List α} {ys : List β}
    (step : ∀ a ∈ xs, ∀ results,
      f a = .ok results ↔ if p a then ∃ b, R a b ∧ results = [b] else results = []) :
    (xs.mapM f).map List.flatten = .ok ys ↔ List.Forall₂ R (xs.filter p) ys := by
  simp only [map_eq_ok, mapM_eq_ok]
  induction xs generalizing ys with
  | nil => simp [eq_comm]
  | cons a xs ih =>
      rcases List.forall_mem_cons.1 step with ⟨first, later⟩
      have rest := fun others => @ih others later
      simp only [List.forall₂_cons_left_iff]
      by_cases kept : p a
      · rw [List.filter_cons_of_pos kept, List.forall₂_cons_left_iff]
        simp only [kept, if_true] at first
        constructor
        · rintro ⟨_, ⟨results, groups, written, each, rfl⟩, rfl⟩
          rcases (first results).1 written with ⟨b, own, rfl⟩
          exact ⟨b, groups.flatten, own, (rest _).1 ⟨groups, each, rfl⟩, rfl⟩
        · rintro ⟨b, others, own, each, rfl⟩
          rcases (rest others).2 each with ⟨groups, written, rfl⟩
          exact ⟨[b] :: groups, ⟨[b], groups, (first [b]).2 ⟨b, own, rfl⟩, written, rfl⟩, rfl⟩
      · rw [List.filter_cons_of_neg kept, ← rest]
        simp only [kept] at first
        constructor
        · rintro ⟨_, ⟨results, groups, written, each, rfl⟩, rfl⟩
          rw [(first results).1 written]
          exact ⟨groups, each, rfl⟩
        · rintro ⟨groups, each, rfl⟩
          exact ⟨[] :: groups, ⟨[], groups, (first []).2 rfl, each, rfl⟩, rfl⟩

end Steps

theorem demand_eq_ok {field : Field} {value : Option String} {text : String} :
    demand field value = .ok text ↔ Text.nonBlank? value = some text := by
  unfold demand
  cases Text.nonBlank? value with
  | none => simp
  | some found => simp

theorem demand_eq_error {field : Field} {value : Option String} {r : Refusal} :
    demand field value = .error r ↔ Text.nonBlank? value = none ∧ .missing field = r := by
  unfold demand
  cases Text.nonBlank? value with
  | none => simp
  | some found => simp

theorem demand_some_eq_error {field : Field} {value : String} {r : Refusal} :
    demand field (some value) = .error r ↔ Text.isBlank value = true ∧ .missing field = r := by
  rw [demand_eq_error, Text.nonBlank?_some]
  cases Text.isBlank value with
  | true => simp
  | false => simp

theorem exists_demand_some_iff {field : Field} {value : String} :
    (∃ text, demand field (some value) = .ok text) ↔ Text.isBlank value = false := by
  rw [demand, Text.nonBlank?_some]
  cases Text.isBlank value <;> simp

theorem demand_some_eq_ok {field : Field} {value text : String} :
    demand field (some value) = .ok text ↔ Text.isBlank value = false ∧ Text.trim value = text := by
  rw [demand_eq_ok, Text.nonBlank?_some]
  cases Text.isBlank value with
  | true => simp
  | false => simp

/-! ## The same outcome -/

/-- Both are refused for the same reason, or neither is and the results are related. -/
inductive SameOutcome {α : Type} (R : α → α → Prop) : Except Refusal α → Except Refusal α → Prop
  | refused (r : Refusal) : SameOutcome R (.error r) (.error r)
  | written {a b : α} (related : R a b) : SameOutcome R (.ok a) (.ok b)

namespace SameOutcome

variable {α β : Type} {R : α → α → Prop} {x y : Except Refusal α}

theorem refl (h : ∀ a, R a a) : SameOutcome R x x := by
  cases x with
  | error r => exact .refused r
  | ok a => exact .written (h a)

/-- What depends on one step in the same way comes to the same outcome. -/
theorem bind_same {z : Except Refusal β} {f g : β → Except Refusal α}
    (h : ∀ b, SameOutcome R (f b) (g b)) : SameOutcome R (z >>= f) (z >>= g) := by
  cases z with
  | error r => exact .refused r
  | ok b => exact h b

theorem map {S : β → β → Prop} {f : α → β} (h : SameOutcome R x y)
    (related : ∀ a b, R a b → S (f a) (f b)) : SameOutcome S (x.map f) (y.map f) := by
  cases h with
  | refused r => exact .refused r
  | written h => exact .written (related _ _ h)

theorem of_error {r : Refusal} (h : SameOutcome R (.error r) y) : y = .error r := by
  cases h
  rfl

theorem of_ok {a : α} (h : SameOutcome R (.ok a) y) : ∃ b, y = .ok b ∧ R a b := by
  cases h with
  | written related => exact ⟨_, rfl, related⟩

end SameOutcome

end SchemaChange

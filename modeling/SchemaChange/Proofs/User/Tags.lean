import SchemaChange.Proofs.User.Alteration

/-!
# Proofs.User.Tags — tags are changed once, and only where they differ

Edits of tags may take each other back. What is set and dropped in the end compares the tags behind
all edits with those in front of them, so it makes the old tags into the new ones and does nothing
else, and where there is nothing to do no option is written.

- `UserDraft.IsTagsOption`        : the option that sets and drops tags
- `UserDraft.filter_isTagsOption` : it is among the options once, or not at all
- `UserDraft.tags_applyEdits`     : the tags behind a run of setters
-/

namespace SchemaChange
namespace UserDraft

open User (Edit Part)

/-! ## The option of the tags -/

/-- The option sets or drops tags. -/
def IsTagsOption (option : String) : Prop :=
  "TAGS (".toList <+: option.toList

instance (option : String) : Decidable (IsTagsOption option) :=
  inferInstanceAs (Decidable ("TAGS (".toList <+: option.toList))

theorem isTagsOption_iff {d : UserDraft} {part : Part} {option : String}
    (h : d.IsOption part option) : IsTagsOption option ↔ part = .tags := by
  unfold IsTagsOption
  cases h with
  | tags => simp [User.tagOption]
  | active => cases d.current.active <;> decide
  | admin => cases d.current.admin <;> decide
  | _ => simp

variable {values : User} {edits : List Edit} {d : UserDraft}

theorem filter_dueParts (values : User) (edits : List Edit) (current : User) :
    ((dueParts values edits current).filter fun part => part = .tags) =
      if values.tags.Agree current.tags then [] else [.tags] := by
  rw [dueParts, List.filter_filter]
  by_cases same : values.tags.Agree current.tags
  · simp [IsDue, same]
  · simp [IsDue, same]

/-- Of all options one is that of the tags, if they are others than before. -/
theorem filter_isTagsOption {options : List String}
    (h : List.Forall₂ d.IsOption (dueParts values edits d.current) options) :
    (options.filter fun option => IsTagsOption option) =
      if values.tags.Agree d.current.tags then [] else [User.tagOption d.tagItems] := by
  have kept := List.rel_filter (p := fun part => decide (part = .tags))
    (q := fun option => decide (IsTagsOption option))
    (fun part option own => by simp [isTagsOption_iff own]) h
  -- What is left of the attributes is the tags or nothing, and the same is left of the options.
  rw [filter_dueParts] at kept
  split at kept
  · rename_i same
    rw [if_pos same, List.forall₂_nil_left_iff.1 kept]
  · rename_i differ
    rcases List.forall₂_cons_left_iff.1 kept with ⟨option, others, own, none, same⟩
    cases own
    rw [if_neg differ, same, List.forall₂_nil_left_iff.1 none]

/-! ## Runs of setters -/

/-- Behind any run of setters the tags to be set and to be dropped make the old tags into the new
ones, and no more than that. The statements of an existing user set and drop them in one option, the
set ones in front, and have no such option if the tags are as they were. -/
theorem tags_applyEdits (values : User) (edits : List Edit) :
    (∀ existing,
      let d := applyEdits (Draft.start existing values) edits
      Attributes.IsPatch values.tags d.current.tags d.tagsSet d.tagsRemoved) ∧
    let d := applyEdits (Draft.ofExisting values) edits
    ∀ b, d.toBatch = .ok b → ∃ options,
      (∀ option ∈ options, ∃ part, d.IsOption part option) ∧
      (options.filter fun option => IsTagsOption option) =
        (if values.tags.Agree d.current.tags then []
        else
          [User.tagOption
            (d.tagsSet.map (fun entry => User.tagSetting entry.1 entry.2) ++
              d.tagsRemoved.map User.tagRemoval)]) ∧
      b.statements = settingStatements values options ++ dueComment values edits d.current := by
  constructor
  · intro existing d
    have initial : d.initial = values := (account_applyEdits values existing edits).initial
    exact initial ▸ Attributes.isPatch_changes d.initial.tags d.current.tags
  · intro d b written
    have account : Account values true edits d := account_applyEdits values true edits
    rcases exists_options_of_toBatch account written with ⟨options, due, rfl⟩
    refine ⟨options, ?_, filter_isTagsOption due, rfl⟩
    intro option mem
    rcases exists_of_forall₂ due mem with ⟨part, -, own⟩
    exact ⟨part, own⟩

/-- A tag that was set to another text and back is not written, one that was added and one that was
removed are. -/
theorem tags_applyEdits_takenBack :
    let values : User := { name := "U", tags := .ofList [("A", "1"), ("B", "2")] }
    let edits : List Edit := [.setTag "C" "3", .setTag "A" "9", .removeTag "B", .setTag "A" "1"]
    let d := applyEdits (Draft.ofExisting values) edits
    d.toBatch = .ok ⟨["ALTER USER U SET TAGS (C = '3', DROP B)"], "^"⟩ ∧
      ∃ options,
        (options.filter fun option => IsTagsOption option) = ["TAGS (C = '3', DROP B)"] ∧
        settingStatements values options = ["ALTER USER U SET TAGS (C = '3', DROP B)"] := by
  intro values edits d
  have written : d.toBatch = .ok ⟨["ALTER USER U SET TAGS (C = '3', DROP B)"], "^"⟩ := by
    decide +kernel
  rcases (tags_applyEdits values edits).2 _ written with ⟨options, -, tags, statements⟩
  refine ⟨written, options, tags.trans (by decide +kernel), ?_⟩
  have silent : dueComment values edits d.current = [] := by decide +kernel
  rw [silent, List.append_nil] at statements
  exact statements.symm

end UserDraft
end SchemaChange

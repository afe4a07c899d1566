import SchemaChange.Proofs.User.Alteration
import SchemaChange.Proofs.User.Json

/-!
# Proofs.User.TagOrder — users with sorted tags

Sorting the tags of a user on both sides of a draft moves the items in the option of the tags. It
neither makes nor removes a refusal, and the rest of the statements is the same.

- `SameUpToTags`               : texts with different options of tags in the same places
- `UserDraft.sortTags`         : the draft with sorted tags on both sides
- `UserDraft.allTagItems`      : what the option of the tags lists, for any draft
- `UserDraft.toBatch_sortTags` : the statements with sorted tags
-/

namespace SchemaChange

/-! ## Texts with options of tags -/

/-- The same text, but where the one has an option with the first items the other one has an option
with the other items. -/
inductive SameUpToTags (items others : List String) : String → String → Prop
  | same (s : String) : SameUpToTags items others s s
  | tags : SameUpToTags items others (User.tagOption items) (User.tagOption others)
  | append {s s' t t' : String} : SameUpToTags items others s t →
      SameUpToTags items others s' t' → SameUpToTags items others (s ++ s') (t ++ t')

theorem isEmpty_eq_of_length_eq {α β : Type} {xs : List α} {ys : List β}
    (h : xs.length = ys.length) : xs.isEmpty = ys.isEmpty := by
  rw [Bool.eq_iff_iff, List.isEmpty_iff_length_eq_zero, List.isEmpty_iff_length_eq_zero, h]

namespace SameUpToTags

variable {items others : List String}

theorem around {s t : String} (h : SameUpToTags items others s t) (before after : String) :
    SameUpToTags items others (before ++ s ++ after) (before ++ t ++ after) :=
  ((same before).append h).append (same after)

theorem intercalate (separator : String) {texts texts' : List String}
    (h : List.Forall₂ (SameUpToTags items others) texts texts') :
    SameUpToTags items others (separator.intercalate texts) (separator.intercalate texts') := by
  induction h with
  | nil => exact same _
  | cons first rest ih =>
      cases rest with
      | nil => simpa using first
      | cons second rest =>
          rw [String.intercalate_cons_cons, String.intercalate_cons_cons]
          exact (first.append (same separator)).append ih

theorem forall₂_same (texts : List String) :
    List.Forall₂ (SameUpToTags items others) texts texts := by
  induction texts with
  | nil => exact .nil
  | cons text texts ih => exact .cons (same text) ih

/-- The option in a longer text, or nothing if there are no items. -/
theorem ofItems (perm : items.Perm others) :
    SameUpToTags items others (if items.isEmpty then "" else " " ++ User.tagOption items)
      (if others.isEmpty then "" else " " ++ User.tagOption others) := by
  rw [isEmpty_eq_of_length_eq perm.length_eq]
  split
  · exact same ""
  · exact (same " ").append tags

end SameUpToTags

/-- Batches whose statements are the same up to options of tags. -/
structure SameStatements (items others : List String) (b other : Script.Batch) : Prop where
  statements : List.Forall₂ (SameUpToTags items others) b.statements other.statements
  delimiter : b.delimiter = other.delimiter

/-! ## New users -/

namespace User

/-- The tags of a new user. -/
def tagSettings (u : User) : List String :=
  u.tags.entries.map fun entry => tagSetting entry.1 entry.2

theorem perm_tagSettings (u : User) : u.tagSettings.Perm u.sortTags.tagSettings :=
  u.tags.agree_sorted.symm.map _

theorem creation_sortTags (u : User) :
    SameOutcome (List.Forall₂ (SameUpToTags u.tagSettings u.sortTags.tagSettings)) u.creation
      u.sortTags.creation := by
  unfold creation
  refine SameOutcome.bind_same fun name => SameOutcome.bind_same fun password => .written ?_
  -- Only the tags are written in another order; the comment is the same.
  refine .cons (.around ?_ _ _) (SameUpToTags.forall₂_same _)
  exact .ofItems u.perm_tagSettings

end User

/-! ## Existing users -/

namespace UserDraft

open User (Part)

/-- The tags of both sides are sorted, so that they are compared as before. -/
def sortTags (d : UserDraft) : UserDraft :=
  { d with initial := d.initial.sortTags, current := d.current.sortTags }

/-- Sorting moves the tags that are set, and those that are dropped. -/
theorem perm_tagItems (d : UserDraft) : d.tagItems.Perm d.sortTags.tagItems := by
  have before := d.initial.tags.agree_sorted.symm
  have after := d.current.tags.agree_sorted.symm
  have set : d.tagsSet.Perm d.sortTags.tagsSet := Attributes.changedEntries_perm before after
  have removed : d.tagsRemoved.Perm d.sortTags.tagsRemoved :=
    Attributes.droppedKeys_perm before after
  exact (set.map _).append (removed.map _)

/-- What the option of the tags lists: the changes of an existing user, or all tags of a new one. -/
def allTagItems (d : UserDraft) : List String :=
  if d.existing then d.tagItems else d.current.tagSettings

theorem perm_allTagItems (d : UserDraft) : d.allTagItems.Perm d.sortTags.allTagItems := by
  have same : d.sortTags.existing = d.existing := rfl
  unfold allTagItems
  rw [same]
  split
  · exact d.perm_tagItems
  · exact d.current.perm_tagSettings

theorem writes_sortTags (d : UserDraft) (part : Part) :
    d.sortTags.Writes part ↔ d.Writes part := by
  have agree : d.sortTags.initial.tags.Agree d.sortTags.current.tags ↔
      d.initial.tags.Agree d.current.tags :=
    Attributes.agree_sorted_iff
  rw [Writes, Writes, agree]
  rfl

theorem IsOption.sortTags {d : UserDraft} {part : Part} {option : String}
    (h : d.IsOption part option) : ∃ other, d.sortTags.IsOption part other ∧
      SameUpToTags d.tagItems d.sortTags.tagItems option other := by
  cases h with
  | password given => exact ⟨_, .password given, .same _⟩
  | firstName => exact ⟨_, .firstName, .same _⟩
  | middleName => exact ⟨_, .middleName, .same _⟩
  | lastName => exact ⟨_, .lastName, .same _⟩
  | active => exact ⟨_, .active, .same _⟩
  | tags => exact ⟨_, .tags, .tags⟩
  | admin => exact ⟨_, .admin, .same _⟩

theorem options_sortTags {d : UserDraft} {options : List String} (h : d.options = .ok options) :
    ∃ others, d.sortTags.options = .ok others ∧
      List.Forall₂ (SameUpToTags d.tagItems d.sortTags.tagItems) options others := by
  simp only [options_eq_ok, writes_sortTags] at h ⊢
  generalize writingOrder.filter (fun part => d.Writes part) = parts at h ⊢
  -- The attributes are taken one by one, and only the option of the tags becomes another one.
  induction h with
  | nil => exact ⟨[], .nil, .nil⟩
  | cons own _ ih =>
      rcases own.sortTags with ⟨other, own', related⟩
      rcases ih with ⟨others, owns, relateds⟩
      exact ⟨other :: others, .cons own' owns, .cons related relateds⟩

theorem alterStatements_sortTags {d : UserDraft} {name : String} {options others : List String}
    (related : List.Forall₂ (SameUpToTags d.tagItems d.sortTags.tagItems) options others) :
    List.Forall₂ (SameUpToTags d.tagItems d.sortTags.tagItems)
      (d.alterStatements name options) (d.sortTags.alterStatements name others) := by
  unfold alterStatements
  rw [isEmpty_eq_of_length_eq related.length_eq]
  split
  · exact .nil
  · exact .cons ((SameUpToTags.intercalate " " related).around _ _) .nil

theorem isRefused_sortTags {d : UserDraft} {r : Refusal} (h : d.IsRefused r) :
    d.sortTags.IsRefused r := by
  cases h with
  | name blank => exact .name blank
  | plugin named moves => exact .plugin named moves
  | password named kept touched blank => exact .password named kept touched blank

theorem alteration_sortTags (d : UserDraft) :
    SameOutcome (List.Forall₂ (SameUpToTags d.tagItems d.sortTags.tagItems)) d.alteration
      d.sortTags.alteration := by
  cases written : d.alteration with
  | error r =>
      have refused := alteration_eq_error.2 (isRefused_sortTags (alteration_eq_error.1 written))
      rw [refused]
      exact .refused r
  | ok statements =>
      rcases alteration_eq_ok.1 written with ⟨named, kept, options, due, rfl⟩
      rcases options_sortTags due with ⟨others, due', related⟩
      have written' := alteration_eq_ok (d := d.sortTags).2 ⟨named, kept, others, due', rfl⟩
      rw [written']
      refine .written (List.rel_append (alterStatements_sortTags related) ?_)
      exact SameUpToTags.forall₂_same (d.commentStatements _)

/-- Behind sorting a draft is refused as before, or its statements are those from before, but for
the items in the option of the tags. -/
theorem toBatch_sortTags (d : UserDraft) :
    SameOutcome (SameStatements d.allTagItems d.sortTags.allTagItems) d.toBatch
      d.sortTags.toBatch := by
  have same : d.sortTags.existing = d.existing := rfl
  unfold toBatch allTagItems
  rw [same]
  split
  · exact d.alteration_sortTags.map fun statements others related => ⟨related, rfl⟩
  · exact d.current.creation_sortTags.map fun statements others related => ⟨related, rfl⟩

end UserDraft
end SchemaChange

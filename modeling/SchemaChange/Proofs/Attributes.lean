import Mathlib.Data.List.Nodup
import SchemaChange.Attributes

/-!
# Proofs.Attributes — named texts as maps

What is said of attributes is said of the texts that their names stand for. Two of them with the
same entries in another order agree, and one is made into another by dropping names and setting
texts.

- `Attributes.get?_insert`, `Attributes.get?_erase` : the operations, name by name
- `Attributes.Agree`     : the same entries in any order
- `Attributes.sorted`    : the entries in the order of their names
- `Attributes.IsPatch`   : what makes one set of attributes into another, and no more than that
- `Attributes.isPatch_changes` : the changes between two are such
-/

namespace SchemaChange
namespace Attributes

variable {a b : Attributes} {key : String}

/-! ## Texts of names -/

theorem lookup_cons (key : String) (entry : String × String) (rest : List (String × String)) :
    (entry :: rest).lookup key = if key = entry.1 then some entry.2 else rest.lookup key := by
  rcases entry with ⟨name, text⟩
  rw [List.lookup_cons]
  by_cases here : key = name
  · rw [if_pos here, beq_iff_eq.2 here]
  · rw [if_neg here, beq_eq_false_iff_ne.2 here]

theorem lookup_eq_some_iff {entries : List (String × String)}
    (distinct : (entryKeys entries).Nodup) {value : String} :
    entries.lookup key = some value ↔ (key, value) ∈ entries := by
  induction entries with
  | nil => simp
  | cons entry rest ih =>
      rcases entry with ⟨other, text⟩
      rw [entryKeys, List.map_cons, List.nodup_cons] at distinct
      rw [lookup_cons, List.mem_cons, ← ih distinct.2, Prod.mk.injEq]
      by_cases here : key = other
      · -- The name is given once, so what follows says nothing of it.
        have absent : rest.lookup key ≠ some value := by
          intro found
          have mem := List.mem_map_of_mem (f := Prod.fst) ((ih distinct.2).1 found)
          exact distinct.1 (here ▸ mem)
        simp [here, here ▸ absent, eq_comm]
      · simp [here]

theorem get?_eq_some_iff {value : String} :
    a.get? key = some value ↔ (key, value) ∈ a.entries :=
  lookup_eq_some_iff a.distinct

theorem lookup_eq_none_iff {entries : List (String × String)} :
    entries.lookup key = none ↔ key ∉ entryKeys entries := by
  rw [entryKeys, List.lookup_eq_none_iff, List.mem_map]
  simp only [bne_iff_ne, ne_eq, not_exists, not_and]
  exact forall₂_congr fun entry _ => ne_comm

theorem get?_eq_none_iff : a.get? key = none ↔ key ∉ a.keys :=
  lookup_eq_none_iff

theorem lookup_insertEntry (key value other : String) (entries : List (String × String)) :
    (insertEntry key value entries).lookup other =
      if other = key then some value else entries.lookup other := by
  induction entries with
  | nil => rw [insertEntry, lookup_cons]
  | cons entry rest ih =>
      rcases entry with ⟨name, text⟩
      rw [insertEntry, lookup_cons]
      by_cases here : name = key
      · rw [if_pos here, lookup_cons, here]
        by_cases asked : other = key <;> simp [asked]
      · rw [if_neg here, lookup_cons, ih]
        by_cases asked : other = name
        · simp [asked, here]
        · simp [asked]

theorem get?_insert (a : Attributes) (key value other : String) :
    (a.insert key value).get? other = if other = key then some value else a.get? other :=
  lookup_insertEntry key value other a.entries

theorem get?_erase (a : Attributes) (key other : String) :
    (a.erase key).get? other = if other = key then none else a.get? other := by
  apply Option.ext
  intro value
  rw [get?_eq_some_iff, erase, List.mem_filter]
  by_cases same : other = key
  · simp [same]
  · simp [same, get?_eq_some_iff]

/-! ## The same entries -/

/-- Both have the same entries, whatever the order of either. -/
def Agree (a b : Attributes) : Prop :=
  a.entries.Perm b.entries

instance (a b : Attributes) : Decidable (a.Agree b) :=
  inferInstanceAs (Decidable (a.entries.Perm b.entries))

theorem Agree.refl (a : Attributes) : a.Agree a :=
  List.Perm.refl _

theorem Agree.symm (h : a.Agree b) : b.Agree a :=
  List.Perm.symm h

theorem nodup_entries (a : Attributes) : a.entries.Nodup :=
  List.Nodup.of_map Prod.fst a.distinct

/-- Attributes agree exactly if every name stands for the same text in both. -/
theorem agree_iff : a.Agree b ↔ ∀ key, a.get? key = b.get? key := by
  constructor
  · intro h key
    apply Option.ext
    intro value
    rw [get?_eq_some_iff, get?_eq_some_iff]
    exact h.mem_iff
  · intro h
    refine (List.perm_ext_iff_of_nodup a.nodup_entries b.nodup_entries).2 ?_
    rintro ⟨key, value⟩
    rw [← get?_eq_some_iff, ← get?_eq_some_iff, h]

theorem Agree.keys_perm (h : a.Agree b) : a.keys.Perm b.keys :=
  List.Perm.map Prod.fst h

/-! ## In the order of their names -/

/-- The entries in the order of their names. -/
def sorted (a : Attributes) : Attributes where
  entries := a.entries.mergeSort fun entry other => decide (entry.1 ≤ other.1)
  distinct := ((List.mergeSort_perm a.entries _).map Prod.fst).nodup_iff.2 a.distinct

theorem agree_sorted (a : Attributes) : a.sorted.Agree a :=
  List.mergeSort_perm a.entries _

theorem agree_sorted_iff : a.sorted.Agree b.sorted ↔ a.Agree b := by
  constructor
  · intro h
    exact (a.agree_sorted.symm.trans h).trans b.agree_sorted
  · intro h
    exact (a.agree_sorted.trans h).trans b.agree_sorted.symm

theorem pairwise_of_keys {R : String → String → Prop} (h : a.keys.Pairwise R) :
    a.entries.Pairwise fun entry other => R entry.1 other.1 :=
  List.pairwise_map.1 h

theorem keys_sorted (a : Attributes) : a.sorted.keys.Pairwise (· < ·) := by
  have ordered : a.sorted.keys.Pairwise (· ≤ ·) := by
    refine List.pairwise_map.2 (List.Pairwise.imp of_decide_eq_true ?_)
    refine List.pairwise_mergeSort ?_ ?_ a.entries
    · intro entry other third first second
      exact decide_eq_true
        (String.le_trans (of_decide_eq_true first) (of_decide_eq_true second))
    · intro entry other
      simpa using String.le_total entry.1 other.1
  -- Names that are given once and do not fall do rise.
  refine (ordered.and a.sorted.distinct).imp ?_
  rintro name other ⟨le, ne⟩
  exact String.not_le.1 fun ge => ne (String.le_antisymm le ge)

/-- There is one order of the names. -/
theorem eq_sorted (agree : b.Agree a) (ordered : b.keys.Pairwise (· < ·)) : b = a.sorted := by
  have same : b.entries = a.sorted.entries := by
    refine List.Perm.eq_of_pairwise ?_ (pairwise_of_keys ordered)
      (pairwise_of_keys a.keys_sorted) (agree.trans a.agree_sorted.symm)
    intro entry other _ _ less greater
    exact absurd (String.lt_trans less greater) (String.lt_irrefl entry.1)
  rcases b with ⟨entries, distinct⟩
  rcases h : a.sorted with ⟨others, distinct'⟩
  rw [h] at same
  cases same
  rfl

theorem sorted_empty : empty.sorted = empty :=
  (eq_sorted (Agree.refl empty) List.Pairwise.nil).symm

/-! ## Changes -/

/-- Drops names, and then sets texts. -/
def patch (a : Attributes) (removed : List String) (set : List (String × String)) : Attributes :=
  set.foldl (fun a entry => a.insert entry.1 entry.2) (removed.foldl erase a)

theorem get?_foldl_erase (a : Attributes) (removed : List String) (key : String) :
    (removed.foldl erase a).get? key = if key ∈ removed then none else a.get? key := by
  induction removed generalizing a with
  | nil => simp
  | cons name rest ih =>
      rw [List.foldl_cons, ih, get?_erase]
      by_cases here : key = name
      · simp [here]
      · simp [here]

theorem get?_foldl_insert (a : Attributes) {set : List (String × String)}
    (once : (entryKeys set).Nodup) (key : String) :
    (set.foldl (fun a entry => a.insert entry.1 entry.2) a).get? key =
      (set.lookup key).or (a.get? key) := by
  induction set generalizing a with
  | nil => simp
  | cons entry rest ih =>
      rcases entry with ⟨name, text⟩
      rw [entryKeys, List.map_cons, List.nodup_cons] at once
      rw [List.foldl_cons, ih _ once.2, get?_insert, lookup_cons]
      by_cases here : key = name
      · have absent : rest.lookup name = none := lookup_eq_none_iff.2 once.1
        simp [here, absent]
      · simp [here]

theorem get?_patch (a : Attributes) (removed : List String) {set : List (String × String)}
    (once : (entryKeys set).Nodup) (key : String) :
    (a.patch removed set).get? key =
      (set.lookup key).or (if key ∈ removed then none else a.get? key) := by
  rw [patch, get?_foldl_insert _ once, get?_foldl_erase]

/-- Texts to be set and names to be dropped that make the old attributes into the new ones, up to
their order. No name is given twice, nothing is set to what it was, and nothing is dropped that was
not there. -/
structure IsPatch (old new : Attributes) (set : List (String × String)) (removed : List String) :
    Prop where
  patched : (old.patch removed set).Agree new
  setOnce : (entryKeys set).Nodup
  removedOnce : removed.Nodup
  apart : ∀ key ∈ removed, key ∉ entryKeys set
  altered : ∀ entry ∈ set, entry ∉ old.entries
  present : ∀ key ∈ removed, key ∈ old.keys

namespace IsPatch

variable {old new : Attributes} {set : List (String × String)} {removed : List String}

/-- Nothing is changed exactly if the attributes agree. -/
theorem eq_nil_iff (h : IsPatch old new set removed) :
    set = [] ∧ removed = [] ↔ old.Agree new := by
  constructor
  · rintro ⟨rfl, rfl⟩
    exact h.patched
  · intro agree
    -- Behind the changes every name stands for its old text.
    have kept : ∀ key, (set.lookup key).or (if key ∈ removed then none else old.get? key) =
        old.get? key := by
      intro key
      rw [← get?_patch old removed h.setOnce, agree_iff.1 h.patched, agree_iff.1 agree]
    constructor
    · -- A text that is set would be the old one.
      refine List.eq_nil_iff_forall_not_mem.2 ?_
      rintro ⟨key, value⟩ mem
      have now := kept key
      rw [(lookup_eq_some_iff h.setOnce).2 mem, Option.some_or] at now
      exact h.altered _ mem (get?_eq_some_iff.1 now.symm)
    · -- A name that is dropped would have no old text.
      refine List.eq_nil_iff_forall_not_mem.2 ?_
      intro key mem
      have unset : set.lookup key = none := lookup_eq_none_iff.2 (h.apart key mem)
      have now := kept key
      rw [unset, Option.none_or, if_pos mem] at now
      exact get?_eq_none_iff.1 now.symm (h.present key mem)

end IsPatch

section Changes

variable (old new : Attributes)

/-- The entries that are new or have a new text. -/
def changedEntries : List (String × String) :=
  new.entries.filter fun entry => old.get? entry.1 != some entry.2

/-- The names that are there no longer. -/
def droppedKeys : List String :=
  old.keys.filter fun key => !new.keys.contains key

variable {old new}

theorem mem_changedEntries {value : String} :
    (key, value) ∈ changedEntries old new ↔
      new.get? key = some value ∧ old.get? key ≠ some value := by
  rw [changedEntries, List.mem_filter, get?_eq_some_iff, bne_iff_ne]

theorem nodup_changedEntries : (entryKeys (changedEntries old new)).Nodup :=
  nodup_filter _ new.distinct

theorem mem_droppedKeys :
    key ∈ droppedKeys old new ↔ old.get? key ≠ none ∧ new.get? key = none := by
  rw [droppedKeys, List.mem_filter, ne_eq, get?_eq_none_iff, get?_eq_none_iff]
  simp

/-- A text that was there before is not set once more. -/
theorem lookup_changedEntries_eq_none
    (kept : ∀ value, new.get? key = some value → old.get? key = some value) :
    (changedEntries old new).lookup key = none := by
  rw [lookup_eq_none_iff]
  intro mem
  rcases List.mem_map.1 mem with ⟨⟨_, value⟩, changed, rfl⟩
  rcases mem_changedEntries.1 changed with ⟨text, altered⟩
  exact altered (kept value text)

/-- A name has its new text behind the changes, whether it was changed, kept or dropped. -/
theorem get?_patch_changes (key : String) :
    (old.patch (droppedKeys old new) (changedEntries old new)).get? key = new.get? key := by
  rw [get?_patch _ _ nodup_changedEntries]
  cases now : new.get? key with
  | none =>
      have unset : (changedEntries old new).lookup key = none := by
        refine lookup_changedEntries_eq_none fun value there => ?_
        rw [now] at there
        cases there
      rw [unset, Option.none_or]
      by_cases before : old.get? key = none
      · simp [before]
      · rw [if_pos (mem_droppedKeys.2 ⟨before, now⟩)]
  | some value =>
      have kept : key ∉ droppedKeys old new := by
        intro dropped
        rw [(mem_droppedKeys.1 dropped).2] at now
        cases now
      rw [if_neg kept]
      by_cases same : old.get? key = some value
      · have unset : (changedEntries old new).lookup key = none := by
          refine lookup_changedEntries_eq_none fun other text => ?_
          rw [same, ← text, now]
        rw [unset, Option.none_or, same]
      · have set : (changedEntries old new).lookup key = some value :=
          (lookup_eq_some_iff nodup_changedEntries).2 (mem_changedEntries.2 ⟨now, same⟩)
        rw [set, Option.some_or]

section Order

variable {old' new' : Attributes} (before : old.Agree old') (after : new.Agree new')

include before after

/-- The order of the old attributes does not matter to what is set, and the order of the new ones is
the order in which it is set. -/
theorem changedEntries_perm : (changedEntries old new).Perm (changedEntries old' new') := by
  have texts : ∀ key, old.get? key = old'.get? key := agree_iff.1 before
  unfold changedEntries
  simp only [texts]
  exact after.filter _

theorem droppedKeys_perm : (droppedKeys old new).Perm (droppedKeys old' new') := by
  have kept : ∀ key, new.keys.contains key = new'.keys.contains key :=
    fun key => after.keys_perm.contains_eq
  unfold droppedKeys
  simp only [kept]
  exact before.keys_perm.filter _

end Order

theorem isPatch_changes (old new : Attributes) :
    IsPatch old new (changedEntries old new) (droppedKeys old new) where
  patched := agree_iff.2 get?_patch_changes
  setOnce := nodup_changedEntries
  removedOnce := old.distinct.filter _
  apart := by
    intro key dropped mem
    rcases List.mem_map.1 mem with ⟨⟨_, value⟩, changed, rfl⟩
    have there := (mem_changedEntries.1 changed).1
    rw [(mem_droppedKeys.1 dropped).2] at there
    cases there
  altered := by
    rintro ⟨key, value⟩ changed found
    exact (mem_changedEntries.1 changed).2 (get?_eq_some_iff.2 found)
  present := fun key dropped => (List.mem_filter.1 dropped).1

end Changes

end Attributes
end SchemaChange

/-!
# Attributes — named texts in the order they were given

Users have tags and connections have properties: texts with names. Each name occurs once; a name
keeps the place it was first given, whatever its text becomes later.

- `Attributes`                : the entries, with different names
- `insert`, `erase`, `get?`   : the operations
- `keys_insert`, `keys_erase` : what they do to the names
-/

namespace SchemaChange

/-- The names of entries, in order. -/
abbrev entryKeys (entries : List (String × String)) : List String :=
  entries.map Prod.fst

structure Attributes where
  entries : List (String × String)
  distinct : (entryKeys entries).Nodup
  deriving DecidableEq

namespace Attributes

/-! ## Entries -/

/-- Gives a name its text: in place if the name is there, else at the end. -/
def insertEntry (key value : String) : List (String × String) → List (String × String)
  | [] => [(key, value)]
  | (other, text) :: rest =>
      if other = key then (other, value) :: rest
      else (other, text) :: insertEntry key value rest

theorem keys_insertEntry (key value : String) (entries : List (String × String)) :
    entryKeys (insertEntry key value entries) =
      if key ∈ entryKeys entries then entryKeys entries else entryKeys entries ++ [key] := by
  induction entries with
  | nil => simp [insertEntry]
  | cons head rest ih =>
      obtain ⟨other, text⟩ := head
      by_cases h : other = key
      · simp [insertEntry, h]
      · have h' : key ≠ other := fun e => h e.symm
        by_cases hm : key ∈ entryKeys rest
        · rw [if_pos hm] at ih
          simp only [entryKeys, List.map_cons, insertEntry, if_neg h] at ih ⊢
          rw [ih, if_pos (List.mem_cons_of_mem _ hm)]
        · rw [if_neg hm] at ih
          simp only [entryKeys, List.map_cons, insertEntry, if_neg h] at ih ⊢
          rw [ih, if_neg (by simp [h', hm])]
          rfl

theorem nodup_insertEntry (key value : String) {entries : List (String × String)}
    (h : (entryKeys entries).Nodup) : (entryKeys (insertEntry key value entries)).Nodup := by
  rw [keys_insertEntry]
  split
  · exact h
  · rename_i fresh
    rw [List.nodup_append]
    refine ⟨h, by simp, ?_⟩
    intro a ha b hb hab
    rw [List.mem_singleton] at hb
    exact fresh (hb ▸ hab ▸ ha)

theorem nodup_filter (p : String × String → Bool) {entries : List (String × String)}
    (h : (entryKeys entries).Nodup) : (entryKeys (entries.filter p)).Nodup :=
  h.sublist (List.Sublist.map Prod.fst List.filter_sublist)

/-! ## Operations -/

def empty : Attributes :=
  ⟨[], List.nodup_nil⟩

instance : Inhabited Attributes := ⟨empty⟩

def insert (a : Attributes) (key value : String) : Attributes :=
  ⟨insertEntry key value a.entries, nodup_insertEntry key value a.distinct⟩

/-- The other names keep their order. -/
def erase (a : Attributes) (key : String) : Attributes :=
  ⟨a.entries.filter fun entry => entry.1 != key, nodup_filter _ a.distinct⟩

def get? (a : Attributes) (key : String) : Option String :=
  a.entries.lookup key

def keys (a : Attributes) : List String :=
  entryKeys a.entries

/-- Inserts the entries one after the other. -/
def ofList (entries : List (String × String)) : Attributes :=
  entries.foldl (fun a entry => a.insert entry.1 entry.2) empty

theorem keys_insert (a : Attributes) (key value : String) :
    (a.insert key value).keys = if key ∈ a.keys then a.keys else a.keys ++ [key] :=
  keys_insertEntry key value a.entries

theorem keys_erase (a : Attributes) (key : String) :
    (a.erase key).keys = a.keys.filter (· != key) := by
  simp only [erase, keys, entryKeys, List.filter_map]
  rfl

end Attributes
end SchemaChange

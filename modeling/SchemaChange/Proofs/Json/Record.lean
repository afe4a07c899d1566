import Mathlib.Data.List.Forall2
import Mathlib.Data.List.Nodup
import SchemaChange.Json.Attributes
import SchemaChange.Proofs.Json.Rendering

/-!
# Proofs.Json.Record — fields that are decoded as they were encoded

What every record is made of: the field of a name among the members, and the decoders of its value.
The lemmas on both are rewriting rules, and with them a record decodes by looking up its fields.

- `Members.given_cons`           : the values given for a field
- `recordOf?_array`              : a record that is given by its values alone
- `nullable?_ofOption`           : optional values
- `allOf?_eq_some`               : lists of values, and with `allOf?_eq_none` bad ones
- `attributesOf?_ofAttributes`   : named texts, in their order
- `isPlain_ofOption`             : encoded values are plain trees
-/

namespace SchemaChange
namespace Json

/-! ## Fields -/

@[simp] theorem Members.given_nil (field : String) : Members.given [] field = [] := rfl

@[simp] theorem Members.given_cons (name : String) (v : Value) (ms : Members) (field : String) :
    Members.given ((name, v) :: ms) field =
      if name = field then v :: Members.given ms field else Members.given ms field := by
  unfold Members.given
  rw [List.filterMap_cons]
  by_cases same : name = field
  · simp [same]
  · simp [same]

@[simp] theorem membersOf?_object (members : Members) :
    membersOf? (.object members) = some members := rfl

@[simp] theorem recordOf?_object (fields : List String) (members : Members) :
    recordOf? fields (.object members) = some members := rfl

/-- The values of the first fields, in their order, are the record of these fields. -/
theorem recordOf?_array {fields : List String} {members : Members}
    (names : members.map Prod.fst <+: fields) :
    recordOf? fields (.array (members.map Prod.snd)) = some members := by
  rcases names with ⟨missing, rfl⟩
  have short : (members.map Prod.snd).length ≤ (members.map Prod.fst ++ missing).length := by
    simp
  rw [recordOf?, if_pos short]
  congr 1
  clear short
  induction members with
  | nil => exact List.zip_nil_right
  | cons member members ih =>
      rw [List.map_cons, List.map_cons, List.cons_append, List.zip_cons_cons, ih]

/-! ## Decoders -/

@[simp] theorem textOf?_text (s : String) : textOf? (.text s) = some s := rfl

@[simp] theorem boolOf?_bool (b : Bool) : boolOf? (.bool b) = some b := rfl

@[simp] theorem wordOf?_text {α : Type} (decode? : String → Option α) (s : String) :
    wordOf? decode? (.text s) = decode? s := rfl

theorem bounds_of_int32 (n : Int32) : -0x80000000 ≤ n.toInt ∧ n.toInt ≤ 0x7FFFFFFF :=
  ⟨n.le_toInt, n.toInt_le⟩

theorem bounds_of_int64 (n : Int64) :
    -0x8000000000000000 ≤ n.toInt ∧ n.toInt ≤ 0x7FFFFFFFFFFFFFFF :=
  ⟨n.le_toInt, n.toInt_le⟩

@[simp] theorem int32Of?_ofInt32 (n : Int32) : int32Of? (ofInt32 n) = some n := by
  rw [int32Of?, ofInt32, integerOf?, if_pos (bounds_of_int32 n), Option.map_some,
    Int32.ofInt_toInt]

@[simp] theorem int64Of?_ofInt64 (n : Int64) : int64Of? (ofInt64 n) = some n := by
  rw [int64Of?, ofInt64, integerOf?, if_pos (bounds_of_int64 n), Option.map_some,
    Int64.ofInt_toInt]

/-- No value is encoded as what stands for none. -/
theorem nullable?_ofOption {α : Type} {encode : α → Value} {decode? : Value → Option α}
    (notNull : ∀ x, encode x ≠ .null) (decoded : ∀ x, decode? (encode x) = some x) (o : Option α) :
    nullable? decode? (ofOption encode o) = some o := by
  cases o with
  | none => rfl
  | some x =>
      rw [ofOption, nullable?]
      · rw [decoded, Option.map_some]
      · exact notNull x

@[simp] theorem nullable?_ofOption_text (o : Option String) :
    nullable? textOf? (ofOption .text o) = some o :=
  nullable?_ofOption (fun _ h => by cases h) textOf?_text o

@[simp] theorem nullable?_ofOption_int32 (o : Option Int32) :
    nullable? int32Of? (ofOption ofInt32 o) = some o :=
  nullable?_ofOption (fun _ h => by cases h) int32Of?_ofInt32 o

@[simp] theorem listOf?_ofTexts (texts : List String) :
    listOf? textOf? (ofTexts texts) = some texts := by
  unfold listOf? ofTexts
  induction texts with
  | nil => rfl
  | cons text rest ih => simp only [List.map_cons, allOf?, textOf?_text, ih]

theorem allOf?_eq_some {α : Type} {decode? : Value → Option α} {vs : List Value} {xs : List α} :
    allOf? decode? vs = some xs ↔ List.Forall₂ (fun v x => decode? v = some x) vs xs := by
  induction vs generalizing xs with
  | nil => simp [allOf?, List.forall₂_nil_left_iff, eq_comm]
  | cons v vs ih =>
      rw [allOf?, List.forall₂_cons_left_iff]
      constructor
      · intro h
        split at h
        · rename_i x ys first later
          cases h
          exact ⟨x, ys, first, ih.1 later, rfl⟩
        · cases h
      · rintro ⟨x, ys, first, later, rfl⟩
        simp only [first, ih.2 later]

theorem allOf?_eq_none {α : Type} {decode? : Value → Option α} {vs : List Value} :
    allOf? decode? vs = none ↔ ∃ v ∈ vs, decode? v = none := by
  induction vs with
  | nil => simp [allOf?]
  | cons v vs ih =>
      rw [allOf?, List.exists_mem_cons_iff, ← ih]
      cases decode? v with
      | none => simp
      | some x =>
          cases allOf? decode? vs with
          | none => simp
          | some xs => simp

/-! ## Named texts -/

theorem insertEntry_of_not_mem {key : String} (value : String) {entries : List (String × String)}
    (h : key ∉ entryKeys entries) :
    Attributes.insertEntry key value entries = entries ++ [(key, value)] := by
  induction entries with
  | nil => rfl
  | cons entry rest ih =>
      rw [entryKeys, List.map_cons, List.mem_cons, not_or] at h
      rw [Attributes.insertEntry, if_neg (Ne.symm h.1), ih h.2, List.cons_append]

/-- New names go to the end, one after the other. -/
theorem entries_foldl_insert {a : Attributes} {entries : List (String × String)}
    (distinct : (entryKeys (a.entries ++ entries)).Nodup) :
    (entries.foldl (fun a entry => a.insert entry.1 entry.2) a).entries = a.entries ++ entries := by
  induction entries generalizing a with
  | nil => rw [List.foldl_nil, List.append_nil]
  | cons entry rest ih =>
      have fresh : entry.1 ∉ entryKeys a.entries := by
        rw [entryKeys, List.map_append, List.nodup_append] at distinct
        intro mem
        exact distinct.2.2 entry.1 mem entry.1 List.mem_cons_self rfl
      have inserted : (a.insert entry.1 entry.2).entries = a.entries ++ [entry] :=
        insertEntry_of_not_mem entry.2 fresh
      have moved : a.entries ++ entry :: rest = a.entries ++ [entry] ++ rest := by simp
      rw [moved, ← inserted] at distinct
      rw [List.foldl_cons, ih distinct, inserted, moved]

theorem ofList_entries (a : Attributes) : Attributes.ofList a.entries = a := by
  have same : (Attributes.ofList a.entries).entries = a.entries :=
    entries_foldl_insert (a := Attributes.empty) a.distinct
  rcases a with ⟨entries, distinct⟩
  rcases h : Attributes.ofList entries with ⟨others, distinct'⟩
  rw [h] at same
  cases same
  rfl

theorem entriesOf?_map (entries : List (String × String)) :
    entriesOf? (entries.map fun (key, text) => (key, .text text)) = some entries := by
  induction entries with
  | nil => rfl
  | cons entry rest ih => rw [List.map_cons, entriesOf?, textOf?_text, ih]

@[simp] theorem attributesOf?_ofAttributes (a : Attributes) :
    attributesOf? (ofAttributes a) = some a := by
  rw [ofAttributes, attributesOf?, entriesOf?_map, Option.map_some, ofList_entries]

/-! ## Encoded values -/

variable {levels : Nat}

attribute [simp] IsPlain.null IsPlain.bool IsPlain.text

@[simp] theorem isPlain_ofInt32 (n : Int32) : IsPlain levels (ofInt32 n) := by
  have bounds := bounds_of_int32 n
  exact .integer levels (by omega) (by omega)

@[simp] theorem isPlain_ofInt64 (n : Int64) : IsPlain levels (ofInt64 n) := by
  have bounds := bounds_of_int64 n
  exact .integer levels (by omega) (by omega)

theorem isPlain_ofOption {α : Type} {encode : α → Value} (h : ∀ x, IsPlain levels (encode x))
    (o : Option α) : IsPlain levels (ofOption encode o) := by
  cases o with
  | none => exact .null levels
  | some x => exact h x

@[simp] theorem isPlain_ofOption_text (o : Option String) : IsPlain levels (ofOption .text o) :=
  isPlain_ofOption (.text levels) o

@[simp] theorem isPlain_ofOption_int32 (o : Option Int32) : IsPlain levels (ofOption ofInt32 o) :=
  isPlain_ofOption isPlain_ofInt32 o

@[simp] theorem isPlain_ofTexts (texts : List String) : IsPlain (levels + 1) (ofTexts texts) := by
  refine .array ?_
  intro v mem
  rcases List.mem_map.1 mem with ⟨s, -, rfl⟩
  exact .text levels s

@[simp] theorem isPlain_ofAttributes (a : Attributes) :
    IsPlain (levels + 1) (ofAttributes a) := by
  refine .object ?_
  intro member mem
  rcases List.mem_map.1 mem with ⟨entry, -, rfl⟩
  exact .text levels entry.2

end Json
end SchemaChange

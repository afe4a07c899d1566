import Mathlib.Data.List.Nodup
import SchemaChange.Json.Record
import SchemaChange.Proofs.Attributes
import SchemaChange.Proofs.Json.Record

/-!
# Proofs.Json.Ordering — decoding from sorted members

Sorting the members of every object moves them and, where a name is given once, does nothing else.
A record looks its fields up by name, so it is decoded as before; only where the members are entries
themselves does their order come through.

- `NamesOnce`                : no object of a tree gives a name twice
- `perm_sortMembers`         : sorting moves members
- `namesRise_sortMembers`    : into the order of their names
- `Commutes`, `IgnoresOrder` : what sorting does to what is decoded, and that it does nothing
- `OrdersFields`             : members whose fields are given the same values, ordered
- `Members.field?_ordered`   : the fields of a record
- `commutes_record`          : records, as objects and as arrays
- `commutes_attributesOf?`   : named texts come out sorted
-/

namespace SchemaChange
namespace Json

/-! ## Names that are given once -/

/-- No object of the tree gives a name twice. -/
inductive NamesOnce : Value → Prop
  | null : NamesOnce .null
  | bool (b : Bool) : NamesOnce (.bool b)
  | integer (n : Int) : NamesOnce (.integer n)
  | real (x : Numeral) : NamesOnce (.real x)
  | text (s : String) : NamesOnce (.text s)
  | unpaired (literal : List Char) : NamesOnce (.unpaired literal)
  | array {items : List Value} : (∀ v ∈ items, NamesOnce v) → NamesOnce (.array items)
  | object {members : Members} :
      (members.map Prod.fst).Nodup → (∀ member ∈ members, NamesOnce member.2) →
        NamesOnce (.object members)

theorem NamesOnce.nodup {ms : Members} (h : NamesOnce (.object ms)) :
    (ms.map Prod.fst).Nodup := by
  cases h with
  | object nodup _ => exact nodup

theorem NamesOnce.member {ms : Members} (h : NamesOnce (.object ms)) :
    ∀ member ∈ ms, NamesOnce member.2 := by
  cases h with
  | object _ each => exact each

theorem NamesOnce.item {vs : List Value} (h : NamesOnce (.array vs)) : ∀ v ∈ vs, NamesOnce v := by
  cases h with
  | array each => exact each

/-! ## Sorted members -/

theorem perm_insertMember {name : String} (v : Value) {ms : Members}
    (fresh : name ∉ ms.map Prod.fst) : (insertMember name v ms).Perm ((name, v) :: ms) := by
  induction ms with
  | nil => exact List.Perm.refl _
  | cons member ms ih =>
      rcases member with ⟨other, w⟩
      rw [List.map_cons, List.mem_cons, not_or] at fresh
      rw [insertMember, if_neg fresh.1]
      split
      · exact List.Perm.refl _
      · exact ((ih fresh.2).cons (other, w)).trans (List.Perm.swap _ _ _)

theorem perm_foldl_insertMember {sorted ms : Members}
    (once : ((ms ++ sorted).map Prod.fst).Nodup) :
    (ms.foldl (fun sorted member => insertMember member.1 member.2 sorted) sorted).Perm
      (ms ++ sorted) := by
  induction ms generalizing sorted with
  | nil => exact List.Perm.refl _
  | cons member ms ih =>
      rcases member with ⟨name, v⟩
      rw [List.cons_append, List.map_cons, List.nodup_cons, List.map_append, List.mem_append,
        not_or] at once
      -- The member goes in among the sorted ones; its name is not among those still to come.
      have inserted := perm_insertMember v once.1.2
      have moved : (ms ++ insertMember name v sorted).Perm ((name, v) :: (ms ++ sorted)) :=
        (inserted.append_left ms).trans List.perm_middle
      have later : ((ms ++ insertMember name v sorted).map Prod.fst).Nodup := by
        rw [(moved.map Prod.fst).nodup_iff, List.map_cons, List.nodup_cons, List.map_append,
          List.mem_append, not_or]
        exact ⟨once.1, once.2⟩
      exact (ih later).trans moved

/-- Where each name is given once, sorting only moves the members. -/
theorem perm_sortMembers {ms : Members} (once : (ms.map Prod.fst).Nodup) :
    (sortMembers ms).Perm ms := by
  have perm : (sortMembers ms).Perm (ms ++ []) :=
    perm_foldl_insertMember (by rwa [List.append_nil])
  rwa [List.append_nil] at perm

theorem mem_insertMember {name : String} {v : Value} {ms : Members} {member : String × Value}
    (h : member ∈ insertMember name v ms) : member = (name, v) ∨ member ∈ ms := by
  induction ms with
  | nil => exact .inl (List.mem_singleton.1 h)
  | cons first ms ih =>
      rcases first with ⟨other, w⟩
      rw [insertMember] at h
      split at h
      · exact (List.mem_cons.1 h).imp_right (List.mem_cons_of_mem _)
      · split at h
        · exact List.mem_cons.1 h
        · cases List.mem_cons.1 h with
          | inl here => exact .inr (here ▸ List.mem_cons_self)
          | inr later => exact (ih later).imp_right (List.mem_cons_of_mem _)

/-- The names of sorted members rise. -/
def NamesRise (ms : Members) : Prop :=
  ms.Pairwise fun member other => member.1 < other.1

theorem NamesRise.insertMember {ms : Members} (h : NamesRise ms) (name : String) (v : Value) :
    NamesRise (insertMember name v ms) := by
  induction ms with
  | nil => exact List.pairwise_singleton _ _
  | cons first ms ih =>
      rcases first with ⟨other, w⟩
      rcases List.pairwise_cons.1 h with ⟨front, rest⟩
      rw [Json.insertMember]
      split
      · rename_i same
        exact List.pairwise_cons.2 ⟨fun member mem => same ▸ front member mem, rest⟩
      · rename_i differs
        split
        · rename_i less
          refine List.pairwise_cons.2 ⟨?_, h⟩
          exact List.forall_mem_cons.2
            ⟨less, fun member mem => String.lt_trans less (front member mem)⟩
        · rename_i notLess
          refine List.pairwise_cons.2 ⟨?_, ih rest⟩
          intro member mem
          cases mem_insertMember mem with
          | inl here =>
              -- Of two different names one is the smaller one.
              have le := String.not_lt.1 notLess
              rw [here]
              exact String.not_le.1 fun ge => differs (String.le_antisymm ge le)
          | inr later => exact front member later

theorem namesRise_sortMembers (ms : Members) : NamesRise (sortMembers ms) := by
  have step : ∀ sorted : Members, NamesRise sorted →
      NamesRise (ms.foldl (fun sorted member => insertMember member.1 member.2 sorted) sorted) := by
    induction ms with
    | nil => exact fun sorted h => h
    | cons member ms ih => exact fun sorted h => ih _ (h.insertMember member.1 member.2)
  exact step [] List.Pairwise.nil

theorem orderedMembers_eq_map (ms : Members) :
    orderedMembers ms = ms.map fun member => (member.1, member.2.ordered) := by
  induction ms with
  | nil => rfl
  | cons member ms ih => rw [orderedMembers, ih, List.map_cons]

theorem names_orderedMembers (ms : Members) :
    (orderedMembers ms).map Prod.fst = ms.map Prod.fst := by
  rw [orderedMembers_eq_map, List.map_map]
  rfl

/-- The members of an ordered object are the ordered members, moved. -/
theorem perm_ordered {ms : Members} (once : NamesOnce (.object ms)) :
    (sortMembers (orderedMembers ms)).Perm (orderedMembers ms) := by
  refine perm_sortMembers ?_
  rw [names_orderedMembers]
  exact once.nodup

theorem length_ordered {ms : Members} (once : NamesOnce (.object ms)) :
    (sortMembers (orderedMembers ms)).length = ms.length := by
  rw [(perm_ordered once).length_eq, orderedMembers_eq_map, List.length_map]

/-! ## Fields -/

theorem mem_given {ms : Members} {field : String} {v : Value} :
    v ∈ Members.given ms field ↔ (field, v) ∈ ms := by
  unfold Members.given
  rw [List.mem_filterMap]
  constructor
  · rintro ⟨⟨name, w⟩, mem, found⟩
    by_cases same : name = field
    · simp only [same, if_true, Option.some_inj] at found
      exact same ▸ found ▸ mem
    · simp [same] at found
  · intro mem
    exact ⟨(field, v), mem, if_pos rfl⟩

theorem given_perm {ms others : Members} (h : ms.Perm others) (field : String) :
    (ms.given field).Perm (others.given field) :=
  h.filterMap _

theorem given_map (f : Value → Value) (ms : Members) (field : String) :
    Members.given (ms.map fun member => (member.1, f member.2)) field =
      (Members.given ms field).map f := by
  induction ms with
  | nil => rfl
  | cons member ms ih =>
      rcases member with ⟨name, v⟩
      rw [List.map_cons, Members.given_cons, Members.given_cons, ih]
      split <;> rfl

theorem length_given_le {ms : Members} (once : (ms.map Prod.fst).Nodup) (field : String) :
    (ms.given field).length ≤ 1 := by
  induction ms with
  | nil => exact Nat.zero_le 1
  | cons member ms ih =>
      rcases member with ⟨name, v⟩
      rw [List.map_cons, List.nodup_cons] at once
      rw [Members.given_cons]
      split
      · rename_i here
        -- The name stands in front, so it is not given again.
        have absent : Members.given ms field = [] := by
          refine List.eq_nil_iff_forall_not_mem.2 ?_
          intro w mem
          have again := List.mem_map_of_mem (f := Prod.fst) (mem_given.1 mem)
          exact once.1 (here ▸ again)
        rw [absent]
        exact Nat.le_refl 1
      · exact ih once.2

theorem eq_of_perm_of_length_le {α : Type} {xs ys : List α} (h : xs.Perm ys)
    (short : ys.length ≤ 1) : xs = ys := by
  rcases ys with _ | ⟨y, _ | ⟨z, ys⟩⟩
  · exact h.eq_nil
  · exact List.perm_singleton.1 h
  · simp at short

/-- Each field is given the same values in both, but ordered in the second. -/
structure OrdersFields (ms others : Members) : Prop where
  given : ∀ field, others.given field = (ms.given field).map Value.ordered
  member : ∀ member ∈ ms, NamesOnce member.2

/-- Sorting moves no value from one field to another. -/
theorem ordersFields_sortMembers {ms : Members} (once : NamesOnce (.object ms)) :
    OrdersFields ms (sortMembers (orderedMembers ms)) := by
  refine ⟨?_, once.member⟩
  intro field
  rw [← given_map, ← orderedMembers_eq_map]
  -- Of one value at most nothing can be moved.
  refine eq_of_perm_of_length_le (given_perm (perm_ordered once) field) ?_
  rw [orderedMembers_eq_map, given_map, List.length_map]
  exact length_given_le once.nodup field

theorem zip_orderedItems (fields : List String) (items : List Value) :
    fields.zip (orderedItems items) =
      (fields.zip items).map fun member => (member.1, member.2.ordered) := by
  induction fields generalizing items with
  | nil => rfl
  | cons field fields ih =>
      cases items with
      | nil => rfl
      | cons v vs => rw [orderedItems, List.zip_cons_cons, List.zip_cons_cons, List.map_cons, ih]

/-- The values of an array stay with their fields. -/
theorem ordersFields_zip (fields : List String) {items : List Value}
    (each : ∀ v ∈ items, NamesOnce v) :
    OrdersFields (fields.zip items) (fields.zip (orderedItems items)) := by
  constructor
  · intro field
    rw [zip_orderedItems, given_map]
  · rintro ⟨field, v⟩ mem
    exact each v (List.of_mem_zip mem).2

theorem length_orderedItems (items : List Value) : (orderedItems items).length = items.length := by
  induction items with
  | nil => rfl
  | cons v vs ih => rw [orderedItems, List.length_cons, List.length_cons, ih]

/-! ## Decoders -/

/-- Sorting the members first does to what is decoded what the function does. -/
def Commutes {α : Type} (f : α → α) (decode? : Value → Option α) : Prop :=
  ∀ ⦃v : Value⦄, NamesOnce v → decode? v.ordered = (decode? v).map f

/-- Sorting the members first makes no difference. -/
def IgnoresOrder {α : Type} (decode? : Value → Option α) : Prop :=
  ∀ ⦃v : Value⦄, NamesOnce v → decode? v.ordered = decode? v

theorem IgnoresOrder.commutes {α : Type} {decode? : Value → Option α}
    (ignores : IgnoresOrder decode?) : Commutes id decode? := by
  intro v h
  rw [ignores h, Option.map_id]
  rfl

section Fields

variable {α : Type} {f : α → α} {decode? : Value → Option α} {ms others : Members}
variable (orders : OrdersFields ms others) (field : String)

include orders

theorem Members.field?_commutes (commutes : Commutes f decode?) {default : α}
    (fixed : f default = default) :
    others.field? field default decode? = (ms.field? field default decode?).map f := by
  unfold Members.field?
  rw [orders.given]
  cases found : ms.given field with
  | nil => simp [fixed]
  | cons v rest =>
      cases rest with
      | nil =>
          have mem : (field, v) ∈ ms := mem_given.1 (by rw [found]; exact List.mem_cons_self)
          exact commutes (orders.member _ mem)
      | cons w rest => rfl

theorem Members.required?_commutes (commutes : Commutes f decode?) :
    others.required? field decode? = (ms.required? field decode?).map f := by
  unfold Members.required?
  rw [orders.given]
  cases found : ms.given field with
  | nil => rfl
  | cons v rest =>
      cases rest with
      | nil =>
          have mem : (field, v) ∈ ms := mem_given.1 (by rw [found]; exact List.mem_cons_self)
          exact commutes (orders.member _ mem)
      | cons w rest => rfl

theorem Members.field?_ordered (ignores : IgnoresOrder decode?) (default : α) :
    others.field? field default decode? = ms.field? field default decode? := by
  rw [Members.field?_commutes orders field ignores.commutes rfl, Option.map_id]
  rfl

theorem Members.required?_ordered (ignores : IgnoresOrder decode?) :
    others.required? field decode? = ms.required? field decode? := by
  rw [Members.required?_commutes orders field ignores.commutes, Option.map_id]
  rfl

end Fields

section Decoders

variable {α : Type} {decode? : Value → Option α}

@[simp] theorem ignoresOrder_textOf? : IgnoresOrder textOf? := by
  intro v _
  cases v <;> rfl

@[simp] theorem ignoresOrder_boolOf? : IgnoresOrder boolOf? := by
  intro v _
  cases v <;> rfl

@[simp] theorem ignoresOrder_integerOf? (low high : Int) : IgnoresOrder (integerOf? low high) := by
  intro v _
  cases v <;> rfl

@[simp] theorem ignoresOrder_int32Of? : IgnoresOrder int32Of? := by
  intro v h
  rw [int32Of?, int32Of?, ignoresOrder_integerOf? _ _ h]

@[simp] theorem ignoresOrder_int64Of? : IgnoresOrder int64Of? := by
  intro v h
  rw [int64Of?, int64Of?, ignoresOrder_integerOf? _ _ h]

@[simp] theorem IgnoresOrder.nullable? (ignores : IgnoresOrder decode?) :
    IgnoresOrder (nullable? decode?) := by
  intro v h
  cases v with
  | array items => exact congrArg (Option.map some) (ignores h)
  | object members => exact congrArg (Option.map some) (ignores h)
  | _ => rfl

@[simp] theorem IgnoresOrder.listOf? (ignores : IgnoresOrder decode?) :
    IgnoresOrder (listOf? decode?) := by
  intro v h
  cases v with
  | array items =>
      have each := h.item
      have same : allOf? decode? (orderedItems items) = allOf? decode? items := by
        clear h
        induction items with
        | nil => rfl
        | cons v vs ih =>
            rw [List.forall_mem_cons] at each
            rw [orderedItems, allOf?, allOf?, ignores each.1, ih each.2]
      exact same
  | _ => rfl

/-- A record that is decoded from its fields alone, in either form. -/
theorem commutes_record {f : α → α} {ofMembers? : Members → Option α} (fields : List String)
    (commutes : ∀ ms others, OrdersFields ms others → ofMembers? others = (ofMembers? ms).map f) :
    Commutes f fun v => (recordOf? fields v).bind ofMembers? := by
  intro v h
  cases v with
  | object members => exact commutes _ _ (ordersFields_sortMembers h)
  | array items =>
      have length := length_orderedItems items
      by_cases short : items.length ≤ fields.length
      · simp only [Value.ordered, recordOf?, length, short, if_true]
        exact commutes _ _ (ordersFields_zip fields h.item)
      · simp only [Value.ordered, recordOf?, length, short, if_false]
        rfl
  | _ => rfl

theorem ignoresOrder_record {ofMembers? : Members → Option α} (fields : List String)
    (ignores : ∀ ms others, OrdersFields ms others → ofMembers? others = ofMembers? ms) :
    IgnoresOrder fun v => (recordOf? fields v).bind ofMembers? := by
  have commutes : Commutes id fun v => (recordOf? fields v).bind ofMembers? := by
    refine commutes_record fields ?_
    intro ms others orders
    rw [ignores ms others orders, Option.map_id]
    rfl
  intro v h
  rw [commutes h, Option.map_id]
  rfl

/-! ### Words -/

theorem wordOf?_object_of_length {read? : String → Option α} {ms : Members}
    (length : ms.length ≠ 1) : wordOf? read? (.object ms) = none := by
  unfold wordOf?
  split
  · rename_i same
    cases same
  · rename_i same
    cases same
    exact absurd rfl length
  · rename_i same
    cases same
    exact absurd rfl length
  · rfl

@[simp] theorem ignoresOrder_wordOf? (read? : String → Option α) :
    IgnoresOrder (wordOf? read?) := by
  intro v h
  cases v with
  | object ms =>
      have length := length_ordered h
      by_cases single : ms.length = 1
      · -- The one member stays where it is, and no value becomes the empty object.
        rcases List.length_eq_one_iff.1 single with ⟨⟨word, w⟩, rfl⟩
        cases w with
        | object inner =>
            have moved : (Value.object [(word, .object inner)]).ordered =
                .object [(word, .object (sortMembers (orderedMembers inner)))] := rfl
            have kept := length_ordered (h.member _ List.mem_cons_self)
            rw [moved]
            cases later : sortMembers (orderedMembers inner) with
            | nil =>
                rw [later] at kept
                rw [List.eq_nil_of_length_eq_zero kept.symm]
            | cons other rest =>
                cases inner with
                | nil => cases later
                | cons first inner => rfl
        | _ => rfl
      · rw [Value.ordered, wordOf?_object_of_length single,
          wordOf?_object_of_length (length ▸ single)]
  | _ => rfl

/-! ### Named texts -/

theorem entriesOf?_eq_some {ms : Members} {entries : List (String × String)} :
    entriesOf? ms = some entries ↔ ms = entries.map fun entry => (entry.1, .text entry.2) := by
  constructor
  · intro h
    induction ms generalizing entries with
    | nil =>
        cases h
        rfl
    | cons member ms ih =>
        rcases member with ⟨key, v⟩
        rw [entriesOf?] at h
        split at h
        · rename_i text later found rest
          cases h
          cases v with
          | text s =>
              cases found
              rw [List.map_cons, ← ih rest]
          | _ => cases found
        · cases h
  · rintro rfl
    exact entriesOf?_map entries

theorem entriesOf?_perm {ms others : Members} (perm : ms.Perm others)
    {entries : List (String × String)} (h : entriesOf? ms = some entries) :
    ∃ moved, entriesOf? others = some moved ∧ moved.Perm entries := by
  simp only [entriesOf?_eq_some] at h ⊢
  induction perm generalizing entries with
  | nil => exact ⟨entries, h, List.Perm.refl _⟩
  | cons member _ ih =>
      cases entries with
      | nil => cases h
      | cons entry entries =>
          rw [List.map_cons, List.cons.injEq] at h
          rcases ih h.2 with ⟨moved, found, again⟩
          exact ⟨entry :: moved, by rw [List.map_cons, ← h.1, found], again.cons entry⟩
  | swap member other ms =>
      rcases entries with _ | ⟨first, _ | ⟨second, entries⟩⟩
      · cases h
      · cases h
      · cases h
        exact ⟨second :: first :: entries, rfl, List.Perm.swap _ _ _⟩
  | trans _ _ ih ih' =>
      rcases ih h with ⟨moved, found, perm⟩
      rcases ih' found with ⟨again, found', perm'⟩
      exact ⟨again, found', perm'.trans perm⟩

theorem textOf?_ordered (v : Value) : textOf? v.ordered = textOf? v := by
  cases v <;> rfl

theorem entriesOf?_orderedMembers (ms : Members) :
    entriesOf? (orderedMembers ms) = entriesOf? ms := by
  induction ms with
  | nil => rfl
  | cons member ms ih => rw [orderedMembers, entriesOf?, entriesOf?, textOf?_ordered, ih]

theorem keys_of_entriesOf? {ms : Members} {entries : List (String × String)}
    (h : entriesOf? ms = some entries) : entryKeys entries = ms.map Prod.fst := by
  rw [entriesOf?_eq_some.1 h, List.map_map]
  rfl

theorem entries_ofList {entries : List (String × String)}
    (distinct : (entryKeys entries).Nodup) : (Attributes.ofList entries).entries = entries :=
  entries_foldl_insert (a := Attributes.empty) distinct

/-- Named texts come out in the order of their names. -/
theorem commutes_attributesOf? : Commutes Attributes.sorted attributesOf? := by
  intro v h
  cases v with
  | object ms =>
      have perm := perm_ordered h
      rw [Value.ordered, attributesOf?, attributesOf?]
      cases found : entriesOf? ms with
      | none =>
          -- If the sorted members were entries, so would be the members before.
          cases sorted : entriesOf? (sortMembers (orderedMembers ms)) with
          | none => rfl
          | some moved =>
              rcases entriesOf?_perm perm sorted with ⟨entries, found', -⟩
              rw [entriesOf?_orderedMembers, found] at found'
              cases found'
      | some entries =>
          rw [← entriesOf?_orderedMembers] at found
          rcases entriesOf?_perm perm.symm found with ⟨moved, sorted, again⟩
          have names : (entryKeys entries).Nodup := by
            rw [keys_of_entriesOf? found, names_orderedMembers]
            exact h.nodup
          -- The entries are those from before and their names rise, and there is one such order.
          have rising : (entryKeys moved).Pairwise (· < ·) := by
            rw [keys_of_entriesOf? sorted]
            exact List.pairwise_map.2 (namesRise_sortMembers _)
          have distinct : (entryKeys moved).Nodup :=
            ((again.map Prod.fst).nodup_iff).2 names
          have agree : (Attributes.ofList moved).Agree (Attributes.ofList entries) := by
            rw [Attributes.Agree, entries_ofList distinct, entries_ofList names]
            exact again
          have keys : (Attributes.ofList moved).keys.Pairwise (· < ·) := by
            rw [Attributes.keys, entries_ofList distinct]
            exact rising
          rw [sorted, Option.map_some, Option.map_some, Option.map_some,
            Attributes.eq_sorted agree keys]
  | _ => rfl

end Decoders

end Json
end SchemaChange

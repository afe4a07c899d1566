import SchemaChange.Command
import SchemaChange.Proofs.Json.Joining
import SchemaChange.Proofs.Json.Record

/-!
# Proofs.Command — statements of many objects at once

The objects of an array are all decoded before the first of them is written, and if one is refused
none is written. So either all statements are there, in the order of the objects, or none is.

- `Command.statementsFrom_eq_ok`    : the statements of a list of objects
- `Command.statementsFrom_eq_error` : the first object that is refused
- `Command.synthesize_arrayText`    : what becomes of an array
- `Command.nested_malformed`        : an object that is read alone and not in an array
-/

namespace SchemaChange
namespace Command

open Json (Value)
open Script (Batch)

/-! ## One after the other -/

section Lists

variable {α β γ : Type} {R : α → β → Prop} {S : β → γ → Prop}

theorem forall_exists_iff {xs : List α} :
    (∀ a ∈ xs, ∃ b, R a b) ↔ ∃ ys, List.Forall₂ R xs ys := by
  induction xs with
  | nil => simp
  | cons a xs ih =>
      rw [List.forall_mem_cons, ih]
      constructor
      · rintro ⟨⟨b, first⟩, ys, later⟩
        exact ⟨b :: ys, .cons first later⟩
      · rintro ⟨_, h⟩
        cases h with
        | cons first later => exact ⟨⟨_, first⟩, _, later⟩

theorem forall₂_comp {xs : List α} {zs : List γ} :
    List.Forall₂ (fun a c => ∃ b, R a b ∧ S b c) xs zs ↔
      ∃ ys, List.Forall₂ R xs ys ∧ List.Forall₂ S ys zs := by
  constructor
  · intro h
    induction h with
    | nil => exact ⟨[], .nil, .nil⟩
    | cons first _ ih =>
        rcases first with ⟨b, left, right⟩
        rcases ih with ⟨ys, lefts, rights⟩
        exact ⟨b :: ys, .cons left lefts, .cons right rights⟩
  · rintro ⟨ys, lefts, rights⟩
    induction lefts generalizing zs with
    | nil =>
        cases rights
        exact .nil
    | cons left _ ih =>
        cases rights with
        | cons right others => exact .cons ⟨_, left, right⟩ (ih others)

end Lists

/-! ## Lists of objects -/

theorem statementsFrom_eq_ok {index : Nat} {objects : List DesignObject}
    {statements : List String} :
    statementsFrom index objects = .ok statements ↔
      ∃ batches, List.Forall₂ (fun o b => o.toBatch = .ok b) objects batches ∧
        batches.flatMap Batch.statements = statements := by
  induction objects generalizing index statements with
  | nil => simp [statementsFrom]
  | cons o objects ih =>
      rw [statementsFrom]
      simp only [List.forall₂_cons_left_iff]
      cases written : o.toBatch with
      | error r => simp
      | ok b =>
          dsimp only
          constructor
          · intro h
            cases later : statementsFrom (index + 1) objects with
            | error e =>
                rw [later] at h
                cases h
            | ok others =>
                rw [later] at h
                cases h
                rcases ih.1 later with ⟨batches, each, rfl⟩
                exact ⟨b :: batches, ⟨b, batches, rfl, each, rfl⟩, rfl⟩
          · rintro ⟨_, ⟨first, batches, same, each, rfl⟩, rfl⟩
            cases same
            rw [ih.2 ⟨batches, each, rfl⟩]
            rfl

theorem statementsFrom_of_error {o : DesignObject} {r : Refusal} (h : o.toBatch = .error r) :
    statementsFrom 0 [o] = .error (.refused o.kindWord 0 r) := by
  rw [statementsFrom, h]

theorem statementsFrom_of_ok {o : DesignObject} {b : Batch} (h : o.toBatch = .ok b) :
    statementsFrom 0 [o] = .ok b.statements :=
  statementsFrom_eq_ok.2 ⟨[b], .cons h .nil, List.append_nil _⟩

/-- The error names the kind and the position of the first object that is refused. -/
def IsFirstRefusal (index : Nat) (objects : List DesignObject) (e : CommandError) : Prop :=
  ∃ before o after r, objects = before ++ o :: after ∧ (∀ p ∈ before, ∃ b, p.toBatch = .ok b) ∧
    o.toBatch = .error r ∧ e = .refused o.kindWord (index + before.length) r

theorem statementsFrom_eq_error {index : Nat} {objects : List DesignObject} {e : CommandError}
    (h : statementsFrom index objects = .error e) : IsFirstRefusal index objects e := by
  induction objects generalizing index with
  | nil => cases h
  | cons o objects ih =>
      rw [statementsFrom] at h
      cases written : o.toBatch with
      | error r =>
          rw [written] at h
          cases h
          exact ⟨[], o, objects, r, rfl, List.forall_mem_nil _, written, rfl⟩
      | ok b =>
          rw [written] at h
          cases later : statementsFrom (index + 1) objects with
          | ok others =>
              rw [later] at h
              cases h
          | error e' =>
              rw [later] at h
              cases h
              -- One object more stands in front of the one that is refused.
              rcases ih later with ⟨before, p, after, r, rfl, each, refused, rfl⟩
              refine ⟨o :: before, p, after, r, rfl, ?_, refused, ?_⟩
              · exact List.forall_mem_cons.2 ⟨⟨b, written⟩, each⟩
              · rw [List.length_cons, Nat.add_assoc, Nat.add_comm 1]

/-! ## Objects in texts -/

/-- The object of a text, decoded from sorted members. -/
def objectIn? (text : String) : Option DesignObject :=
  (Json.read? text).bind fun v => DesignObject.ofJson? v.ordered

/-- The text of an object that may lie inside an array. -/
def IsItem (text : String) : Prop :=
  ∃ ms, Json.read? text = some (.object ms) ∧
    (Value.object ms).usable (Json.nestingLimit - 1) = true

theorem isItem_iff {text : String} :
    IsItem text ↔
      (Json.read? text).any (fun v =>
        (Json.membersOf? v).isSome && v.usable (Json.nestingLimit - 1)) = true := by
  rw [Option.any_eq_true]
  constructor
  · rintro ⟨ms, read, shallow⟩
    exact ⟨.object ms, read, shallow⟩
  · rintro ⟨v, read, both⟩
    cases v with
    | object ms => exact ⟨ms, read, both⟩
    | _ => cases both

instance (text : String) : Decidable (IsItem text) :=
  decidable_of_iff _ isItem_iff.symm

theorem orderedItems_eq_map (vs : List Value) : Json.orderedItems vs = vs.map Value.ordered := by
  induction vs with
  | nil => rfl
  | cons v vs ih => rw [Json.orderedItems, ih, List.map_cons]

theorem synthesize_of_read {text : String} {v : Value} {objects : List DesignObject}
    (read : Json.read? text = some v) (decoded : objectsOf v.ordered = .ok objects)
    (delimiter : String) :
    synthesize text delimiter =
      (statementsFrom 0 objects).map fun statements => ⟨statements, delimiter⟩ := by
  have steps : synthesize text delimiter =
      (statementsFrom 0 objects >>= fun statements => pure ⟨statements, delimiter⟩) := by
    simp only [synthesize, read, decoded]
    rfl
  rw [steps]
  cases statementsFrom 0 objects <;> rfl

/-- An object on its own is a list of one object. -/
theorem synthesize_of_objectIn {text : String} {ms : Json.Members} {o : DesignObject}
    (read : Json.read? text = some (.object ms)) (h : objectIn? text = some o)
    (delimiter : String) :
    synthesize text delimiter =
      (statementsFrom 0 [o]).map fun statements => ⟨statements, delimiter⟩ := by
  refine synthesize_of_read read ?_ delimiter
  have found : DesignObject.ofJson? (.object (Json.sortMembers (Json.orderedMembers ms))) =
      some o := by
    rwa [objectIn?, read] at h
  rw [Value.ordered, objectsOf, found]
  -- What is left to say is that an object is no array.
  exact nofun

/-- The text is that of an object with this batch. -/
def Gives (text : String) (b : Batch) : Prop :=
  ∃ o, objectIn? text = some o ∧ o.toBatch = .ok b

theorem synthesize_of_gives {text : String} {ms : Json.Members} {b : Batch}
    (read : Json.read? text = some (.object ms)) (h : Gives text b) (delimiter : String) :
    synthesize text delimiter = .ok ⟨b.statements, delimiter⟩ := by
  rcases h with ⟨o, decoded, written⟩
  rw [synthesize_of_objectIn read decoded, statementsFrom_of_ok written]
  rfl

/-! ## Arrays -/

section Arrays

variable {texts : List String} {vs : List Value} {objects : List DesignObject}
variable (reads : List.Forall₂ (fun text v => Json.read? text = some v) texts vs)

include reads

theorem allOf?_items :
    Json.allOf? DesignObject.ofJson? (Json.orderedItems vs) = some objects ↔
      List.Forall₂ (fun text o => objectIn? text = some o) texts objects := by
  rw [orderedItems_eq_map, Json.allOf?_eq_some, List.forall₂_map_left_iff]
  -- The texts and their trees are taken one by one; the tree is what the text is decoded from.
  induction reads generalizing objects with
  | nil => rw [List.forall₂_nil_left_iff, List.forall₂_nil_left_iff]
  | cons read _ ih =>
      rw [List.forall₂_cons_left_iff, List.forall₂_cons_left_iff]
      simp only [ih, objectIn?, read, Option.bind_some]

theorem allOf?_items_eq_none :
    Json.allOf? DesignObject.ofJson? (Json.orderedItems vs) = none ↔
      ∃ text ∈ texts, objectIn? text = none := by
  rw [orderedItems_eq_map, Json.allOf?_eq_none]
  induction reads with
  | nil => simp
  | cons read _ ih =>
      rw [List.map_cons, List.exists_mem_cons_iff, List.exists_mem_cons_iff, ih]
      simp only [objectIn?, read, Option.bind_some]

end Arrays

section ArrayTexts

variable {texts : List String} (delimiter : String) (items : ∀ text ∈ texts, IsItem text)

include items

theorem exists_values :
    ∃ vs, List.Forall₂ (fun text v => Json.read? text = some v) texts vs ∧
      Json.read? (Json.arrayText texts) = some (.array vs) := by
  have each : ∀ text ∈ texts, ∃ v, Json.read? text = some v ∧
      v.usable (Json.nestingLimit - 1) = true := by
    intro text mem
    rcases items text mem with ⟨ms, read, shallow⟩
    exact ⟨.object ms, read, shallow⟩
  rcases forall_exists_iff.1 each with ⟨vs, found⟩
  have reads : List.Forall₂ (fun text v => Json.read? text = some v) texts vs :=
    found.imp fun _ _ h => h.1
  have shallow : vs.all (Value.usable (Json.nestingLimit - 1)) = true := by
    clear reads items each
    induction found with
    | nil => rfl
    | cons first _ ih => rw [List.all_cons, first.2, ih, Bool.and_true]
  exact ⟨vs, reads, by rw [Json.read?_arrayText reads, if_pos shallow]⟩

/-- Decoding comes first: one item that is no object spoils the array. -/
theorem synthesize_undecoded (undecoded : ∃ text ∈ texts, objectIn? text = none) :
    synthesize (Json.arrayText texts) delimiter = .error .invalidItem := by
  rcases exists_values items with ⟨vs, reads, read⟩
  have spoilt : objectsOf (Value.array vs).ordered = .error .invalidItem := by
    rw [Value.ordered, objectsOf, (allOf?_items_eq_none reads).2 undecoded]
  simp only [synthesize, read, spoilt]
  rfl

theorem synthesize_decoded {objects : List DesignObject}
    (decoded : List.Forall₂ (fun text o => objectIn? text = some o) texts objects) :
    synthesize (Json.arrayText texts) delimiter =
      (statementsFrom 0 objects).map fun statements => ⟨statements, delimiter⟩ := by
  rcases exists_values items with ⟨vs, reads, read⟩
  have whole : objectsOf (Value.array vs).ordered = .ok objects := by
    rw [Value.ordered, objectsOf, (allOf?_items reads).2 decoded]
  exact synthesize_of_read read whole delimiter

theorem undecoded_or_decoded :
    (∃ text ∈ texts, objectIn? text = none) ∨
      ∃ objects, List.Forall₂ (fun text o => objectIn? text = some o) texts objects := by
  rcases exists_values items with ⟨vs, reads, -⟩
  cases found : Json.allOf? DesignObject.ofJson? (Json.orderedItems vs) with
  | none => exact .inl ((allOf?_items_eq_none reads).1 found)
  | some objects => exact .inr ⟨objects, (allOf?_items reads).1 found⟩

theorem synthesize_eq_ok {b : Batch} :
    synthesize (Json.arrayText texts) delimiter = .ok b ↔
      ∃ batches, List.Forall₂ Gives texts batches ∧
        b = ⟨batches.flatMap Batch.statements, delimiter⟩ := by
  constructor
  · intro h
    rcases undecoded_or_decoded items with undecoded | ⟨objects, decoded⟩
    · rw [synthesize_undecoded delimiter items undecoded] at h
      cases h
    · rw [synthesize_decoded delimiter items decoded] at h
      cases written : statementsFrom 0 objects with
      | error e =>
          rw [written] at h
          cases h
      | ok statements =>
          rw [written] at h
          cases h
          rcases statementsFrom_eq_ok.1 written with ⟨batches, each, rfl⟩
          exact ⟨batches, forall₂_comp.2 ⟨objects, decoded, each⟩, rfl⟩
  · rintro ⟨batches, gives, rfl⟩
    rcases forall₂_comp.1 gives with ⟨objects, decoded, each⟩
    rw [synthesize_decoded delimiter items decoded,
      statementsFrom_eq_ok.2 ⟨batches, each, rfl⟩]
    rfl

/-- Of the texts of any number of JSON objects an array gives all statements or none. It gives those
that the texts give alone, in their order; an item that is decoded to no object is told before an
object that is refused, and of several that are refused the first one. -/
theorem synthesize_arrayText :
    ((∃ b, synthesize (Json.arrayText texts) delimiter = .ok b) ↔
        ∀ text ∈ texts, ∃ b, Gives text b) ∧
      (∀ b, synthesize (Json.arrayText texts) delimiter = .ok b →
        ∃ alone, List.Forall₂ (fun text b => synthesize text delimiter = .ok b) texts alone ∧
          b = ⟨alone.flatMap Batch.statements, delimiter⟩) ∧
      ((∃ text ∈ texts, objectIn? text = none) →
        synthesize (Json.arrayText texts) delimiter = .error .invalidItem) ∧
      ∀ objects, List.Forall₂ (fun text o => objectIn? text = some o) texts objects →
        ∀ e, synthesize (Json.arrayText texts) delimiter = .error e →
          IsFirstRefusal 0 objects e := by
  refine ⟨?_, ?_, synthesize_undecoded delimiter items, ?_⟩
  · rw [forall_exists_iff]
    simp only [synthesize_eq_ok delimiter items]
    constructor
    · rintro ⟨b, batches, gives, -⟩
      exact ⟨batches, gives⟩
    · rintro ⟨batches, gives⟩
      exact ⟨_, batches, gives, rfl⟩
  · intro b h
    rcases (synthesize_eq_ok delimiter items).1 h with ⟨batches, gives, rfl⟩
    refine ⟨batches.map fun b => ⟨b.statements, delimiter⟩, ?_, ?_⟩
    · rw [List.forall₂_map_right_iff]
      refine ((List.forall₂_and_left texts batches).2 ⟨items, gives⟩).imp ?_
      rintro text b ⟨⟨ms, read, -⟩, given⟩
      exact synthesize_of_gives read given delimiter
    · rw [List.flatMap_map]
  · intro objects decoded e h
    rw [synthesize_decoded delimiter items decoded] at h
    cases written : statementsFrom 0 objects with
    | ok statements =>
        rw [written] at h
        cases h
    | error e' =>
        rw [written] at h
        cases h
        exact statementsFrom_eq_error written

end ArrayTexts

/-- The text of a key of a table. -/
def keyText : String :=
  " \x7b\x22object\x22:\x22constraint\x22,\x22table\x22:\x22T\x22," ++
    "\x22columns\x22:[\x22ID\x22]\x7d\n"

/-- The text of a new package. -/
def packageText : String :=
  "\x7b\x22object\x22:\x22package\x22,\x22name\x22:\x22P\x22\x7d"

def packageStatements : List String :=
  [ "create or alter package P\nas\nbegin\n \nend",
    "recreate package body P\nas\nbegin\n \nend" ]

theorem synthesize_arrayText_two :
    (∀ text ∈ [keyText, packageText], IsItem text) ∧
      synthesize (Json.arrayText [keyText, packageText]) "!" =
        .ok ⟨"ALTER TABLE T ADD PRIMARY KEY (ID)" :: packageStatements, "!"⟩ := by
  have items : ∀ text ∈ [keyText, packageText], IsItem text := by decide +kernel
  refine ⟨items, ?_⟩
  rcases synthesize_arrayText "!" items with ⟨complete, inOrder, -, -⟩
  have gives : ∀ text ∈ [keyText, packageText], ∃ b, Gives text b := by
    have key : objectIn? keyText = some (.constraint (.primaryKey "T" ["ID"])) := by
      decide +kernel
    have package : objectIn? packageText =
        some (.package (.new "P" Package.defaultPlaceholder)) := by
      decide +kernel
    refine List.forall_mem_cons.2 ⟨?_, List.forall_mem_singleton.2 ?_⟩
    · exact ⟨_, _, key, rfl⟩
    · exact ⟨_, _, package, rfl⟩
  rcases complete.2 gives with ⟨b, written⟩
  rcases inOrder b written with ⟨alone, each, rfl⟩
  rcases each with _ | ⟨first, _ | ⟨second, _ | _⟩⟩
  have key : synthesize keyText "!" = .ok ⟨["ALTER TABLE T ADD PRIMARY KEY (ID)"], "!"⟩ := by
    decide +kernel
  have package : synthesize packageText "!" = .ok ⟨packageStatements, "!"⟩ := by
    decide +kernel
  cases key.symm.trans first
  cases package.symm.trans second
  exact written

/-- Arrays inside each other, the innermost one empty. -/
def nestedArray : Nat → Value
  | 0 => .array []
  | levels + 1 => .array [nestedArray levels]

theorem isPlain_nestedArray (levels : Nat) : Json.IsPlain (levels + 1) (nestedArray levels) := by
  induction levels with
  | zero => exact .array (List.forall_mem_nil _)
  | succ levels ih => exact .array (List.forall_mem_singleton.2 ih)

theorem usable_nestedArray (levels : Nat) : (nestedArray levels).usable levels = false := by
  induction levels with
  | zero => rfl
  | succ levels ih => simp [nestedArray, Value.usable, Json.usableItems, ih]

/-- A package with a member that is no field, and has all arrays in it. -/
def nestedPackage (levels : Nat) : Value :=
  .object [("object", .text "package"), ("name", .text "P"), ("note", nestedArray levels)]

theorem isPlain_nestedPackage (levels : Nat) :
    Json.IsPlain (levels + 2) (nestedPackage levels) := by
  refine .object ?_
  intro member mem
  simp only [List.mem_cons, List.not_mem_nil, or_false] at mem
  rcases mem with rfl | rfl | rfl
  · exact .text _ _
  · exact .text _ _
  · exact isPlain_nestedArray levels

theorem usable_nestedPackage (levels : Nat) :
    (nestedPackage levels).usable (levels + 1) = false := by
  simp [nestedPackage, Value.usable, Json.usableMembers, usable_nestedArray]

theorem ofJson?_nestedPackage (levels : Nat) :
    DesignObject.ofJson? (nestedPackage levels).ordered =
      some (.package (.new "P" Package.defaultPlaceholder)) := by
  have sorted : (nestedPackage levels).ordered =
      .object [("name", .text "P"), ("note", (nestedArray levels).ordered),
        ("object", .text "package")] := by
    have first : "name" < "object" := by decide
    have second : "note" < "object" := by decide
    have third : ¬"note" < "name" := by decide
    simp [nestedPackage, Value.ordered, Json.orderedMembers, Json.sortMembers, Json.insertMember,
      first, second, third]
  rw [sorted]
  simp [DesignObject.ofJson?, Json.Members.required?, DesignObject.ofKind?]
  rfl

/-- A package that takes up all levels of nesting is read alone, and not in an array. -/
theorem synthesize_nestedPackage {levels : Nat} (limit : levels + 2 = Json.nestingLimit) :
    synthesize (Json.render (nestedPackage levels)) "^" = .ok ⟨packageStatements, "^"⟩ ∧
      synthesize (Json.arrayText [Json.render (nestedPackage levels)]) "^" =
        .error .malformed := by
  have plain := isPlain_nestedPackage levels
  rw [limit] at plain
  have read := plain.read?_render
  constructor
  · have decoded : objectIn? (Json.render (nestedPackage levels)) =
        some (.package (.new "P" Package.defaultPlaceholder)) := by
      rw [objectIn?, read]
      exact ofJson?_nestedPackage levels
    have written : (DesignObject.package (.new "P" Package.defaultPlaceholder)).toBatch =
        .ok (Batch.ofStatements packageStatements) := by
      decide +kernel
    exact synthesize_of_gives read ⟨_, decoded, written⟩ "^"
  · have deep : (nestedPackage levels).usable (Json.nestingLimit - 1) = false := by
      rw [← limit]
      exact usable_nestedPackage levels
    have malformed : Json.read? (Json.arrayText [Json.render (nestedPackage levels)]) = none := by
      rw [Json.read?_arrayText (.cons read .nil), List.all_cons, deep]
      rfl
    simp only [synthesize, malformed]

theorem nested_malformed :
    synthesize (Json.render (nestedPackage 125)) "^" = .ok ⟨packageStatements, "^"⟩ ∧
      synthesize (Json.arrayText [Json.render (nestedPackage 125)]) "^" = .error .malformed :=
  synthesize_nestedPackage rfl

end Command
end SchemaChange

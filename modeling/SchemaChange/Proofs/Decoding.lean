import SchemaChange.Proofs.Command
import SchemaChange.Proofs.Serialization
import SchemaChange.Proofs.User.TagOrder

/-!
# Proofs.Decoding — objects that are decoded from sorted members

The command that writes statements decodes an object from a tree with sorted members. Where no name
is given twice it is the object of the text itself, but for the tags of a user, which come out in
the order of their names; and so do the items in the option of the tags.

- `DesignObject.sortTags`              : the object with sorted tags
- `DesignObject.commutes_ofJson?`      : what is decoded from sorted members
- `DesignObject.toBatch_sortTags`      : what is written for it
- `Command.IsObjectText`               : texts of objects without a name that is given twice
- `Command.objectIn?_eq_map`           : both ways to decode such a text
- `Command.synthesize_of_isObjectText` : what the command comes to on it
-/

namespace SchemaChange

open Json (Value Members NamesOnce)

/-! ## Drafts -/

namespace Draft

variable {V A : Type} [Attribute A]

theorem ignoresOrder_marksOf? : Json.IgnoresOrder (marksOf? (A := A)) := by
  intro v h
  rw [marksOf?, marksOf?, Json.ignoresOrder_textOf? h]

/-- What sorting does to the values it does to both sides of a draft. -/
theorem commutes_ofJson? {decode? : Value → Option V} {f : V → V}
    (commutes : Json.Commutes f decode?) (default : V) (fixed : f default = default) :
    Json.Commutes (mapValues f) (ofJson? (A := A) default decode?) := by
  intro v once
  cases v with
  | object ms =>
      have orders := Json.ordersFields_sortMembers once
      simp only [Value.ordered, ofJson?, Json.membersOf?_object, Option.bind_some, ofMembers?,
        Members.field?_commutes orders _ commutes fixed,
        Members.required?_commutes orders _ commutes, Members.field?_ordered orders,
        ignoresOrder_marksOf?, Json.ignoresOrder_boolOf?, Option.bind_eq_bind, Option.pure_def,
        Option.bind_map, Option.map_bind, Option.map_some, Function.comp_def]
      rfl
  | _ => rfl

end Draft

/-! ## Objects -/

namespace DesignObject

/-- The object with sorted tags, if it has any. -/
def sortTags : DesignObject → DesignObject
  | .user d => .user d.sortTags
  | .column d => .column d
  | .constraint c => .constraint c
  | .package p => .package p

theorem kindWord_sortTags (o : DesignObject) : o.sortTags.kindWord = o.kindWord := by
  cases o <;> rfl

theorem commutes_ofKind? (kind : String) : Json.Commutes sortTags (ofKind? kind) := by
  intro v once
  unfold ofKind?
  split
  · -- No record of a column has a place for tags.
    have draft := Draft.commutes_ofJson? (A := Column.Part)
      Column.ignoresOrder_ofJson?.commutes {} rfl once
    rw [draft, Option.map_map, Option.map_map]
    rfl
  · rw [Constraint.ignoresOrder_ofJson? once, Option.map_map]
    rfl
  · have draft := Draft.commutes_ofJson? (A := User.Part)
      User.commutes_ofJson? {} User.sortTags_default once
    rw [draft, Option.map_map, Option.map_map]
    rfl
  · rw [Package.ignoresOrder_ofJson? once, Option.map_map]
    rfl
  · rfl

theorem ofJson?_object (ms : Members) :
    ofJson? (.object ms) =
      (ms.required? "object" Json.textOf?).bind fun kind => ofKind? kind (.object ms) :=
  rfl

theorem commutes_ofJson? : Json.Commutes sortTags ofJson? := by
  intro v once
  cases v with
  | object ms =>
      have word := Members.required?_ordered (Json.ordersFields_sortMembers once) "object"
        Json.ignoresOrder_textOf?
      rw [Value.ordered, ofJson?_object, ofJson?_object, word, Option.map_bind]
      congr 1
      funext kind
      exact commutes_ofKind? kind once
  | array items =>
      cases items with
      | nil => rfl
      | cons first values =>
          cases first with
          | text kind =>
              have each := List.forall_mem_of_forall_mem_cons once.item
              exact commutes_ofKind? kind (.array each)
          | _ => rfl
  | _ => rfl

/-! ### Statements -/

/-- What the option of the tags lists, if there is one. -/
def tagItems : DesignObject → List String
  | .user d => d.allTagItems
  | .column _ => []
  | .constraint _ => []
  | .package _ => []

theorem perm_tagItems (o : DesignObject) : o.tagItems.Perm o.sortTags.tagItems := by
  cases o with
  | user d => exact d.perm_allTagItems
  | column d => exact List.Perm.refl []
  | constraint c => exact List.Perm.refl []
  | package p => exact List.Perm.refl []

/-- Only the statements of users tell that their tags were sorted. -/
theorem toBatch_sortTags (o : DesignObject) :
    SameOutcome (SameStatements o.tagItems o.sortTags.tagItems) o.toBatch o.sortTags.toBatch := by
  cases o with
  | user d => exact d.toBatch_sortTags
  | column d => exact .refl fun b => ⟨SameUpToTags.forall₂_same _, rfl⟩
  | constraint c => exact .refl fun b => ⟨SameUpToTags.forall₂_same _, rfl⟩
  | package p => exact .refl fun b => ⟨SameUpToTags.forall₂_same _, rfl⟩

end DesignObject

/-! ## Texts -/

namespace Command

open Script (Batch)

/-- If the text is JSON at all it is an object, and no object in it gives a name twice. Its literals
need not stand for values, and its nesting is not bounded. -/
def IsObjectText (text : String) : Prop :=
  ∀ v, Json.outline? text = some v → ∃ ms, v = .object ms ∧ NamesOnce v

theorem exists_object_of_read {text : String} (h : IsObjectText text) {v : Value}
    (read : Json.read? text = some v) : ∃ ms, v = .object ms ∧ NamesOnce v :=
  h v (Option.filter_eq_some_iff.1 read).1

theorem objectIn?_eq_map {text : String} (h : IsObjectText text) :
    objectIn? text = (decode? text).map DesignObject.sortTags := by
  rw [objectIn?, decode?]
  cases read : Json.read? text with
  | none => rfl
  | some v =>
      rcases exists_object_of_read h read with ⟨ms, -, once⟩
      exact DesignObject.commutes_ofJson? once

theorem synthesize_of_decode?_eq_none {text : String} (h : IsObjectText text)
    (undecoded : decode? text = none) (delimiter : String) :
    synthesize text delimiter = .error .malformed ∨
      synthesize text delimiter = .error .invalidObject := by
  -- Either the text has no tree, or the tree is that of no object.
  cases read : Json.read? text with
  | none =>
      refine .inl ?_
      simp only [synthesize, read]
  | some v =>
      refine .inr ?_
      rcases exists_object_of_read h read with ⟨ms, rfl, once⟩
      have sorted := DesignObject.commutes_ofJson? once
      rw [decode?, read, Option.bind_some] at undecoded
      rw [undecoded, Option.map_none] at sorted
      have single : objectsOf (Value.object ms).ordered = .error .invalidObject := by
        have found : DesignObject.ofJson? (.object (Json.sortMembers (Json.orderedMembers ms))) =
            none := sorted
        rw [Value.ordered, objectsOf, found]
        intro items array
        cases array
      simp only [synthesize, read, single]
      rfl

/-- Where no name is given twice, the command decodes the object of the text, with its tags sorted.
It is refused for the same reason, or the statements are those of the object, but that the items in
the option of the tags have moved. -/
theorem synthesize_of_isObjectText (text delimiter : String) (h : IsObjectText text) :
    objectIn? text = (decode? text).map DesignObject.sortTags ∧
      (decode? text = none →
        synthesize text delimiter = .error .malformed ∨
          synthesize text delimiter = .error .invalidObject) ∧
      ∀ o, decode? text = some o →
        (∀ r, synthesize text delimiter = .error (.refused o.kindWord 0 r) ↔
          o.toBatch = .error r) ∧
        ∀ b, o.toBatch = .ok b → ∃ statements,
          synthesize text delimiter = .ok ⟨statements, delimiter⟩ ∧
          List.Forall₂ (SameUpToTags o.tagItems o.sortTags.tagItems) b.statements statements ∧
          o.tagItems.Perm o.sortTags.tagItems := by
  have decoded := objectIn?_eq_map h
  refine ⟨decoded, fun undecoded => synthesize_of_decode?_eq_none h undecoded delimiter, ?_⟩
  intro o own
  rw [own, Option.map_some] at decoded
  -- The command writes the statements of the sorted object.
  rcases Option.bind_eq_some_iff.1 own with ⟨v, read, -⟩
  rcases exists_object_of_read h read with ⟨ms, rfl, -⟩
  have command := synthesize_of_objectIn read decoded delimiter
  have outcome := o.toBatch_sortTags
  cases written : o.toBatch with
  | error r =>
      rw [written] at outcome
      rw [statementsFrom_of_error outcome.of_error, o.kindWord_sortTags] at command
      rw [command]
      constructor
      · intro r'
        simp [Except.map]
      · intro b h
        cases h
  | ok b =>
      rw [written] at outcome
      rcases outcome.of_ok with ⟨other, written', same⟩
      rw [statementsFrom_of_ok written'] at command
      rw [command]
      constructor
      · intro r
        simp [Except.map]
      · intro b' h
        cases h
        exact ⟨other.statements, rfl, same.statements, o.perm_tagItems⟩

/-- An existing user with two new tags, the second one of which is the first by name. -/
def taggedUser : Value :=
  .object
    [ ("object", .text "user"),
      ("existing", .bool true),
      ("dirty", .text "TAGS"),
      ("current", .object
        [ ("tags", .object [("B", .text "1"), ("A", .text "2")]),
          ("name", .text "U") ]) ]

theorem read?_taggedUser : Json.read? (Json.render taggedUser) = some taggedUser := by
  have tags : Json.IsPlain 125 (.object [("B", .text "1"), ("A", .text "2")]) :=
    .object (by simp)
  have current : Json.IsPlain 126 (.object
      [("tags", .object [("B", .text "1"), ("A", .text "2")]), ("name", .text "U")]) :=
    .object (by simp [tags])
  have plain : Json.IsPlain Json.nestingLimit taggedUser := .object (by simp [current])
  exact plain.read?_render

theorem isObjectText_taggedUser : IsObjectText (Json.render taggedUser) := by
  intro v outline
  have own := (Option.filter_eq_some_iff.1 read?_taggedUser).1
  cases own.symm.trans outline
  have tags : NamesOnce (.object [("B", .text "1"), ("A", .text "2")]) :=
    .object (by decide) (by simp [NamesOnce.text])
  have current : NamesOnce (.object
      [("tags", .object [("B", .text "1"), ("A", .text "2")]), ("name", .text "U")]) :=
    .object (by decide) (by simp [NamesOnce.text, tags])
  exact ⟨_, rfl, .object (by decide) (by simp [NamesOnce.text, NamesOnce.bool, current])⟩

/-- The draft in the text, with its tags in the given order. -/
def taggedDraft (tags : List (String × String)) : UserDraft :=
  { initial := {}
    current := { name := "U", tags := .ofList tags }
    marks := Marks.empty.insert .tags
    existing := true }

/-- The text of the user has the tags in the order in which they are given, and the command in the
order of their names. -/
theorem synthesize_taggedUser :
    let text := Json.render taggedUser
    let given := DesignObject.user (taggedDraft [("B", "1"), ("A", "2")])
    let sorted := DesignObject.user (taggedDraft [("A", "2"), ("B", "1")])
    IsObjectText text ∧ decode? text = some given ∧ given.sortTags = sorted ∧
      given.toBatch = .ok ⟨["ALTER USER U SET TAGS (B = '1', A = '2')"], "^"⟩ ∧
      synthesize text ";" = .ok ⟨["ALTER USER U SET TAGS (A = '2', B = '1')"], ";"⟩ ∧
      List.Forall₂ (SameUpToTags ["B = '1'", "A = '2'"] ["A = '2'", "B = '1'"])
        ["ALTER USER U SET TAGS (B = '1', A = '2')"]
        ["ALTER USER U SET TAGS (A = '2', B = '1')"] := by
  intro text given sorted
  rcases synthesize_of_isObjectText text ";" isObjectText_taggedUser with ⟨decoded, -, each⟩
  have own : decode? text = some given := by decide +kernel
  have command : objectIn? text = some sorted := by decide +kernel
  have moved : given.sortTags = sorted := by
    rw [own, command] at decoded
    exact (Option.some.inj decoded).symm
  have written : given.toBatch = .ok ⟨["ALTER USER U SET TAGS (B = '1', A = '2')"], "^"⟩ := by
    decide +kernel
  have whole : synthesize text ";" =
      .ok ⟨["ALTER USER U SET TAGS (A = '2', B = '1')"], ";"⟩ := by
    decide +kernel
  rcases (each given own).2 _ written with ⟨statements, synthesized, same, -⟩
  cases whole.symm.trans synthesized
  rw [moved] at same
  have items : given.tagItems = ["B = '1'", "A = '2'"] := by decide +kernel
  have others : sorted.tagItems = ["A = '2'", "B = '1'"] := by decide +kernel
  rw [items, others] at same
  exact ⟨isObjectText_taggedUser, own, moved, written, whole, same⟩

end Command
end SchemaChange

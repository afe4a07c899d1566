import SchemaChange.Command
import SchemaChange.Proofs.Column.Json
import SchemaChange.Proofs.Constraint.Json
import SchemaChange.Proofs.Marks
import SchemaChange.Proofs.Package.Json
import SchemaChange.Proofs.User.Json

/-!
# Proofs.Serialization — objects that are decoded as they were written

Whatever is written for an object is decoded to that object without passwords, so writing it once
more changes nothing.

- `Draft.ofJson?_toMembers`        : drafts, with all their marks
- `DesignObject.withPasswords`     : an object with other passwords
- `DesignObject.IsSerialization`   : what is asked of a way to write objects
- `DesignObject.isSerialization_render_and_renderPretty` : both ways are such
-/

namespace SchemaChange

open Json (Value Members IsPlain)

/-! ## Drafts -/

namespace Draft

variable {V A : Type} [Attribute A]

def mapValues (f : V → V) (d : Draft V A) : Draft V A :=
  { d with initial := f d.initial, current := f d.current }

theorem marksOf?_render [ReadableAttribute A] (m : Marks A) :
    marksOf? (.text m.render) = some m := by
  rw [marksOf?, Json.textOf?_text, Option.bind_some, Marks.parse?_render]

variable {encode : V → Value}

/-- What decoding does to the values it does to both sides of a draft. -/
theorem ofJson?_toMembers [ReadableAttribute A] {decode? : Value → Option V} {f : V → V}
    (decoded : ∀ v, decode? (encode v) = some (f v)) (default : V) (kind : Value)
    (d : Draft V A) :
    ofJson? default decode? (.object (("object", kind) :: d.toMembers encode)) =
      some (d.mapValues f) := by
  simp [ofJson?, ofMembers?, toMembers, Members.field?, Members.required?, decoded, marksOf?_render,
    mapValues]

theorem isPlain_toMembers {levels : Nat} (plain : ∀ v, IsPlain levels (encode v))
    (d : Draft V A) : ∀ member ∈ d.toMembers encode, IsPlain levels member.2 := by
  simp [toMembers, plain]

end Draft

/-! ## Objects -/

namespace DesignObject

/-- The object with other passwords, if it has any. -/
def withPasswords (initial current : Option String) : DesignObject → DesignObject
  | .user d =>
      .user { d with
        initial := d.initial.withPassword initial
        current := d.current.withPassword current }
  | .column d => .column d
  | .constraint c => .constraint c
  | .package p => .package p

/-- No password is written. -/
theorem toJson_withPasswords (initial current : Option String) (o : DesignObject) :
    (o.withPasswords initial current).toJson = o.toJson := by
  cases o with
  | user d =>
      simp only [withPasswords, toJson, kindWord, bodyMembers, Draft.toMembers,
        User.toJson_withPassword]
  | column d => rfl
  | constraint c => rfl
  | package p => rfl

/-- No field of a record has the name of the kind's member. -/
theorem given_bodyMembers (o : DesignObject) : o.bodyMembers.given "object" = [] := by
  cases o <;> simp [bodyMembers, Draft.toMembers, Constraint.toMembers, Package.toMembers]

theorem ofJson?_toJson (o : DesignObject) :
    ofJson? o.toJson = some (o.withPasswords none none) := by
  have kind : ofJson? o.toJson =
      ofKind? o.kindWord (.object (("object", .text o.kindWord) :: o.bodyMembers)) := by
    simp [ofJson?, toJson, Members.required?, given_bodyMembers]
  rw [kind]
  cases o with
  | column d =>
      have body := Draft.ofJson?_toMembers Column.ofJson?_toJson {} (.text "column") d
      exact congrArg (Option.map DesignObject.column) body
  | constraint c =>
      have body := Constraint.ofJson?_toMembers (.text "constraint") c
      exact congrArg (Option.map DesignObject.constraint) body
  | user d =>
      have body := Draft.ofJson?_toMembers User.ofJson?_toJson {} (.text "user") d
      exact congrArg (Option.map DesignObject.user) body
  | package p =>
      have body := Package.ofJson?_toMembers (.text "package") p
      exact congrArg (Option.map DesignObject.package) body

/-- An object whose record is no draft is also decoded from its kind and the values of its
fields. -/
theorem ofJson?_values :
    (∀ c : Constraint,
      ofJson? (.array (.text "constraint" :: c.toMembers.map Prod.snd)) = some (.constraint c)) ∧
    ∀ p : Package,
      ofJson? (.array (.text "package" :: p.toMembers.map Prod.snd)) = some (.package p) := by
  constructor
  · intro c
    exact congrArg (Option.map DesignObject.constraint) c.ofJson?_values
  · intro p
    exact congrArg (Option.map DesignObject.package) p.ofJson?_values

theorem isPlain_toJson (levels : Nat) (o : DesignObject) : IsPlain (levels + 3) o.toJson := by
  refine .object (List.forall_mem_cons.2 ⟨.text _ _, ?_⟩)
  cases o with
  | column d => exact d.isPlain_toMembers (Column.isPlain_toJson levels)
  | constraint c => exact c.isPlain_toMembers (levels + 1)
  | user d => exact d.isPlain_toMembers (User.isPlain_toJson levels)
  | package p => exact p.isPlain_toMembers (levels + 2)

/-! ## Texts -/

/-- What is asked of a way to write objects. -/
structure IsSerialization (encode : DesignObject → String) : Prop where
  /-- The text of an object is decoded to the object without its passwords. -/
  decoded : ∀ o, Command.decode? (encode o) = some (o.withPasswords none none)
  /-- The text of an object does not tell its passwords. -/
  independent : ∀ o initial current, encode (o.withPasswords initial current) = encode o
  /-- What is decoded from a text is written in the same way ever after. -/
  stable : ∀ text o, Command.decode? text = some o →
    (Command.decode? (encode o)).map encode = some (encode o)

theorem isSerialization_of_read {write : Value → String}
    (read : ∀ v, IsPlain Json.nestingLimit v → Json.read? (write v) = some v) :
    IsSerialization fun o => write o.toJson := by
  have decoded : ∀ o : DesignObject,
      Command.decode? (write o.toJson) = some (o.withPasswords none none) := by
    intro o
    -- An object takes up three levels of the 127.
    rw [Command.decode?, read o.toJson (o.isPlain_toJson 124), Option.bind_some, ofJson?_toJson]
  constructor
  · exact decoded
  · intro o initial current
    simp only [toJson_withPasswords]
  · intro text o _
    rw [decoded, Option.map_some]
    simp only [toJson_withPasswords]

/-- On one line or on many, the text of an object is decoded to the object without its passwords. -/
theorem isSerialization_render_and_renderPretty :
    IsSerialization (fun o => Json.render o.toJson) ∧
      IsSerialization (fun o => Json.renderPretty o.toJson) := by
  constructor
  · exact isSerialization_of_read fun v plain => plain.read?_render
  · exact isSerialization_of_read fun v plain => plain.read?_renderPretty

end DesignObject
end SchemaChange

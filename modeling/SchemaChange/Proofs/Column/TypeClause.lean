import SchemaChange.Column.Basic
import SchemaChange.Proofs.Sql.Value
import SchemaChange.Proofs.Text.UpperCase

/-!
# Proofs.Column.TypeClause — types as statements write them

- `Column.isTrimmed_typeClause` : a type has no blank at either end, and is not empty
-/

namespace SchemaChange

open Text (IsTrimmed StartsFull EndsFull)

/-! ## Type names -/

theorem Sql.TypeCode.isTrimmed_name {t : Sql.TypeCode} {name : String}
    (h : t.name? = some name) : IsTrimmed name.toList ∧ name ≠ "" := by
  -- Whatever the code, its name stands in the table.
  have table : ∀ entry ∈ names, Text.trim entry.2 = entry.2 ∧ entry.2 ≠ "" := by
    decide +kernel
  rcases List.lookup_eq_some_iff.1 h with ⟨before, behind, entry, -⟩
  rcases table (t, name) (by simp [entry]) with ⟨trimmed, nonempty⟩
  exact ⟨Text.trim_eq_self_iff.1 trimmed, nonempty⟩

theorem endsFull_optionalClause (leadIn : String) (text : Option String) :
    EndsFull (optionalClause leadIn (Text.nonBlank? text)).toList := by
  cases found : Text.nonBlank? text with
  | none =>
      intro c hc
      cases hc
  | some text =>
      rcases Text.nonBlank?_eq_some found with ⟨trimmed, nonempty⟩
      rw [optionalClause, String.toList_append]
      exact (Text.trim_eq_self_iff.1 trimmed).last.behind (by simpa using nonempty) _

namespace Column

theorem isTrimmed_baseType {c : Column} {base : String} (h : c.baseType? = some base) :
    IsTrimmed base.toList ∧ base ≠ "" := by
  unfold baseType? at h
  split at h
  · exact Sql.TypeCode.isTrimmed_name h
  · rename_i full
    have upper : Text.upperCase (Text.trim c.typeName) = base := Option.some.inj h
    have nonempty : Text.trim c.typeName ≠ "" :=
      Text.isBlank_eq_false_iff.1 (by simpa using full)
    rw [← upper]
    exact ⟨Text.isTrimmed_upperCase (Text.isTrimmed_trim c.typeName),
      Text.upperCase_ne_empty nonempty⟩

/-! ## Whole types -/

/-- Between a type name and its closing parenthesis anything may stand. -/
theorem isTrimmed_parenthesised {base : String} (h : IsTrimmed base.toList) (nonempty : base ≠ "")
    (inner : String) : IsTrimmed (base ++ inner ++ ")").toList := by
  have last : EndsFull ")".toList := by
    intro c hc
    have : ')' = c := by simpa using hc
    subst this
    decide
  rw [String.append_assoc, String.toList_append, String.toList_append]
  exact h.append (by simpa using nonempty) (last.behind (by simp) _)

theorem isTrimmed_sizedType (c : Column) {base : String} (h : IsTrimmed base.toList)
    (nonempty : base ≠ "") : IsTrimmed (c.sizedType base).toList := by
  unfold sizedType
  split
  · -- A length in parentheses.
    cases c.size with
    | none => exact h
    | some size =>
        have sized := isTrimmed_parenthesised h nonempty ("(" ++ Text.decimalInt size.toInt)
        simpa only [String.append_assoc] using sized
  · split
    · -- Digits, and a scale behind them.
      cases c.size with
      | none => exact h
      | some digits =>
          cases c.scale with
          | none =>
              have sized := isTrimmed_parenthesised h nonempty ("(" ++ Text.decimalInt digits.toInt)
              simpa only [String.append_assoc] using sized
          | some scale =>
              have sized := isTrimmed_parenthesised h nonempty
                ("(" ++ Text.decimalInt digits.toInt ++ ", " ++ Text.decimalInt scale.toInt)
              simpa only [String.append_assoc] using sized
    · split
      · -- A BLOB is written anew, with its sub-type.
        have lead : Script.IsLead "BLOB SUB_TYPE " := Script.isLead_ofList _ rfl
        exact (lead.word (Sql.isWord_decimalInt c.blobSubtype.toInt)).trimmed
      · exact h

theorem sizedType_ne_empty (c : Column) {base : String} (nonempty : base ≠ "") :
    c.sizedType base ≠ "" := by
  unfold sizedType
  split
  · cases c.size <;> simp [nonempty]
  · split
    · cases c.size <;> cases c.scale <;> simp [nonempty]
    · split
      · simp
      · exact nonempty

theorem isTrimmed_typeClause {c : Column} {clause : String} (h : c.typeClause? = some clause) :
    IsTrimmed clause.toList ∧ clause ≠ "" := by
  rcases Option.map_eq_some_iff.1 h with ⟨base, found, rfl⟩
  rcases isTrimmed_baseType found with ⟨trimmed, nonempty⟩
  have sized := isTrimmed_sizedType c trimmed nonempty
  have sizedFull := sizedType_ne_empty c nonempty
  have last : EndsFull (if c.takesCharset base then
      optionalClause " CHARACTER SET " (Text.nonBlank? c.charset) ++
        optionalClause " COLLATE " (Text.nonBlank? c.collate) else "").toList := by
    split
    · rw [String.toList_append]
      exact (endsFull_optionalClause _ c.charset).append (endsFull_optionalClause _ c.collate)
    · intro x hx
      cases hx
  constructor
  · rw [String.toList_append]
    exact sized.append (by simpa using sizedFull) last
  · simp [sizedFull]

end Column
end SchemaChange

import SchemaChange.Proofs.Script.Word
import SchemaChange.Sql.Identifier

/-!
# Proofs.Sql.Identifier — names cannot cut a script

However a name is chosen, its written form is read from plain text to plain text. Between the two
halves of a doubled quote reading is in plain text too, so a delimiter must not begin with a quote;
nor may it begin with a character of bare names.

- `reads_identifier`       : under such a delimiter, whatever follows, nothing in a name is cut
- `isWord_identifier`      : a written name may stand in a statement
- `isWord_identifierList`  : so may a list of them
- `identifier_append_cancel` : a written name tells which name it is and where it ends
- `intercalate_append_cancel` : a list of names tells which names are in it and where it ends
-/

namespace SchemaChange
namespace Sql

open Script (Reads Token Region IsWord)

/-! ## Characters of bare names -/

theorem toNat_of_isBareChar {c : Char} (h : isBareChar c = true) :
    (65 ≤ c.toNat ∧ c.toNat ≤ 90) ∨ (48 ≤ c.toNat ∧ c.toNat ≤ 57) ∨ c.toNat = 95 ∨
      c.toNat = 36 := by
  have upper : c.isUpper = decide (65 ≤ c.val ∧ c.val ≤ 90) := rfl
  have digit : c.isDigit = (decide (48 ≤ c.val) && decide (c.val ≤ 57)) := rfl
  simp only [isBareChar, upper, digit, Bool.or_eq_true, Bool.and_eq_true, decide_eq_true_eq,
    beq_iff_eq, UInt32.le_iff_toNat_le] at h
  rcases h with ((letter | number) | rfl) | rfl
  · exact .inl letter
  · exact .inr (.inl number)
  · exact .inr (.inr (.inl rfl))
  · exact .inr (.inr (.inr rfl))

theorem isSpace_of_isBareChar {c : Char} (h : isBareChar c = true) : Text.isSpace c = false := by
  have := toNat_of_isBareChar h
  simp only [Text.isSpace, Bool.or_eq_false_iff, Bool.and_eq_false_iff, decide_eq_false_iff_not,
    beq_eq_false_iff_ne]
  omega

theorem bare_of_needsQuotes {name : String} (h : needsQuotes name = false) :
    name.toList ≠ [] ∧ ∀ c ∈ name.toList, isBareChar c = true := by
  unfold needsQuotes at h
  cases hname : name.toList with
  | nil => simp [hname] at h
  | cons c cs =>
      refine ⟨List.cons_ne_nil c cs, ?_⟩
      simp only [hname, Bool.or_eq_false_iff, Bool.not_eq_false', List.all_eq_true] at h
      exact h.1.2

/-! ## Reading a name -/

/-- Under the delimiter no name is cut. -/
structure SparesNames (delimiter : List Char) : Prop where
  nonempty : delimiter ≠ []
  head : ∀ c, delimiter.head? = some c → c ≠ '\x22' ∧ isBareChar c = false

section Reading

variable {delimiter : List Char} (hd : SparesNames delimiter)

include hd

theorem SparesNames.not_prefix {c : Char} (h : c = '\x22' ∨ isBareChar c = true)
    (cs : List Char) : ¬delimiter <+: c :: cs := by
  intro found
  rcases List.exists_cons_of_ne_nil hd.nonempty with ⟨f, fs, rfl⟩
  rw [List.cons_prefix_cons] at found
  have spared := hd.head f rfl
  rw [found.1] at spared
  rcases h with quote | bare
  · exact spared.1 quote
  · simp [spared.2] at bare

theorem reads_bare {cs : List Char} (h : ∀ c ∈ cs, isBareChar c = true) (following : List Char) :
    Reads delimiter .plain cs following .plain := by
  induction cs with
  | nil => exact .done _ _
  | cons c cs ih =>
      have bare := h c List.mem_cons_self
      have token : Token .plain [c] (cs ++ following).head? .plain := by
        refine .plain ?_ ?_ ?_ ?_
        · rintro rfl
          simp [isBareChar] at bare
        · rintro rfl
          simp [isBareChar] at bare
        · rintro ⟨rfl, -⟩
          simp [isBareChar] at bare
        · rintro ⟨rfl, -⟩
          simp [isBareChar] at bare
      exact .cons (fun _ => hd.not_prefix (.inr bare) _) token
        (ih fun d hd => h d (List.mem_cons_of_mem _ hd))

/-- Behind the opening quote. A doubled quote closes the name and opens it again. -/
theorem reads_doubleQuotes (cs following : List Char) :
    Reads delimiter .quotedName (doubleQuotes cs ++ ['\x22']) following .plain := by
  have notPlain : ∀ text : List Char, Region.quotedName = .plain → ¬delimiter <+: text := by
    intro _ plain
    cases plain
  induction cs with
  | nil => exact .cons (notPlain _) (.closeName _) (.done _ _)
  | cons c cs ih =>
      by_cases quote : c = '\x22'
      · -- Between the two quotes the text is plain, and `hd` keeps the delimiter away from there.
        subst quote
        have reopened : Reads delimiter .plain ('\x22' :: (doubleQuotes cs ++ ['\x22']))
            following .plain :=
          .cons (fun _ => hd.not_prefix (.inl rfl) _) (.openName _) ih
        exact .cons (notPlain _) (.closeName _) reopened
      · have single : doubleQuotes (c :: cs) = c :: doubleQuotes cs := by
          simp [doubleQuotes, quote]
        rw [single, List.cons_append]
        exact .cons (notPlain _) (.name _ quote) ih

theorem reads_identifier (name : String) (following : List Char) :
    Reads delimiter .plain (identifier name).toList following .plain := by
  cases quotes : needsQuotes name with
  | false =>
      rw [identifier, quotes]
      exact reads_bare hd (bare_of_needsQuotes quotes).2 following
  | true =>
      rw [identifier, quotes, if_pos rfl, delimited, String.toList_ofList]
      exact .cons (fun _ => hd.not_prefix (.inl rfl) _) (.openName _)
        (reads_doubleQuotes hd name.toList following)

end Reading

/-! ## Names in statements -/

theorem sparesNames_default : SparesNames ['^'] where
  nonempty := List.cons_ne_nil _ _
  head := by
    intro c hc
    have : '^' = c := by simpa using hc
    subst this
    decide

theorem isWord_of_bare {s : String} (nonempty : s.toList ≠ [])
    (h : ∀ c ∈ s.toList, isBareChar c = true) : IsWord s where
  closes := reads_bare sparesNames_default h []
  trimmed :=
    { head := fun c hc => isSpace_of_isBareChar (h c (List.mem_of_head? hc))
      last := fun c hc => isSpace_of_isBareChar (h c (List.mem_of_getLast? hc)) }
  nonempty := nonempty

theorem isTrimmed_delimited (name : String) : Text.IsTrimmed (delimited name).toList := by
  have quote : Text.isSpace '\x22' = false := by decide
  rw [delimited, String.toList_ofList, List.cons_append]
  exact Text.isTrimmed_between quote quote (doubleQuotes name.toList)

theorem isWord_identifier (name : String) : IsWord (identifier name) := by
  have closes := reads_identifier sparesNames_default name []
  cases quotes : needsQuotes name with
  | false =>
      rw [identifier, quotes]
      have bare := bare_of_needsQuotes quotes
      exact isWord_of_bare bare.1 bare.2
  | true =>
      rw [identifier, quotes, if_pos rfl] at closes ⊢
      exact ⟨closes, isTrimmed_delimited name, by simp [delimited]⟩

theorem isWord_identifierList {names : List String} (h : names ≠ []) :
    IsWord (identifierList names) := by
  unfold identifierList
  refine Script.isWord_intercalate (Script.isJoint_ofList _ rfl) ?_ (by simpa using h)
  intro s hs
  rcases List.mem_map.1 hs with ⟨name, -, rfl⟩
  exact isWord_identifier (Text.trim name)

/-! ## Where a name ends -/

/-- What cannot go on with a name: it begins neither with a double quote nor with a character of
bare names. -/
def EndsName (following : List Char) : Prop :=
  ∀ c, following.head? = some c → c ≠ '\x22' ∧ isBareChar c = false

theorem endsName_of_head {text : List Char} {c : Char} (h : text.head? = some c)
    (ends : c ≠ '\x22' ∧ isBareChar c = false) : EndsName text := by
  intro d hd
  rw [h, Option.some.injEq] at hd
  exact hd ▸ ends

theorem endsName_of_blank {text : List Char} (h : text.head? = some ' ') : EndsName text :=
  endsName_of_head h (by decide)

theorem identifier_of_bare {name : String} (h : needsQuotes name = false) :
    identifier name = name := by
  rw [identifier, h]
  rfl

theorem toList_identifier_of_quoted {name : String} (h : needsQuotes name = true) :
    (identifier name).toList = '\x22' :: (doubleQuotes name.toList ++ ['\x22']) := by
  rw [identifier, if_pos h, delimited, String.toList_ofList, List.cons_append]

theorem doubleQuotes_cons (c : Char) (cs : List Char) :
    doubleQuotes (c :: cs) =
      c :: if c = '\x22' then '\x22' :: doubleQuotes cs else doubleQuotes cs := by
  by_cases quote : c = '\x22' <;> simp [doubleQuotes, quote]

/-- A quote that closes a name is not the first half of a doubled one. -/
theorem EndsName.ne_doubleQuotes {x : List Char} (h : EndsName x) (d : Char)
    (ds rest : List Char) : '\x22' :: x ≠ doubleQuotes (d :: ds) ++ rest := by
  intro same
  rw [doubleQuotes_cons, List.cons_append, List.cons.injEq] at same
  rcases same with ⟨rfl, same⟩
  rw [if_pos rfl, List.cons_append] at same
  exact (h '\x22' (by rw [same]; rfl)).1 rfl

section Cancel

variable {cs ds x y : List Char} (hx : EndsName x) (hy : EndsName y)

include hx hy

/-- Behind the opening quote: the first double quote that is not written twice closes the name. -/
theorem doubleQuotes_append_cancel
    (h : doubleQuotes cs ++ '\x22' :: x = doubleQuotes ds ++ '\x22' :: y) : cs = ds ∧ x = y := by
  induction cs generalizing ds with
  | nil =>
      cases ds with
      | nil => exact ⟨rfl, (List.cons.inj h).2⟩
      | cons d ds => exact absurd h (hx.ne_doubleQuotes d ds _)
  | cons c cs ih =>
      cases ds with
      | nil => exact absurd h.symm (hy.ne_doubleQuotes c cs _)
      | cons d ds =>
          rw [doubleQuotes_cons, doubleQuotes_cons, List.cons_append, List.cons_append,
            List.cons.injEq] at h
          rcases h with ⟨rfl, h⟩
          have later : doubleQuotes cs ++ '\x22' :: x = doubleQuotes ds ++ '\x22' :: y := by
            by_cases quote : c = '\x22'
            · simpa [quote] using h
            · simpa [quote] using h
          rcases ih later with ⟨rfl, rest⟩
          exact ⟨rfl, rest⟩

theorem bare_append_cancel (hcs : ∀ c ∈ cs, isBareChar c = true)
    (hds : ∀ c ∈ ds, isBareChar c = true) (h : cs ++ x = ds ++ y) : cs = ds ∧ x = y := by
  -- A character of bare names cannot stand where the other name has ended.
  have ended : ∀ {z : List Char} {c : Char} {cs : List Char}, EndsName z →
      isBareChar c = true → z ≠ c :: cs := by
    rintro z c cs ends bare rfl
    have := (ends c rfl).2
    rw [bare] at this
    cases this
  induction cs generalizing ds with
  | nil =>
      cases ds with
      | nil => exact ⟨rfl, h⟩
      | cons d ds => exact absurd h (ended hx (hds d List.mem_cons_self))
  | cons c cs ih =>
      cases ds with
      | nil => exact absurd h.symm (ended hy (hcs c List.mem_cons_self))
      | cons d ds =>
          rw [List.cons_append, List.cons_append, List.cons.injEq] at h
          rcases h with ⟨rfl, h⟩
          rcases ih (fun x hx => hcs x (List.mem_cons_of_mem _ hx))
            (fun x hx => hds x (List.mem_cons_of_mem _ hx)) h with ⟨rfl, rest⟩
          exact ⟨rfl, rest⟩

/-- A written name tells which name it is and where it ends. -/
theorem identifier_append_cancel {a b : String}
    (h : (identifier a).toList ++ x = (identifier b).toList ++ y) : a = b ∧ x = y := by
  -- A bare name does not begin like one between quotes.
  have mixed : ∀ {a b : String} {x y : List Char}, needsQuotes a = false →
      needsQuotes b = true → (identifier a).toList ++ x ≠ (identifier b).toList ++ y := by
    intro a b x y ha hb h
    rcases bare_of_needsQuotes ha with ⟨nonempty, bare⟩
    rcases List.exists_cons_of_ne_nil nonempty with ⟨c, cs, hcs⟩
    rw [identifier_of_bare ha, hcs, toList_identifier_of_quoted hb, List.cons_append,
      List.cons_append, List.cons.injEq] at h
    have := bare c (by rw [hcs]; exact List.mem_cons_self)
    rw [h.1] at this
    simp [isBareChar] at this
  cases ha : needsQuotes a with
  | false =>
      cases hb : needsQuotes b with
      | false =>
          rw [identifier_of_bare ha, identifier_of_bare hb] at h
          have bare := bare_append_cancel hx hy (bare_of_needsQuotes ha).2
            (bare_of_needsQuotes hb).2 h
          exact ⟨String.toList_inj.1 bare.1, bare.2⟩
      | true => exact absurd h (mixed ha hb)
  | true =>
      cases hb : needsQuotes b with
      | false => exact absurd h.symm (mixed hb ha)
      | true =>
          rw [toList_identifier_of_quoted ha, toList_identifier_of_quoted hb] at h
          have quoted := doubleQuotes_append_cancel hx hy (by simpa using h)
          exact ⟨String.toList_inj.1 quoted.1, quoted.2⟩

end Cancel

/-- A name does not begin with what can only stand behind one. -/
theorem not_endsName_identifier (name : String) (rest : List Char) :
    ¬EndsName ((identifier name).toList ++ rest) := by
  intro ends
  cases quotes : needsQuotes name with
  | true =>
      rw [toList_identifier_of_quoted quotes] at ends
      exact (ends '\x22' rfl).1 rfl
  | false =>
      rcases bare_of_needsQuotes quotes with ⟨nonempty, bare⟩
      rcases List.exists_cons_of_ne_nil nonempty with ⟨c, cs, chars⟩
      rw [identifier_of_bare quotes, chars] at ends
      have first : isBareChar c = true := bare c (by rw [chars]; exact List.mem_cons_self)
      have last := (ends c rfl).2
      rw [first] at last
      cases last

/-! ## Where a list of names ends -/

/-- What follows the first name of a list in parentheses. -/
def behindName : List String → List Char → List Char
  | [], rest => ')' :: rest
  | name :: names, rest => ", ".toList ++ ((identifier name).toList ++ behindName names rest)

theorem endsName_behindName (names : List String) (rest : List Char) :
    EndsName (behindName names rest) := by
  cases names with
  | nil => exact endsName_of_head rfl (by decide)
  | cons name names => exact endsName_of_head rfl (by decide)

theorem toList_intercalate_cons (name : String) (names : List String) (rest : List Char) :
    (", ".intercalate ((name :: names).map identifier)).toList ++ ')' :: rest =
      (identifier name).toList ++ behindName names rest := by
  induction names generalizing name with
  | nil => rw [List.map_cons, List.map_nil, String.intercalate_singleton, behindName]
  | cons next names ih =>
      have later := ih next
      rw [List.map_cons] at later
      rw [List.map_cons, List.map_cons, String.intercalate_cons_cons, String.toList_append,
        String.toList_append, List.append_assoc, List.append_assoc, later, behindName]

theorem behindName_cancel {names others : List String} {x y : List Char}
    (h : behindName names x = behindName others y) : names = others ∧ x = y := by
  induction names generalizing others with
  | nil =>
      cases others with
      | nil => exact ⟨rfl, (List.cons.inj h).2⟩
      | cons other others => cases (List.cons.inj h).1
  | cons name names ih =>
      cases others with
      | nil => cases (List.cons.inj h).1
      | cons other others =>
          rw [behindName, behindName, List.append_cancel_left_eq] at h
          rcases identifier_append_cancel (endsName_behindName names x)
            (endsName_behindName others y) h with ⟨rfl, behind⟩
          rcases ih behind with ⟨rfl, rest⟩
          exact ⟨rfl, rest⟩

/-- A list of names in parentheses tells which names are in it, and where it ends. -/
theorem intercalate_append_cancel {names others : List String} {x y : List Char}
    (h : (", ".intercalate (names.map identifier)).toList ++ ')' :: x =
      (", ".intercalate (others.map identifier)).toList ++ ')' :: y) : names = others ∧ x = y := by
  have close : ∀ text : List Char, EndsName (')' :: text) :=
    fun text => endsName_of_head rfl (by decide)
  cases names with
  | nil =>
      cases others with
      | nil => exact ⟨rfl, (List.cons.inj h).2⟩
      | cons other others =>
          rw [toList_intercalate_cons] at h
          have same : ')' :: x = (identifier other).toList ++ behindName others y := h
          exact absurd (same ▸ close x) (not_endsName_identifier other _)
  | cons name names =>
      rw [toList_intercalate_cons] at h
      cases others with
      | nil =>
          have same : (identifier name).toList ++ behindName names x = ')' :: y := h
          exact absurd (same.symm ▸ close y) (not_endsName_identifier name _)
      | cons other others =>
          rw [toList_intercalate_cons] at h
          rcases identifier_append_cancel (endsName_behindName names x)
            (endsName_behindName others y) h with ⟨rfl, behind⟩
          rcases behindName_cancel behind with ⟨rfl, rest⟩
          exact ⟨rfl, rest⟩

end Sql
end SchemaChange

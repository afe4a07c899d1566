import Mathlib.Data.List.Basic
import SchemaChange.Proofs.Script.Rendering

/-!
# Proofs.Script.Word — texts that statements are put together from

Statements are written under the delimiter `^`. A text may stand in a statement if reading leads
from plain text back to plain text and meets no delimiter. Two such texts can be put side by side
unless a mark arises between them, and constant texts without any mark keep them apart.

- `Closes`  : reading leads from plain text back to plain text, and nothing is cut
- `IsWord`  : such a text with no blank at either end
- `IsTail`  : what may follow a word
- `IsJoint` : a constant text between two words
- `IsLead`  : a constant text in front of the first word
-/

namespace SchemaChange
namespace Script

/-- Read by itself, the text leads from plain text back to plain text and is not cut. -/
def Closes (text : List Char) : Prop :=
  Reads ['^'] .plain text [] .plain

/-! ## Side by side -/

/-- No mark arises between the last character of a text and the first one of the next. -/
structure Apart (text next : List Char) : Prop where
  dashes : ¬(text.getLast? = some '-' ∧ next.head? = some '-')
  comment : ¬(text.getLast? = some '/' ∧ next.head? = some '*')

theorem cut_iff {token text : List Char} (h : token ≠ []) :
    ['^'] <+: token ++ text ↔ token.head? = some '^' := by
  rcases List.exists_cons_of_ne_nil h with ⟨c, cs, rfl⟩
  rw [List.cons_append, List.cons_prefix_cons, List.head?_cons, Option.some.injEq]
  simp [eq_comm]

/-- What leads to plain text at the end of a text does so in front of another one. -/
theorem Token.before {r : Region} {token next : List Char}
    (h : Token r token none .plain) (apart : Apart token next) :
    Token r token next.head? .plain := by
  cases h with
  | @plain c _ text name _ _ =>
      refine .plain text name ?_ ?_
      · rintro ⟨rfl, dash⟩
        exact apart.dashes ⟨rfl, dash⟩
      · rintro ⟨rfl, star⟩
        exact apart.comment ⟨rfl, star⟩
  | closeText => exact .closeText _
  | closeName => exact .closeName _
  | closeLine => exact .closeLine _
  | closeBlock => exact .closeBlock _

theorem Reads.before {text view next : List Char} {r last : Region}
    (h : Reads ['^'] r text view last) (hview : view = []) (hlast : last = .plain)
    (apart : Apart text next) : Reads ['^'] r text next .plain := by
  induction h with
  | done =>
      subst hlast
      exact .done _ _
  | @step r r' r'' token text view uncut htoken later ih =>
      subst hview
      have nonempty : token ≠ [] := List.length_pos_iff.1 htoken.length_pos
      -- The delimiter is one character, so only the first one of the token matters.
      have uncut' : r = .plain → ¬['^'] <+: token ++ text ++ next := by
        intro plain
        have := uncut plain
        rw [List.append_assoc, cut_iff nonempty] at this ⊢
        exact this
      cases text with
      | nil =>
          -- Only the last token of the text has the other text in view.
          have : r'' = r' := later.eq_of_nil rfl
          subst this hlast
          rw [List.append_nil] at apart
          refine .step uncut' ?_ (.done _ _)
          exact Token.before (by simpa using htoken) apart
      | cons c cs =>
          have apart' : Apart (c :: cs) next := by
            constructor
            · simpa using apart.dashes
            · simpa using apart.comment
          exact .step uncut' (by simpa using htoken) (ih rfl hlast apart')

theorem Closes.append {text next : List Char} (h : Closes text) (hnext : Closes next)
    (apart : Apart text next) : Closes (text ++ next) := by
  have first : Reads ['^'] .plain text (next ++ []) .plain := by
    rw [List.append_nil]
    exact h.before rfl rfl apart
  exact first.append hnext

theorem closes_nil : Closes [] :=
  .done _ _

/-! ## At the end of a text -/

/-- A delimiter is no part of any mark. -/
theorem Token.at_end {r r' : Region} {token : List Char} {next : Option Char}
    (h : Token r token next r') (cut : next = some '^') : Token r token none r' := by
  cases h with
  | openLine => cases cut
  | openBlock => exact .openBlock _
  | openText => exact .openText _
  | openName => exact .openName _
  | plain text name _ _ => exact .plain text name (by simp) (by simp)
  | closeText => exact .closeText _
  | text _ close => exact .text _ close
  | closeName => exact .closeName _
  | name _ close => exact .name _ close
  | closeLine => exact .closeLine _
  | line _ close => exact .line _ close
  | closeBlock => exact .closeBlock _
  | block _ => exact .block (by simp)

theorem Reads.at_end {text view : List Char} {r last : Region} (h : Reads ['^'] r text view last)
    (hview : view = ['^']) : Reads ['^'] r text [] last := by
  induction h with
  | done => exact .done _ _
  | @step r r' r'' token text view uncut htoken _ ih =>
      subst hview
      have nonempty : token ≠ [] := List.length_pos_iff.1 htoken.length_pos
      refine .step ?_ ?_ (ih rfl)
      · intro plain
        have := uncut plain
        rw [List.append_assoc, cut_iff nonempty] at this ⊢
        exact this
      · cases text with
        | nil => exact htoken.at_end rfl
        | cons c cs => exact htoken

/-- A text closes exactly if a delimiter behind it cuts at its end and not before. -/
theorem closes_iff {text : List Char} : Closes text ↔ EndsAtCut ['^'] text := by
  constructor
  · intro h
    exact h.before rfl rfl ⟨by simp, by simp⟩
  · intro h
    exact h.at_end rfl

instance (text : List Char) : Decidable (Closes text) :=
  decidable_of_iff (fragments ['^'] (text ++ ['^']) = [text, []])
    ((endsAtCut_iff (List.cons_ne_nil _ _)).symm.trans closes_iff.symm)

/-! ## Characters without meaning -/

/-- The character neither is the delimiter nor belongs to a quote or to the mark of a comment. -/
def isInert (c : Char) : Bool :=
  c != '^' && c != '\x27' && c != '\x22' && c != '-' && c != '/' && c != '*'

theorem apart_of_inert_left {text next : List Char} (h : ∀ c ∈ text, isInert c = true) :
    Apart text next := by
  constructor
  · rintro ⟨dash, -⟩
    have := h '-' (List.mem_of_getLast? dash)
    simp [isInert] at this
  · rintro ⟨slash, -⟩
    have := h '/' (List.mem_of_getLast? slash)
    simp [isInert] at this

theorem apart_of_inert_right {text next : List Char}
    (h : ∀ c, next.head? = some c → isInert c = true) : Apart text next := by
  constructor
  · rintro ⟨-, dash⟩
    have := h '-' dash
    simp [isInert] at this
  · rintro ⟨-, star⟩
    have := h '*' star
    simp [isInert] at this

theorem closes_of_inert {text : List Char} (h : ∀ c ∈ text, isInert c = true) : Closes text := by
  induction text with
  | nil => exact closes_nil
  | cons c cs ih =>
      have inert : isInert c = true := h c List.mem_cons_self
      simp only [isInert, Bool.and_eq_true, bne_iff_ne] at inert
      rcases inert with ⟨⟨⟨⟨⟨cut, text⟩, name⟩, dash⟩, slash⟩, -⟩
      have uncut : Region.plain = .plain → ¬['^'] <+: c :: (cs ++ []) := by
        intro _ found
        rw [List.cons_prefix_cons] at found
        exact cut found.1.symm
      have token : Token .plain [c] (cs ++ []).head? .plain :=
        .plain text name (fun both => dash both.1) (fun both => slash both.1)
      exact .cons uncut token (ih fun d hd => h d (List.mem_cons_of_mem _ hd))

/-! ## Pieces of statements -/

/-- A text that may stand in a statement, with no blank at either end. -/
structure IsWord (s : String) : Prop where
  closes : Closes s.toList
  trimmed : Text.IsTrimmed s.toList
  nonempty : s.toList ≠ []

/-- What may follow a word, or nothing. -/
structure IsTail (s : String) : Prop where
  closes : Closes s.toList
  head : ∀ c, s.toList.head? = some c → isInert c = true
  last : Text.EndsFull s.toList

/-- A constant text between two words. -/
structure IsJoint (s : String) : Prop where
  inert : ∀ c ∈ s.toList, isInert c = true
  nonempty : s.toList ≠ []

/-- A constant text in front of the first word. -/
structure IsLead (s : String) : Prop extends IsJoint s where
  head : Text.StartsFull s.toList

/-! ### Constant texts

The constants of statements are literals, so their characters are there to be looked through. -/

def isPlainText (cs : List Char) : Bool :=
  cs.all isInert

def startsFull (cs : List Char) : Bool :=
  cs.head?.any fun c => !Text.isSpace c

def endsFull (cs : List Char) : Bool :=
  cs.getLast?.any fun c => !Text.isSpace c

theorem isJoint_ofList (cs : List Char) (h : (isPlainText cs && !cs.isEmpty) = true) :
    IsJoint (String.ofList cs) := by
  simp only [isPlainText, Bool.and_eq_true, List.all_eq_true] at h
  constructor
  · simpa using h.1
  · simpa using h.2

theorem isLead_ofList (cs : List Char) (h : (isPlainText cs && startsFull cs) = true) :
    IsLead (String.ofList cs) := by
  simp only [isPlainText, startsFull, Bool.and_eq_true, List.all_eq_true] at h
  refine ⟨⟨by simpa using h.1, ?_⟩, ?_⟩
  · rintro nothing
    rw [String.toList_ofList] at nothing
    simp [nothing] at h
  · intro c hc
    rw [String.toList_ofList] at hc
    simpa [hc] using h.2

theorem isTail_ofList (cs : List Char) (h : (isPlainText cs && endsFull cs) = true) :
    IsTail (String.ofList cs) := by
  simp only [isPlainText, endsFull, Bool.and_eq_true, List.all_eq_true] at h
  constructor
  · rw [String.toList_ofList]
    exact closes_of_inert h.1
  · intro c hc
    rw [String.toList_ofList] at hc
    exact h.1 c (List.mem_of_head? hc)
  · intro c hc
    rw [String.toList_ofList] at hc
    simpa [hc] using h.2

theorem isWord_ofList (cs : List Char)
    (h : (isPlainText cs && startsFull cs && endsFull cs) = true) :
    IsWord (String.ofList cs) := by
  rw [Bool.and_eq_true] at h
  have lead := isLead_ofList cs h.1
  constructor
  · exact closes_of_inert lead.inert
  · refine ⟨lead.head, ?_⟩
    intro c hc
    rw [String.toList_ofList] at hc
    simpa [endsFull, hc] using h.2
  · exact lead.nonempty

/-! ### Putting pieces together -/

theorem isTail_empty : IsTail "" :=
  ⟨closes_nil, by simp, by simp [Text.EndsFull]⟩

theorem IsTail.append {s t : String} (hs : IsTail s) (ht : IsTail t) : IsTail (s ++ t) := by
  constructor
  · rw [String.toList_append]
    exact hs.closes.append ht.closes (apart_of_inert_right ht.head)
  · intro c hc
    rw [String.toList_append, List.head?_append, Option.or_eq_some_iff] at hc
    rcases hc with hc | ⟨-, hc⟩
    · exact hs.head c hc
    · exact ht.head c hc
  · rw [String.toList_append]
    exact hs.last.append ht.last

theorem IsJoint.closes_append {k s : String} (hk : IsJoint k) (hs : IsWord s) :
    Closes (k ++ s).toList := by
  rw [String.toList_append]
  exact (closes_of_inert hk.inert).append hs.closes (apart_of_inert_left hk.inert)

theorem IsJoint.word {k s : String} (hk : IsJoint k) (hs : IsWord s) : IsTail (k ++ s) := by
  refine ⟨hk.closes_append hs, ?_, ?_⟩
  · intro c hc
    rw [String.toList_append, List.head?_append_of_ne_nil _ hk.nonempty] at hc
    exact hk.inert c (List.mem_of_head? hc)
  · rw [String.toList_append]
    exact hs.trimmed.last.behind hs.nonempty _

theorem IsLead.word {k s : String} (hk : IsLead k) (hs : IsWord s) : IsWord (k ++ s) := by
  refine ⟨hk.toIsJoint.closes_append hs, ?_, ?_⟩
  · rw [String.toList_append]
    exact ⟨hk.head.append hk.nonempty _, hs.trimmed.last.behind hs.nonempty _⟩
  · rw [String.toList_append]
    exact List.append_ne_nil_of_left_ne_nil hk.nonempty _

theorem IsWord.append {s t : String} (hs : IsWord s) (ht : IsTail t) : IsWord (s ++ t) := by
  constructor
  · rw [String.toList_append]
    exact hs.closes.append ht.closes (apart_of_inert_right ht.head)
  · rw [String.toList_append]
    exact hs.trimmed.append hs.nonempty ht.last
  · rw [String.toList_append]
    exact List.append_ne_nil_of_left_ne_nil hs.nonempty _

/-- Two words with a constant between them. -/
theorem IsWord.joint {s k t : String} (hs : IsWord s) (hk : IsJoint k) (ht : IsWord t) :
    IsWord (s ++ k ++ t) := by
  rw [String.append_assoc]
  exact hs.append (hk.word ht)

theorem isWord_intercalate {separator : String} (hk : IsJoint separator) {words : List String}
    (h : ∀ s ∈ words, IsWord s) (nonempty : words ≠ []) :
    IsWord (separator.intercalate words) := by
  induction words with
  | nil => exact absurd rfl nonempty
  | cons first others ih =>
      have hfirst := h first List.mem_cons_self
      cases others with
      | nil => simpa using hfirst
      | cons second others =>
          rw [String.intercalate_cons_cons]
          have hothers : ∀ s ∈ second :: others, IsWord s :=
            fun s hs => h s (List.mem_cons_of_mem _ hs)
          exact hfirst.joint hk (ih hothers (List.cons_ne_nil _ _))

/-! ### Statements -/

/-- A statement that is a word comes back when its script is read. -/
theorem IsWord.isReadable {s : String} (h : IsWord s) :
    IsReadable defaultDelimiter s where
  trimmed := Text.trim_eq_self_iff.2 h.trimmed
  nonempty := by
    rintro rfl
    exact h.nonempty rfl
  endsAtCut := closes_iff.1 h.closes

end Script
end SchemaChange

import SchemaChange.Script.Lexical

/-!
# Proofs.Script.Reading — how a text is read

The lexical rules of a script, stated without a scanner. A text is read token by token, always with
what follows it in view; a mark of two characters is one token. The scanner, which goes character by
character, is proved to follow these rules.

- `Region`                 : what a token belongs to
- `Token`                  : the tokens of each region, and the region behind them
- `Reads`                  : a text is read to its end and no delimiter stands in its plain parts
- `Reads.fragments_eq`     : the scanner leaves such a text whole
- `Reads.modeAfter_eq`     : and knows what region the end of the text belongs to
- `Reads.fragments_append` : it cuts behind such a text, where the delimiter follows
- `reads_or_cut`           : every script is such a text, or has one in front of its first delimiter
-/

namespace SchemaChange
namespace Script

/-! ## Tokens -/

/-- What a token belongs to. -/
inductive Region
  | plain
  | quotedText
  | quotedName
  | lineComment
  | blockComment
  deriving DecidableEq, Repr

/-- The scanner's mode in front of a token. -/
def Region.mode : Region → Mode
  | .plain => .plain
  | .quotedText => .quotedText
  | .quotedName => .quotedName
  | .lineComment => .lineComment
  | .blockComment => .blockComment

theorem Region.mode_eq_plain {r : Region} : r.mode = .plain ↔ r = .plain := by
  cases r <;> simp [Region.mode]

/-- The tokens of a region, each with the character behind it, and the region behind them. -/
inductive Token : Region → List Char → Option Char → Region → Prop
  | openLine : Token .plain ['-'] (some '-') .lineComment
  | openBlock (next : Option Char) : Token .plain ['/', '*'] next .blockComment
  | openText (next : Option Char) : Token .plain ['\x27'] next .quotedText
  | openName (next : Option Char) : Token .plain ['\x22'] next .quotedName
  | plain {c : Char} {next : Option Char} :
      c ≠ '\x27' → c ≠ '\x22' → ¬(c = '-' ∧ next = some '-') → ¬(c = '/' ∧ next = some '*') →
      Token .plain [c] next .plain
  | closeText (next : Option Char) : Token .quotedText ['\x27'] next .plain
  | text {c : Char} (next : Option Char) : c ≠ '\x27' → Token .quotedText [c] next .quotedText
  | closeName (next : Option Char) : Token .quotedName ['\x22'] next .plain
  | name {c : Char} (next : Option Char) : c ≠ '\x22' → Token .quotedName [c] next .quotedName
  | closeLine (next : Option Char) : Token .lineComment ['\n'] next .plain
  | line {c : Char} (next : Option Char) : c ≠ '\n' → Token .lineComment [c] next .lineComment
  | closeBlock (next : Option Char) : Token .blockComment ['*', '/'] next .plain
  | block {c : Char} {next : Option Char} :
      ¬(c = '*' ∧ next = some '/') → Token .blockComment [c] next .blockComment

namespace Token

variable {r r' : Region} {token : List Char} {next : Option Char}

theorem length_pos (h : Token r token next r') : 0 < token.length := by
  cases h <;> simp

/-- A text that is not empty begins with a token of every region. -/
theorem exists_of_cons (r : Region) (c : Char) (cs : List Char) :
    ∃ token rest r', c :: cs = token ++ rest ∧ Token r token rest.head? r' := by
  cases r with
  | plain =>
      -- What opens something goes first; any other character stands for itself.
      by_cases text : c = '\x27'
      · subst text
        exact ⟨['\x27'], cs, _, rfl, .openText _⟩
      by_cases name : c = '\x22'
      · subst name
        exact ⟨['\x22'], cs, _, rfl, .openName _⟩
      by_cases line : c = '-' ∧ cs.head? = some '-'
      · rcases line with ⟨rfl, dash⟩
        exact ⟨['-'], cs, _, rfl, by rw [dash]; exact .openLine⟩
      -- The second dash is the first character of the comment, but the star belongs to its mark.
      by_cases block : c = '/' ∧ cs.head? = some '*'
      · rcases block with ⟨rfl, star⟩
        rcases List.head?_eq_some_iff.1 star with ⟨rest, rfl⟩
        exact ⟨['/', '*'], rest, _, rfl, .openBlock _⟩
      exact ⟨[c], cs, _, rfl, .plain text name line block⟩
  | quotedText =>
      by_cases close : c = '\x27'
      · subst close
        exact ⟨['\x27'], cs, _, rfl, .closeText _⟩
      · exact ⟨[c], cs, _, rfl, .text _ close⟩
  | quotedName =>
      by_cases close : c = '\x22'
      · subst close
        exact ⟨['\x22'], cs, _, rfl, .closeName _⟩
      · exact ⟨[c], cs, _, rfl, .name _ close⟩
  | lineComment =>
      by_cases close : c = '\n'
      · subst close
        exact ⟨['\n'], cs, _, rfl, .closeLine _⟩
      · exact ⟨[c], cs, _, rfl, .line _ close⟩
  | blockComment =>
      by_cases close : c = '*' ∧ cs.head? = some '/'
      · rcases close with ⟨rfl, slash⟩
        rcases List.head?_eq_some_iff.1 slash with ⟨rest, rfl⟩
        exact ⟨['*', '/'], rest, _, rfl, .closeBlock _⟩
      · exact ⟨[c], cs, _, rfl, .block close⟩

end Token

/-! ## Texts -/

/-- The text is read from the first region to the last, the second text following it, and no
delimiter begins in front of a token of the region `plain`. -/
inductive Reads (delimiter : List Char) : Region → List Char → List Char → Region → Prop
  | done (r : Region) (following : List Char) : Reads delimiter r [] following r
  | step {r r' r'' : Region} {token text following : List Char} :
      (r = .plain → ¬delimiter <+: token ++ text ++ following) →
      Token r token (text ++ following).head? r' →
      Reads delimiter r' text following r'' →
      Reads delimiter r (token ++ text) following r''

namespace Reads

variable {delimiter text other following : List Char} {r r' r'' : Region}

theorem append (first : Reads delimiter r text (other ++ following) r')
    (last : Reads delimiter r' other following r'') :
    Reads delimiter r (text ++ other) following r'' := by
  -- The first text has the second one in view, which the induction must not take apart.
  generalize hview : other ++ following = view at first
  induction first with
  | done => simpa using last
  | step uncut token _ ih =>
      subst hview
      rw [List.append_assoc]
      refine .step ?_ ?_ (ih last rfl)
      · simpa using uncut
      · simpa using token

/-- A token of one character. -/
theorem cons {c : Char} (uncut : r = .plain → ¬delimiter <+: c :: (text ++ following))
    (token : Token r [c] (text ++ following).head? r')
    (later : Reads delimiter r' text following r'') :
    Reads delimiter r (c :: text) following r'' := by
  have uncut' : r = .plain → ¬delimiter <+: [c] ++ text ++ following := uncut
  exact step uncut' token later

/-- Where nothing is read the region stays. -/
theorem eq_of_nil (h : Reads delimiter r text following r') (nothing : text = []) : r' = r := by
  cases h with
  | done => rfl
  | step _ token _ =>
      have := token.length_pos
      rw [(List.append_eq_nil_iff.1 nothing).1] at this
      cases this

/-- More text behind makes no difference where a whole delimiter is in view already. -/
theorem extend (h : Reads delimiter r text following r')
    (seen : delimiter.length ≤ following.length) (nonempty : following ≠ []) (more : List Char) :
    Reads delimiter r text (following ++ more) r' := by
  induction h with
  | done => exact .done _ _
  | @step r r' r'' token text following uncut htoken _ ih =>
      refine .step ?_ ?_ (ih seen nonempty)
      · -- A delimiter that is found now lies in what was in view before.
        intro plain found
        have fits : delimiter.length ≤ (token ++ text ++ following).length := by
          simp only [List.length_append]
          omega
        rw [← List.append_assoc] at found
        exact uncut plain
          (List.prefix_of_prefix_length_le found (List.prefix_append _ more) fits)
      · -- The next character was in view as well.
        have next : (text ++ (following ++ more)).head? = (text ++ following).head? := by
          rcases List.exists_cons_of_ne_nil nonempty with ⟨c, cs, rfl⟩
          cases text <;> rfl
        rw [next]
        exact htoken

end Reads

/-! ## The scanner -/

theorem fragmentsFrom_ne_nil (delimiter : List Char) (mode : Mode) (skip : Nat) (cs : List Char) :
    fragmentsFrom delimiter mode skip cs ≠ [] := by
  induction cs generalizing mode skip with
  | nil => simp [fragmentsFrom]
  | cons c cs ih =>
      cases skip with
      | succ skip => simpa [fragmentsFrom] using ih mode skip
      | zero =>
          rw [fragmentsFrom]
          split
          · simp
          · cases fragmentsFrom delimiter (mode.next c cs.head?) 0 cs <;> simp [pushFirst]

theorem foldr_pushFirst_cons (text first : List Char) (others : List (List Char)) :
    text.foldr pushFirst (first :: others) = (text ++ first) :: others := by
  induction text with
  | nil => rfl
  | cons c cs ih => simp [ih, pushFirst]

theorem fragmentsFrom_skip (delimiter : List Char) (mode : Mode) (passed cs : List Char) :
    fragmentsFrom delimiter mode passed.length (passed ++ cs) =
      fragmentsFrom delimiter mode 0 cs := by
  induction passed with
  | nil => rfl
  | cons c passed ih => simpa [fragmentsFrom] using ih

/-- A delimiter in plain text cuts. -/
theorem fragments_delimiter {delimiter : List Char} (h : delimiter ≠ []) (cs : List Char) :
    fragments delimiter (delimiter ++ cs) = [] :: fragments delimiter cs := by
  rcases List.exists_cons_of_ne_nil h with ⟨d, ds, rfl⟩
  have found : (d :: ds).isPrefixOf (d :: (ds ++ cs)) = true := by
    rw [List.isPrefixOf_iff_prefix]
    exact ⟨cs, rfl⟩
  -- The cut is at the first character; the other ones of the delimiter are only passed over.
  simp only [fragments, List.cons_append, fragmentsFrom, found, and_self, if_true]
  simpa using fragmentsFrom_skip (d :: ds) .plain ds cs

/-- One character, where no delimiter is looked for or none is found. -/
theorem fragmentsFrom_cons {delimiter : List Char} {mode : Mode} {c : Char} {cs : List Char}
    (uncut : mode = .plain → ¬delimiter <+: c :: cs) :
    fragmentsFrom delimiter mode 0 (c :: cs) =
      pushFirst c (fragmentsFrom delimiter (mode.next c cs.head?) 0 cs) := by
  rw [fragmentsFrom, if_neg]
  rintro ⟨plain, found⟩
  exact uncut plain (List.isPrefixOf_iff_prefix.1 found)

/-- The modes behind the characters of a token. Between the two characters of a mark there is a mode
in which no delimiter is looked for. -/
theorem Token.next_mode {r r' : Region} {token : List Char} {next : Option Char}
    (h : Token r token next r') :
    (∃ c, token = [c] ∧ r.mode.next c next = r'.mode) ∨
      ∃ c d between, token = [c, d] ∧ r.mode.next c (some d) = between ∧ between ≠ .plain ∧
        between.next d next = r'.mode := by
  cases h with
  | openBlock => exact .inr ⟨'/', '*', .openingComment, by simp [Mode.next, Region.mode]⟩
  | closeBlock => exact .inr ⟨'*', '/', .closingComment, by simp [Mode.next, Region.mode]⟩
  | openLine => exact .inl ⟨'-', by simp [Mode.next, Region.mode]⟩
  | openText => exact .inl ⟨'\x27', by simp [Mode.next, Region.mode]⟩
  | openName => exact .inl ⟨'\x22', by simp [Mode.next, Region.mode]⟩
  | @plain c _ text name line block =>
      exact .inl ⟨c, by simp [Mode.next, Region.mode, text, name, line, block]⟩
  | closeText => exact .inl ⟨'\x27', by simp [Mode.next, Region.mode]⟩
  | @text c _ close => exact .inl ⟨c, by simp [Mode.next, Region.mode, close]⟩
  | closeName => exact .inl ⟨'\x22', by simp [Mode.next, Region.mode]⟩
  | @name c _ close => exact .inl ⟨c, by simp [Mode.next, Region.mode, close]⟩
  | closeLine => exact .inl ⟨'\n', by simp [Mode.next, Region.mode]⟩
  | @line c _ close => exact .inl ⟨c, by simp [Mode.next, Region.mode, close]⟩
  | @block c _ close => exact .inl ⟨c, by simp [Mode.next, Region.mode, close]⟩

/-- A token is passed over as a whole. -/
theorem Token.fragmentsFrom_append {delimiter token cs : List Char} {r r' : Region}
    (h : Token r token cs.head? r') (uncut : r = .plain → ¬delimiter <+: token ++ cs) :
    fragmentsFrom delimiter r.mode 0 (token ++ cs) =
      token.foldr pushFirst (fragmentsFrom delimiter r'.mode 0 cs) := by
  rw [← Region.mode_eq_plain] at uncut
  rcases h.next_mode with ⟨c, rfl, hc⟩ | ⟨c, d, between, rfl, hc, hbetween, hd⟩
  · have first : r.mode = .plain → ¬delimiter <+: c :: cs := uncut
    rw [List.singleton_append, fragmentsFrom_cons first, hc]
    rfl
  · -- Between the two characters no delimiter is looked for, so none can be found there.
    have first : r.mode = .plain → ¬delimiter <+: c :: d :: cs := uncut
    have second : between = .plain → ¬delimiter <+: d :: cs :=
      fun plain => absurd plain hbetween
    rw [List.cons_append, List.singleton_append, fragmentsFrom_cons first, List.head?_cons, hc,
      fragmentsFrom_cons second, hd]
    rfl

theorem Reads.fragmentsFrom_append {delimiter text following : List Char} {r r' : Region}
    (h : Reads delimiter r text following r') :
    fragmentsFrom delimiter r.mode 0 (text ++ following) =
      text.foldr pushFirst (fragmentsFrom delimiter r'.mode 0 following) := by
  induction h with
  | done => rfl
  | step uncut token _ ih =>
      rw [List.append_assoc, token.fragmentsFrom_append (by simpa using uncut), ih,
        List.foldr_append]

/-- Without a cut the whole text is one fragment. -/
theorem Reads.fragments_eq {delimiter text : List Char} {r : Region}
    (h : Reads delimiter .plain text [] r) : fragments delimiter text = [text] := by
  calc
    fragments delimiter text
        = fragmentsFrom delimiter Region.plain.mode 0 (text ++ []) := by
            simp [fragments, Region.mode]
    _ = text.foldr pushFirst (fragmentsFrom delimiter r.mode 0 []) :=
            h.fragmentsFrom_append
    _ = [text] := by
            rw [fragmentsFrom, foldr_pushFirst_cons, List.append_nil]

/-- Where a text is read to its end, the scanner ends in the mode of its last region. -/
theorem Reads.modeAfter_eq {delimiter text : List Char} {r r' : Region}
    (h : Reads delimiter r text [] r') : modeAfter r.mode text = r'.mode := by
  -- Nothing follows the text, and that the induction must keep in view.
  generalize hend : ([] : List Char) = nothing at h
  induction h with
  | done => rfl
  | step _ token _ ih =>
      subst hend
      rw [List.append_nil] at token
      rcases token.next_mode with ⟨c, rfl, hc⟩ | ⟨c, d, between, rfl, hc, -, hd⟩
      · simp only [List.singleton_append, modeAfter, hc]
        exact ih rfl
      · simp only [List.cons_append, List.nil_append, modeAfter, List.head?_cons, hc, hd]
        exact ih rfl

/-- Up to a delimiter in plain text the text is the first fragment. -/
theorem Reads.fragments_append {delimiter text rest : List Char} (hd : delimiter ≠ [])
    (h : Reads delimiter .plain text (delimiter ++ rest) .plain) :
    fragments delimiter (text ++ delimiter ++ rest) = text :: fragments delimiter rest := by
  calc
    fragments delimiter (text ++ delimiter ++ rest)
        = fragmentsFrom delimiter Region.plain.mode 0 (text ++ (delimiter ++ rest)) := by
            simp [fragments, Region.mode]
    _ = text.foldr pushFirst (fragments delimiter (delimiter ++ rest)) :=
            h.fragmentsFrom_append
    _ = text.foldr pushFirst ([] :: fragments delimiter rest) := by
            rw [fragments_delimiter hd]
    _ = text :: fragments delimiter rest := by
            rw [foldr_pushFirst_cons, List.append_nil]

/-! ## Every script can be read -/

/-- Reading goes to the end, or up to a delimiter that stands in plain text. -/
theorem reads_or_cut (delimiter : List Char) (r : Region) (script : List Char) :
    (∃ r', Reads delimiter r script [] r') ∨
      ∃ text rest, script = text ++ delimiter ++ rest ∧
        Reads delimiter r text (delimiter ++ rest) .plain := by
  -- A token may take two characters, so the induction is on the length of what is left.
  induction hn : script.length using Nat.strongRecOn generalizing r script with
  | _ n ih =>
    subst hn
    cases script with
    | nil => exact .inl ⟨r, .done r []⟩
    | cons c cs =>
        by_cases cut : r = .plain ∧ delimiter <+: c :: cs
        · rcases cut with ⟨rfl, rest, hrest⟩
          exact .inr ⟨[], rest, by simp [hrest], .done .plain _⟩
        · rcases Token.exists_of_cons r c cs with ⟨token, rest, r', hsplit, htoken⟩
          have uncut : r = .plain → ¬delimiter <+: token ++ rest := by
            intro plain found
            exact cut ⟨plain, hsplit ▸ found⟩
          have shorter : rest.length < (c :: cs).length := by
            have := htoken.length_pos
            rw [hsplit, List.length_append]
            omega
          rw [hsplit]
          rcases ih _ shorter r' rest rfl with ⟨r'', hread⟩ | ⟨text, behind, hbehind, hread⟩
          · refine .inl ⟨r'', .step ?_ ?_ hread⟩
            · simpa using uncut
            · simpa using htoken
          · refine .inr ⟨token ++ text, behind, by simp [hbehind], .step ?_ ?_ hread⟩
            · simpa [hbehind] using uncut
            · simpa [hbehind] using htoken

end Script
end SchemaChange

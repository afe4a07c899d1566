import SchemaChange.Proofs.Frame
import SchemaChange.Proofs.User.Alteration

/-!
# Proofs.User.FreeText — passwords, names and comments of users

What is written for a user has a literal for each of its texts. A user that is created is written
without the blanks around them. A user that is there is written with the texts as they are given,
but for the password, which always loses its blanks.

- `User.FreeText`                   : the texts of a user
- `User.writesText_creation`        : a user that is created
- `UserDraft.writesText_alteration` : a user that is there
-/

namespace SchemaChange

namespace User

/-- The attributes of a user that may be any text. -/
inductive FreeText
  | password
  | firstName
  | middleName
  | lastName
  | comment
  deriving DecidableEq, Repr

namespace FreeText

/-- The edit that gives the attribute a text. -/
def edit (t : FreeText) (text : String) : Edit :=
  match t with
  | .password => .password text
  | .firstName => .firstName (some text)
  | .middleName => .middleName (some text)
  | .lastName => .lastName (some text)
  | .comment => .comment (some text)

def part : FreeText → Part
  | .password => .password
  | .firstName => .firstName
  | .middleName => .middleName
  | .lastName => .lastName
  | .comment => .comment

theorem part_edit (t : FreeText) (text : String) : (t.edit text).part = t.part := by
  cases t <;> rfl

def word : FreeText → String
  | .password => "PASSWORD"
  | .firstName => "FIRSTNAME"
  | .middleName => "MIDDLENAME"
  | .lastName => "LASTNAME"
  | .comment => "COMMENT"

/-- What stands in front of the literal: the word of a clause with a blank, or the head of the
statement of the comment. -/
def keyword (name : String) : FreeText → String
  | .comment => "COMMENT ON USER " ++ Sql.identifier (Text.trim name) ++ " IS"
  | t => " " ++ t.word

/-- What is left of a text that an existing user is given. -/
def kept : FreeText → String → String
  | .password => Text.trim
  | _ => id

end FreeText

/-! ## Users that are created -/

/-- What is written for the text in the statement of a new user. The comment is not in it. -/
def FreeText.clause (u : User) : FreeText → String
  | .password => " " ++ "PASSWORD" ++ " " ++ Sql.quoteText (Text.trim (u.password.getD ""))
  | .firstName => namePart "FIRSTNAME" u.firstName
  | .middleName => namePart "MIDDLENAME" u.middleName
  | .lastName => namePart "LASTNAME" u.lastName
  | .comment => ""

/-- The texts in the statement of a new user. -/
def clauseOrder : List FreeText :=
  [.password, .firstName, .middleName, .lastName]

/-- What stands behind the texts. -/
def creationEnd (u : User) : String :=
  " " ++ u.activity ++ u.pluginClause ++
    (if u.tags.entries.isEmpty then ""
      else " " ++ tagOption (u.tags.entries.map fun (key, value) => tagSetting key value)) ++
    (if u.admin then " GRANT ADMIN ROLE" else "")

def creationComment (u : User) (name : String) : List String :=
  ((Text.nonBlank? u.comment).map fun text =>
    commentStatement (Sql.identifier name) (Sql.quoteText text)).toList

def creationStatement (u : User) (name : String) : String :=
  "CREATE USER " ++ Sql.identifier name ++ String.join (clauseOrder.map (FreeText.clause u)) ++
    u.creationEnd

theorem creation_eq (u : User) :
    u.creation = demand .name (some u.name) >>= fun name =>
      demand .password u.password >>= fun _ =>
        .ok (u.creationStatement name :: u.creationComment name) := by
  have written : u.creation = demand .name (some u.name) >>= fun name =>
      demand .password u.password >>= fun password =>
        .ok (("CREATE USER " ++ Sql.identifier name ++ " PASSWORD " ++ Sql.quoteText password ++
          namePart "FIRSTNAME" u.firstName ++ namePart "MIDDLENAME" u.middleName ++
          namePart "LASTNAME" u.lastName ++ u.creationEnd) :: u.creationComment name) := by
    unfold creation creationEnd
    simp only [List.isEmpty_map, String.append_assoc]
    rfl
  have blank : (" PASSWORD " : String) = " " ++ "PASSWORD" ++ " " := by decide
  rw [written]
  congr 1
  funext name
  cases demanded : demand .password u.password with
  | error r => rfl
  | ok password =>
      -- The password that is demanded is the one of the clause.
      have same := Text.trim_getD_of_nonBlank? (demand_eq_ok.1 demanded)
      have whole : u.creationStatement name =
          "CREATE USER " ++ Sql.identifier name ++ " PASSWORD " ++ Sql.quoteText password ++
            namePart "FIRSTNAME" u.firstName ++ namePart "MIDDLENAME" u.middleName ++
            namePart "LASTNAME" u.lastName ++ u.creationEnd := by
        rw [creationStatement, clauseOrder, blank, ← same]
        simp only [List.map_cons, List.map_nil, String.join_cons, String.join_nil,
          FreeText.clause, String.append_assoc, String.append_empty]
      rw [whole]
      rfl

theorem namePart_some (word : String) {text : String} (full : Text.isBlank text = false) :
    namePart word (some text) = " " ++ word ++ " " ++ Sql.quoteText (Text.trim text) := by
  rw [namePart, Text.nonBlank?_of_full full]

/-- The text of a new user stands behind its keyword, without the blanks around it. -/
theorem FreeText.clause_edit {t : FreeText} (inner : t ≠ .comment) (u : User) (name : String)
    {x : String} (full : Text.isBlank x = false) :
    t.clause ((t.edit x).apply u) =
      t.keyword name ++ " " ++ Sql.quoteText (Text.trim x) := by
  cases t with
  | password => rfl
  | firstName => exact namePart_some "FIRSTNAME" full
  | middleName => exact namePart_some "MIDDLENAME" full
  | lastName => exact namePart_some "LASTNAME" full
  | comment => exact absurd rfl inner

theorem FreeText.clause_edit_of_ne {t other : FreeText} (h : other ≠ t) (u : User) (x : String) :
    other.clause ((t.edit x).apply u) = other.clause u := by
  cases t <;> cases other <;> first | exact absurd rfl h | rfl

/-- Whether there is a password, where another text is looked at. -/
def FreeText.passwordCheck (t : FreeText) (u : User) : Except Refusal Unit :=
  if t = .password then .ok () else (demand .password u.password).map fun _ => ()

theorem FreeText.creation_edit (t : FreeText) (u : User) {x : String}
    (full : Text.isBlank x = false) :
    ((t.edit x).apply u).creation = demand .name (some u.name) >>= fun name =>
      t.passwordCheck u >>= fun _ =>
        .ok (((t.edit x).apply u).creationStatement name ::
          ((t.edit x).apply u).creationComment name) := by
  have name : ((t.edit x).apply u).name = u.name := (t.edit x).name_apply u
  rw [User.creation_eq, name]
  congr 1
  funext name
  rw [passwordCheck]
  by_cases password : t = .password
  · subst password
    have demanded : demand .password (some x) = .ok (Text.trim x) :=
      demand_some_eq_ok.2 ⟨full, rfl⟩
    rw [if_pos rfl]
    change demand .password (some x) >>= _ = _
    rw [demanded]
    rfl
  · have same : ((t.edit x).apply u).password = u.password := by
      cases t <;> first | exact absurd rfl password | rfl
    rw [if_neg password, same]
    cases demand .password u.password <;> rfl

theorem creationEnd_edit (t : FreeText) (u : User) (x : String) :
    ((t.edit x).apply u).creationEnd = u.creationEnd := by
  cases t <;> rfl

theorem creationComment_edit {t : FreeText} (inner : t ≠ .comment) (u : User) (x name : String) :
    ((t.edit x).apply u).creationComment name = u.creationComment name := by
  cases t <;> first | exact absurd rfl inner | rfl

theorem creationStatement_comment (u : User) (x name : String) :
    ((FreeText.comment.edit x).apply u).creationStatement name = u.creationStatement name := by
  have texts : clauseOrder.map (FreeText.clause ((FreeText.comment.edit x).apply u)) =
      clauseOrder.map (FreeText.clause u) := by
    refine List.map_congr_left ?_
    intro t ordered
    refine FreeText.clause_edit_of_ne ?_ u x
    rintro rfl
    exact absurd ordered (by decide)
  rw [creationStatement, texts, creationEnd_edit]
  rfl

theorem creationComment_comment (u : User) {x : String} (full : Text.isBlank x = false)
    (name : String) :
    ((FreeText.comment.edit x).apply u).creationComment name =
      [commentStatement (Sql.identifier name) (Sql.quoteText (Text.trim x))] := by
  have given : Text.nonBlank? ((FreeText.comment.edit x).apply u).comment = some (Text.trim x) :=
    Text.nonBlank?_of_full full
  rw [creationComment, given]
  rfl

/-- The statement of a comment is its head and the literal. -/
theorem commentStatement_eq (name literal : String) :
    commentStatement (Sql.identifier (Text.trim name)) literal =
      "" ++ FreeText.comment.keyword name ++ " " ++ literal ++ "" := by
  have keyword : FreeText.comment.keyword name =
      "COMMENT ON USER " ++ Sql.identifier (Text.trim name) ++ " IS" := rfl
  have head : (" IS " : String) = " IS" ++ " " := by decide
  unfold commentStatement
  rw [keyword, head]
  simp only [String.empty_append, String.append_empty, String.append_assoc]

theorem writesText_creation (t : FreeText) (u : User) :
    WritesText (t.keyword u.name) Text.trim fun x => ((t.edit x).apply u).creation := by
  refine WritesText.congr ?_ fun x full => t.creation_edit u full
  refine .bind fun name named => .bind fun _ _ => ?_
  by_cases comment : t = .comment
  · -- The comment is a statement of its own, behind one that does not have it.
    subst comment
    obtain rfl := (demand_some_eq_ok.1 named).2
    refine .of_frame ⟨[u.creationStatement (Text.trim u.name)], "", "", []⟩ ?_
    intro x full
    rw [creationStatement_comment, creationComment_comment u full, commentStatement_eq]
    rfl
  · have ordered : t ∈ clauseOrder := by
      cases t <;> first | decide | exact absurd rfl comment
    rcases exists_around (by decide) ordered with ⟨front, back, order, others⟩
    refine .of_frame ⟨[], "CREATE USER " ++ Sql.identifier name ++
      String.join (front.map (FreeText.clause u)),
      String.join (back.map (FreeText.clause u)) ++ u.creationEnd, u.creationComment name⟩ ?_
    intro x full
    have texts := join_around t fun other mem => t.clause_edit_of_ne (others other mem) u x
    rw [creationStatement, order, texts, t.clause_edit comment u u.name full, creationEnd_edit,
      creationComment_edit comment, Frame.fill, List.nil_append]
    simp only [String.append_assoc]

end User

namespace UserDraft

open User (Edit Part FreeText)

/-! ## Users that are there -/

/-- The options of an attribute do not look at the texts of the others. -/
theorem markedOptions_applyEdit_of_ne (d : UserDraft) {t : FreeText} {part : Part}
    (other : part ≠ t.part) (x y : String) :
    (d.applyEdit (t.edit x)).markedOptions part = (d.applyEdit (t.edit y)).markedOptions part := by
  cases t <;> cases part <;> first | exact absurd rfl other | rfl

theorem markedOptions_applyEdit (d : UserDraft) {t : FreeText} (inner : t ≠ .comment) {x : String}
    (full : Text.isBlank x = false) :
    (d.applyEdit (t.edit x)).markedOptions t.part =
      .ok [t.word ++ " " ++ Sql.quoteText (t.kept x)] := by
  have marked : (d.applyEdit (t.edit x)).isMarked t.part = true :=
    (Draft.isMarked_change d _ _ _).2 (.inl (t.part_edit x))
  rw [markedOptions, if_pos marked]
  cases t with
  | password =>
      have demanded : demand .password (some x) = .ok (Text.trim x) :=
        demand_some_eq_ok.2 ⟨full, rfl⟩
      change (demand .password (some x)).map _ = _
      rw [demanded]
      rfl
  | firstName => rfl
  | middleName => rfl
  | lastName => rfl
  | comment => exact absurd rfl inner

/-- The steps that lead to the statements of an existing user. -/
theorem alteration_applyEdit (d : UserDraft) (t : FreeText) (x : String) :
    (d.applyEdit (t.edit x)).alteration = demand .name (some d.current.name) >>= fun name =>
      (d.applyEdit (t.edit "")).demandPlugin >>= fun _ =>
        (d.applyEdit (t.edit x)).options >>= fun options =>
          .ok ((d.applyEdit (t.edit "")).alterStatements (Sql.identifier name) options ++
            (d.applyEdit (t.edit x)).commentStatements name) := by
  cases t <;> rfl

theorem commentStatements_applyEdit_of_ne (d : UserDraft) {t : FreeText} (inner : t ≠ .comment)
    (x y name : String) :
    (d.applyEdit (t.edit x)).commentStatements name =
      (d.applyEdit (t.edit y)).commentStatements name := by
  cases t <;> first | exact absurd rfl inner | rfl

theorem commentStatements_applyEdit (d : UserDraft) {x : String} (full : Text.isBlank x = false)
    (name : String) :
    (d.applyEdit (FreeText.comment.edit x)).commentStatements name =
      [User.commentStatement (Sql.identifier name) (Sql.quoteText x)] := by
  have marked : (d.applyEdit (FreeText.comment.edit x)).isMarked .comment = true :=
    (Draft.isMarked_change d _ _ _).2 (.inl rfl)
  have literal : Sql.commentLiteral (d.applyEdit (FreeText.comment.edit x)).current.comment =
      Sql.quoteText x := by
    change (if Text.isBlank x then "NULL" else Sql.quoteText x) = Sql.quoteText x
    rw [full]
    rfl
  rw [commentStatements, if_pos marked, literal]

/-- A comment is no option. -/
theorem options_comment (d : UserDraft) (x y : String) :
    (d.applyEdit (FreeText.comment.edit x)).options =
      (d.applyEdit (FreeText.comment.edit y)).options := by
  rw [options, options, mapM_congr]
  intro part ordered
  refine d.markedOptions_applyEdit_of_ne ?_ x y
  rintro rfl
  exact absurd ordered (by decide)

/-- With one option for the text, the options in front of it and behind it are the same for all
texts. -/
theorem alteration_option (d : UserDraft) {t : FreeText} (inner : t ≠ .comment)
    {front back : List Part} (order : writingOrder = front ++ t.part :: back)
    (others : ∀ part ∈ front ++ back, part ≠ t.part) {x : String}
    (full : Text.isBlank x = false) :
    (d.applyEdit (t.edit x)).alteration = demand .name (some d.current.name) >>= fun name =>
      (d.applyEdit (t.edit "")).demandPlugin >>= fun _ =>
        front.mapM (d.applyEdit (t.edit "")).markedOptions >>= fun first =>
          back.mapM (d.applyEdit (t.edit "")).markedOptions >>= fun last =>
            .ok ((d.applyEdit (t.edit "")).alterStatements (Sql.identifier name)
              (first.flatten ++ (t.word ++ " " ++ Sql.quoteText (t.kept x)) :: last.flatten) ++
                (d.applyEdit (t.edit "")).commentStatements name) := by
  have around := mapM_around (d.markedOptions_applyEdit inner full)
    fun part mem => d.markedOptions_applyEdit_of_ne (others part mem) x ""
  rw [alteration_applyEdit]
  congr 1
  funext name
  congr 1
  funext _
  rw [options, order, around, d.commentStatements_applyEdit_of_ne inner x ""]
  cases front.mapM (d.applyEdit (t.edit "")).markedOptions with
  | error r => rfl
  | ok first =>
      cases back.mapM (d.applyEdit (t.edit "")).markedOptions with
      | error r => rfl
      | ok last =>
          change Except.ok _ = Except.ok _
          rw [List.flatten_append, List.flatten_cons, List.singleton_append]

/-- The statement with one option among others. -/
theorem alterStatements_around (d : UserDraft) (name option : String) (front back : List String) :
    d.alterStatements name (front ++ option :: back) =
      ["ALTER USER " ++ name ++ " SET" ++ String.join (front.map (" " ++ ·)) ++ " " ++ option ++
        (String.join (back.map (" " ++ ·)) ++ d.current.pluginClause)] := by
  have filled : front ++ option :: back ≠ [] := by simp
  have blank : (" SET " : String) = " SET" ++ " " := by decide
  -- The blank behind `SET` goes with the first option, and every option has one then.
  have opening : "ALTER USER " ++ name ++ " SET " ++ " ".intercalate (front ++ option :: back) =
      "ALTER USER " ++ name ++ " SET" ++
        String.join ((front ++ option :: back).map (" " ++ ·)) := by
    rw [blank, ← blank_intercalate filled]
    simp only [String.append_assoc]
  rw [alterStatements, if_neg (by simp), opening, List.map_append, List.map_cons,
    String.join_append, String.join_cons]
  simp only [String.append_assoc]

theorem writesText_alteration (d : UserDraft) (t : FreeText) :
    WritesText (t.keyword d.current.name) t.kept fun x =>
      (d.applyEdit (t.edit x)).alteration := by
  by_cases comment : t = .comment
  · -- No option looks at the comment, whose statement is the last one.
    subst comment
    refine WritesText.congr ?_ fun x _ => (d.alteration_applyEdit .comment x).trans
      (by rw [d.options_comment x ""])
    refine .bind fun name named => .bind fun _ _ => .bind fun options _ => ?_
    obtain rfl := (demand_some_eq_ok.1 named).2
    refine .of_frame ⟨(d.applyEdit (FreeText.comment.edit "")).alterStatements
      (Sql.identifier (Text.trim d.current.name)) options, "", "", []⟩ ?_
    intro x full
    rw [d.commentStatements_applyEdit full, User.commentStatement_eq]
    rfl
  · have ordered : t.part ∈ writingOrder := by
      cases t <;> first | decide | exact absurd rfl comment
    rcases exists_around (by decide) ordered with ⟨front, back, order, others⟩
    refine WritesText.congr ?_ fun x full => d.alteration_option comment order others full
    refine .bind fun name _ => .bind fun _ _ => .bind fun first _ => .bind fun last _ => ?_
    refine .of_frame ⟨[], "ALTER USER " ++ Sql.identifier name ++ " SET" ++
      String.join (first.flatten.map (" " ++ ·)), String.join (last.flatten.map (" " ++ ·)) ++
        (d.applyEdit (t.edit "")).current.pluginClause,
      (d.applyEdit (t.edit "")).commentStatements name⟩ ?_
    intro x full
    have keyword : t.keyword d.current.name = " " ++ t.word := by
      cases t <;> first | exact absurd rfl comment | rfl
    rw [alterStatements_around, Frame.fill, keyword, List.nil_append, List.singleton_append]
    simp only [String.append_assoc]

end UserDraft

end SchemaChange

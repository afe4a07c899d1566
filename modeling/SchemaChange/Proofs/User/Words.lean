import SchemaChange.Proofs.Refusal
import SchemaChange.Proofs.Sql.Value
import SchemaChange.User.Statements

/-!
# Proofs.User.Words — statements of users stay whole

Passwords, parts of names, texts of tags and comments are taken over between quotes, the plugin with
nothing around it. Names of users and of tags are written like all names.

- `User.creationInsertions`  : the texts that the statements of a new user take over
- `UserDraft.partInsertions` : those that one attribute of an existing user takes over
- `UserDraft.insertions`     : those of a draft
- `UserDraft.isWord_of_mem`  : its statements stay whole
-/

namespace SchemaChange

open Script (IsWord IsTail IsJoint IsLead)
open Sql (Insertion isWord_identifier)

namespace User

variable {u : User}

/-- The texts that the statements of a new user take over. -/
def creationInsertions (u : User) : List Insertion :=
  Sql.quotedInsertions u.password ++ Sql.quotedInsertions u.firstName ++
    Sql.quotedInsertions u.middleName ++ Sql.quotedInsertions u.lastName ++
    Sql.bareInsertions u.plugin ++ u.tags.entries.map (fun (_, value) => .quoted value) ++
    Sql.quotedInsertions u.comment

/-! ## Pieces of statements -/

theorem isWord_tagSetting (key : String) {value : String}
    (h : (Insertion.quoted value).IsSafe) : IsWord (tagSetting key value) := by
  have equals : IsJoint " = " := Script.isJoint_ofList _ rfl
  exact (isWord_identifier key).joint equals (Sql.isWord_quoteText h)

theorem isWord_tagRemoval (key : String) : IsWord (tagRemoval key) := by
  have verb : IsLead "DROP " := Script.isLead_ofList _ rfl
  exact verb.word (isWord_identifier key)

theorem isWord_tagOption {items : List String} (h : ∀ s ∈ items, IsWord s)
    (nonempty : items ≠ []) : IsWord (tagOption items) := by
  have lead : IsLead "TAGS (" := Script.isLead_ofList _ rfl
  have comma : IsJoint ", " := Script.isJoint_ofList _ rfl
  have close : IsTail ")" := Script.isTail_ofList _ rfl
  exact (lead.word (Script.isWord_intercalate comma h nonempty)).append close

theorem isWord_activity (u : User) : IsWord u.activity := by
  unfold activity
  split
  · exact Script.isWord_ofList _ rfl
  · exact Script.isWord_ofList _ rfl

theorem isTail_pluginClause (safe : ∀ i ∈ Sql.bareInsertions u.plugin, i.IsSafe) :
    IsTail u.pluginClause := by
  unfold pluginClause
  split
  · rename_i plugin found
    have lead : IsJoint " USING PLUGIN " := Script.isJoint_ofList _ rfl
    exact lead.word (Sql.isWord_of_bareInsertions found safe)
  · exact Script.isTail_empty

theorem isTail_namePart {keyword : String} (hk : IsWord keyword) {value : Option String}
    (safe : ∀ i ∈ Sql.quotedInsertions value, i.IsSafe) : IsTail (namePart keyword value) := by
  have blank : IsJoint " " := Script.isJoint_ofList _ rfl
  unfold namePart
  split
  · rename_i text found
    rw [String.append_assoc]
    exact (blank.word hk).append (blank.word (Sql.isWord_of_quotedInsertions found safe))
  · exact Script.isTail_empty

theorem isWord_commentStatement (name : String) {value : String} (h : IsWord value) :
    IsWord (commentStatement (Sql.identifier name) value) := by
  have lead : IsLead "COMMENT ON USER " := Script.isLead_ofList _ rfl
  have verb : IsJoint " IS " := Script.isJoint_ofList _ rfl
  exact (lead.word (isWord_identifier name)).joint verb h

/-! ## New users -/

theorem isWord_of_mem_creation {statements : List String} (h : u.creation = .ok statements)
    (safe : ∀ i ∈ u.creationInsertions, i.IsSafe) : ∀ s ∈ statements, IsWord s := by
  rcases bind_eq_ok.1 h with ⟨name, -, h⟩
  rcases bind_eq_ok.1 h with ⟨password, demanded, h⟩
  cases h
  simp only [creationInsertions, List.forall_mem_append] at safe
  rcases safe with ⟨⟨⟨⟨⟨⟨hpassword, hfirst⟩, hmiddle⟩, hlast⟩, hplugin⟩, htags⟩, hcomment⟩
  refine List.forall_mem_cons.2 ⟨?_, ?_⟩
  · -- The options follow in the order in which they are written.
    have lead : IsLead "CREATE USER " := Script.isLead_ofList _ rfl
    have secret : IsJoint " PASSWORD " := Script.isJoint_ofList _ rfl
    have blank : IsJoint " " := Script.isJoint_ofList _ rfl
    have account := (lead.word (isWord_identifier name)).joint secret
      (Sql.isWord_of_quotedInsertions (demand_eq_ok.1 demanded) hpassword)
    have first : IsTail (namePart "FIRSTNAME" u.firstName) :=
      isTail_namePart (Script.isWord_ofList _ rfl) hfirst
    have middle : IsTail (namePart "MIDDLENAME" u.middleName) :=
      isTail_namePart (Script.isWord_ofList _ rfl) hmiddle
    have last : IsTail (namePart "LASTNAME" u.lastName) :=
      isTail_namePart (Script.isWord_ofList _ rfl) hlast
    have named := ((account.append first).append middle).append last
    have attached := (named.joint blank u.isWord_activity).append (isTail_pluginClause hplugin)
    refine (attached.append ?_).append ?_
    · -- Tags; their names are written like all names.
      split
      · exact Script.isTail_empty
      · rename_i tagged
        refine blank.word (isWord_tagOption ?_ (by simpa using tagged))
        intro s hs
        rcases List.mem_map.1 hs with ⟨⟨key, value⟩, hentry, rfl⟩
        exact isWord_tagSetting key (htags _ (List.mem_map_of_mem hentry))
    · split
      · exact Script.isTail_ofList _ rfl
      · exact Script.isTail_empty
  · -- The comment.
    intro s hs
    rcases Option.map_eq_some_iff.1 (Option.mem_toList.1 hs) with ⟨text, found, rfl⟩
    exact isWord_commentStatement name (Sql.isWord_of_quotedInsertions found hcomment)

end User

namespace UserDraft

variable {d : UserDraft}

/-! ## Existing users -/

/-- The texts that the options or the comment of one attribute take over. -/
def partInsertions (d : UserDraft) : User.Part → List Insertion
  | .password => Sql.quotedInsertions d.current.password
  | .firstName => [.quoted (d.current.firstName.getD "")]
  | .middleName => [.quoted (d.current.middleName.getD "")]
  | .lastName => [.quoted (d.current.lastName.getD "")]
  | .active => []
  | .admin => []
  | .comment => Sql.commentInsertions d.current.comment
  | .plugin => []
  | .tags => d.tagsSet.map fun (_, value) => .quoted value

/-- There are options to set, so the plugin is written behind them. -/
def setsOptions (d : UserDraft) : Bool :=
  match d.options with
  | .ok options => !options.isEmpty
  | .error _ => false

/-- The texts that the statements of a draft take over. -/
def insertions (d : UserDraft) : List Insertion :=
  if d.existing then
    d.marks.attributes.flatMap d.partInsertions ++
      if d.setsOptions then Sql.bareInsertions d.current.plugin else []
  else d.current.creationInsertions

theorem mem_attributes_of_isMarked {part : User.Part} (h : d.isMarked part = true) :
    part ∈ d.marks.attributes := by
  rw [Marks.attributes, List.mem_filter]
  refine ⟨?_, h⟩
  cases part <;> decide

theorem isWord_nameOption {keyword : String} (hk : IsWord keyword) {value : Option String}
    (h : (Insertion.quoted (value.getD "")).IsSafe) : IsWord (nameOption keyword value) := by
  have blank : IsJoint " " := Script.isJoint_ofList _ rfl
  exact hk.joint blank (Sql.isWord_quoteText h)

theorem isWord_of_mem_tagsOption (safe : ∀ i ∈ d.partInsertions .tags, i.IsSafe) :
    ∀ s ∈ d.tagsOption, IsWord s := by
  rw [tagsOption]
  split
  · exact List.forall_mem_nil _
  · rename_i items
    refine List.forall_mem_singleton.2 (User.isWord_tagOption ?_ (by simpa using items))
    refine List.forall_mem_append.2 ⟨?_, ?_⟩
    · -- A tag that is set has its text between quotes.
      intro s hs
      rcases List.mem_map.1 hs with ⟨⟨key, value⟩, hentry, rfl⟩
      exact User.isWord_tagSetting key (safe _ (List.mem_map_of_mem hentry))
    · -- A tag that is dropped has none.
      intro s hs
      rcases List.mem_map.1 hs with ⟨key, -, rfl⟩
      exact User.isWord_tagRemoval key

theorem isWord_of_mem_partOptions {part : User.Part} {options : List String}
    (h : d.partOptions part = .ok options) (safe : ∀ i ∈ d.partInsertions part, i.IsSafe) :
    ∀ s ∈ options, IsWord s := by
  cases part with
  | password =>
      rcases map_eq_ok.1 h with ⟨password, demanded, rfl⟩
      have lead : IsLead "PASSWORD " := Script.isLead_ofList _ rfl
      have secret := Sql.isWord_of_quotedInsertions (demand_eq_ok.1 demanded) safe
      exact List.forall_mem_singleton.2 (lead.word secret)
  | firstName =>
      cases h
      have keyword : IsWord "FIRSTNAME" := Script.isWord_ofList _ rfl
      exact List.forall_mem_singleton.2 (isWord_nameOption keyword (safe _ List.mem_cons_self))
  | middleName =>
      cases h
      have keyword : IsWord "MIDDLENAME" := Script.isWord_ofList _ rfl
      exact List.forall_mem_singleton.2 (isWord_nameOption keyword (safe _ List.mem_cons_self))
  | lastName =>
      cases h
      have keyword : IsWord "LASTNAME" := Script.isWord_ofList _ rfl
      exact List.forall_mem_singleton.2 (isWord_nameOption keyword (safe _ List.mem_cons_self))
  | active =>
      cases h
      exact List.forall_mem_singleton.2 d.current.isWord_activity
  | admin =>
      cases h
      refine List.forall_mem_singleton.2 ?_
      split
      · exact Script.isWord_ofList _ rfl
      · exact Script.isWord_ofList _ rfl
  | comment =>
      cases h
      exact List.forall_mem_nil _
  | plugin =>
      cases h
      exact List.forall_mem_nil _
  | tags =>
      cases h
      exact isWord_of_mem_tagsOption safe

theorem isWord_of_mem_options {options : List String} (h : d.options = .ok options)
    (safe : ∀ part, d.isMarked part = true → ∀ i ∈ d.partInsertions part, i.IsSafe) :
    ∀ s ∈ options, IsWord s := by
  rcases map_eq_ok.1 h with ⟨groups, written, rfl⟩
  intro s hs
  -- The option belongs to one attribute, which was touched or has no options.
  rcases List.mem_flatten.1 hs with ⟨group, hgroup, hs⟩
  rcases exists_of_mapM_eq_ok written hgroup with ⟨part, -, written⟩
  unfold markedOptions at written
  split at written
  · rename_i marked
    exact isWord_of_mem_partOptions written (safe part marked) s hs
  · cases written
    cases hs

theorem isWord_of_mem_alterStatements (name : String) {options : List String}
    (h : d.options = .ok options) (words : ∀ s ∈ options, IsWord s)
    (safe : d.setsOptions = true → ∀ i ∈ Sql.bareInsertions d.current.plugin, i.IsSafe) :
    ∀ s ∈ d.alterStatements (Sql.identifier name) options, IsWord s := by
  unfold alterStatements
  split
  · exact List.forall_mem_nil _
  · rename_i full
    have sets : d.setsOptions = true := by
      rw [setsOptions, h]
      simpa using full
    have lead : IsLead "ALTER USER " := Script.isLead_ofList _ rfl
    have verb : IsJoint " SET " := Script.isJoint_ofList _ rfl
    have blank : IsJoint " " := Script.isJoint_ofList _ rfl
    have list := Script.isWord_intercalate blank words (by simpa using full)
    have options := (lead.word (isWord_identifier name)).joint verb list
    exact List.forall_mem_singleton.2 (options.append (User.isTail_pluginClause (safe sets)))

theorem isWord_of_mem_alteration {statements : List String} (h : d.alteration = .ok statements)
    (parts : ∀ part, d.isMarked part = true → ∀ i ∈ d.partInsertions part, i.IsSafe)
    (plugin : d.setsOptions = true → ∀ i ∈ Sql.bareInsertions d.current.plugin, i.IsSafe) :
    ∀ s ∈ statements, IsWord s := by
  rcases bind_eq_ok.1 h with ⟨name, -, h⟩
  rcases bind_eq_ok.1 h with ⟨_, -, h⟩
  rcases bind_eq_ok.1 h with ⟨options, hoptions, h⟩
  cases h
  have words := isWord_of_mem_options hoptions parts
  refine List.forall_mem_append.2 ⟨isWord_of_mem_alterStatements name hoptions words plugin, ?_⟩
  split
  · rename_i marked
    have value : IsWord (Sql.commentLiteral d.current.comment) :=
      Sql.isWord_commentLiteral (parts .comment marked)
    exact List.forall_mem_singleton.2 (User.isWord_commentStatement name value)
  · exact List.forall_mem_nil _

/-! ## Drafts -/

theorem isWord_of_mem {b : Script.Batch} (h : d.toBatch = .ok b)
    (safe : ∀ i ∈ d.insertions, i.IsSafe) : ∀ s ∈ b.statements, IsWord s := by
  unfold toBatch at h
  rcases map_eq_ok.1 h with ⟨statements, written, rfl⟩
  unfold insertions at safe
  split at written
  · rename_i existing
    rw [if_pos existing] at safe
    rcases List.forall_mem_append.1 safe with ⟨hparts, hplugin⟩
    refine isWord_of_mem_alteration written ?_ ?_
    · intro part marked i hi
      exact hparts i (List.mem_flatMap.2 ⟨part, mem_attributes_of_isMarked marked, hi⟩)
    · intro sets i hi
      exact hplugin i (by rwa [if_pos sets])
  · rename_i fresh
    rw [if_neg fresh] at safe
    exact User.isWord_of_mem_creation written safe

end UserDraft
end SchemaChange

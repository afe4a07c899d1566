import SchemaChange.Proofs.Attributes
import SchemaChange.Proofs.Refusal
import SchemaChange.Proofs.User.Edit

/-!
# Proofs.User.Alteration — one statement for all options of a user

What was touched of an existing user becomes options of one statement, which is left out if no
option is there. Tags are compared with the old ones, so that edits of tags may come to no option at
all; every other setter has its option whenever it was called.

- `UserDraft.tagItems`              : what is set and dropped in the option of the tags
- `UserDraft.IsOption`              : the option of each attribute
- `UserDraft.options_eq_ok`         : the options, one for each attribute that is written
- `UserDraft.Obstacle`              : why nothing is written, the first reason in front
- `UserDraft.alteration_applyEdits` : the statements behind a run of setters
-/

namespace SchemaChange
namespace UserDraft

open User (Edit Part)

/-! ## Options -/

/-- The tags that are set, and behind them those that are dropped. -/
def tagItems (d : UserDraft) : List String :=
  d.tagsSet.map (fun entry => User.tagSetting entry.1 entry.2) ++
    d.tagsRemoved.map User.tagRemoval

/-- The option of an attribute. -/
inductive IsOption (d : UserDraft) : Part → String → Prop
  | password {secret : String} (given : Text.nonBlank? d.current.password = some secret) :
      IsOption d .password ("PASSWORD " ++ Sql.quoteText secret)
  | firstName :
      IsOption d .firstName ("FIRSTNAME " ++ Sql.quoteText (d.current.firstName.getD ""))
  | middleName :
      IsOption d .middleName ("MIDDLENAME " ++ Sql.quoteText (d.current.middleName.getD ""))
  | lastName :
      IsOption d .lastName ("LASTNAME " ++ Sql.quoteText (d.current.lastName.getD ""))
  | active : IsOption d .active (if d.current.active then "ACTIVE" else "INACTIVE")
  | tags : IsOption d .tags (User.tagOption d.tagItems)
  | admin :
      IsOption d .admin (if d.current.admin then "GRANT ADMIN ROLE" else "REVOKE ADMIN ROLE")

/-- An attribute has an option if it was touched, and the tags have one if they are others than
they were, too. -/
def Writes (d : UserDraft) (part : Part) : Prop :=
  d.isMarked part = true ∧ (part = .tags → ¬d.initial.tags.Agree d.current.tags)

instance (d : UserDraft) (part : Part) : Decidable (d.Writes part) :=
  inferInstanceAs (Decidable (_ ∧ _))

theorem tagItems_eq_nil_iff (d : UserDraft) :
    d.tagItems = [] ↔ d.initial.tags.Agree d.current.tags := by
  rw [← (Attributes.isPatch_changes d.initial.tags d.current.tags).eq_nil_iff, tagItems,
    List.append_eq_nil_iff, List.map_eq_nil_iff, List.map_eq_nil_iff]
  rfl

theorem tagsOption_eq (d : UserDraft) :
    d.tagsOption =
      if d.initial.tags.Agree d.current.tags then [] else [User.tagOption d.tagItems] := by
  have items : d.tagsOption = if d.tagItems.isEmpty then [] else [User.tagOption d.tagItems] := rfl
  rw [items]
  simp only [List.isEmpty_iff, d.tagItems_eq_nil_iff]

/-- A step that gives one text gives the only option there is. -/
theorem ok_singleton_iff {R : String → Prop} {text : String}
    (own : ∀ option, R option ↔ option = text) {options : List String} :
    (.ok [text] : Except Refusal (List String)) = .ok options ↔
      ∃ option, R option ∧ options = [option] := by
  simp [own, eq_comm]

/-- A touched attribute has one option, unless it is the tags and they are as they were. -/
theorem partOptions_eq_ok {d : UserDraft} {part : Part} (ordered : part ∈ writingOrder)
    {options : List String} :
    d.partOptions part = .ok options ↔
      if part = .tags ∧ d.initial.tags.Agree d.current.tags then options = []
      else ∃ option, d.IsOption part option ∧ options = [option] := by
  cases part with
  | password =>
      rw [if_neg (by simp), partOptions, map_eq_ok]
      constructor
      · rintro ⟨secret, demanded, rfl⟩
        exact ⟨_, .password (demand_eq_ok.1 demanded), rfl⟩
      · rintro ⟨_, ⟨given⟩, rfl⟩
        exact ⟨_, demand_eq_ok.2 given, rfl⟩
  | tags =>
      rw [partOptions, tagsOption_eq]
      by_cases same : d.initial.tags.Agree d.current.tags
      · rw [if_pos same, if_pos ⟨rfl, same⟩, Except.ok.injEq, eq_comm]
      · rw [if_neg same, if_neg fun h => same h.2]
        refine ok_singleton_iff fun option => ⟨?_, ?_⟩
        · rintro ⟨⟩
          rfl
        · rintro rfl
          exact .tags
  | firstName | middleName | lastName | active | admin =>
      -- These options are written whatever the value is.
      rw [if_neg (by simp)]
      refine ok_singleton_iff fun option => ⟨?_, ?_⟩
      · rintro ⟨⟩
        rfl
      · rintro rfl
        constructor
  | comment => exact absurd ordered (by decide)
  | plugin => exact absurd ordered (by decide)

theorem markedOptions_eq_ok {d : UserDraft} {part : Part} (ordered : part ∈ writingOrder)
    {options : List String} :
    d.markedOptions part = .ok options ↔
      if d.Writes part then ∃ option, d.IsOption part option ∧ options = [option]
      else options = [] := by
  rw [markedOptions]
  by_cases marked : d.isMarked part = true
  · rw [if_pos marked, partOptions_eq_ok ordered]
    by_cases kept : part = .tags ∧ d.initial.tags.Agree d.current.tags
    · rw [if_pos kept, if_neg fun writes => writes.2 kept.1 kept.2]
    · rw [if_neg kept, if_pos ⟨marked, fun tags same => kept ⟨tags, same⟩⟩]
  · rw [if_neg marked, if_neg fun writes => marked writes.1, Except.ok.injEq, eq_comm]

/-- One option for each attribute that has one, in the order in which they are written. -/
theorem options_eq_ok {d : UserDraft} {options : List String} :
    d.options = .ok options ↔
      List.Forall₂ d.IsOption (writingOrder.filter fun part => d.Writes part) options := by
  refine mapM_single_eq_ok ?_
  intro part ordered results
  simp only [decide_eq_true_eq]
  exact markedOptions_eq_ok ordered

theorem exists_markedOptions_eq_ok (d : UserDraft) {part : Part} (other : part ≠ .password) :
    ∃ options, d.markedOptions part = .ok options := by
  rw [markedOptions]
  split
  · cases part <;> first | exact ⟨_, rfl⟩ | exact absurd rfl other
  · exact ⟨[], rfl⟩

/-- Only a password that is blank is in the way of the options. -/
theorem options_eq_error {d : UserDraft} {r : Refusal} :
    d.options = .error r ↔
      d.isMarked .password = true ∧ Text.nonBlank? d.current.password = none ∧
        .missing .password = r := by
  -- The password comes first, and what follows it is never refused.
  have later : ∃ groups, [.firstName, .middleName, .lastName, .active, .tags, .admin].mapM
      d.markedOptions = .ok groups := by
    refine ⟨_, mapM_lists_eq_ok.2 ⟨?_, rfl⟩⟩
    intro part mem
    refine d.exists_markedOptions_eq_ok ?_
    rintro rfl
    exact absurd mem (by decide)
  rcases later with ⟨groups, later⟩
  rw [options, map_eq_error, writingOrder, List.mapM_cons, later, bind_eq_error]
  have never : ¬∃ options, d.markedOptions .password = .ok options ∧
      (do let others ← Except.ok groups; pure (options :: others)) = .error r := by
    rintro ⟨options, -, h⟩
    cases h
  rw [or_iff_left never, markedOptions]
  split
  · rename_i marked
    rw [partOptions, map_eq_error, demand_eq_error]
    simp [marked]
  · rename_i unmarked
    simp [unmarked]

/-! ## Statements -/

/-- The plugin was touched and is another one now, blanks aside. -/
def MovesPlugin (d : UserDraft) : Prop :=
  d.isMarked .plugin = true ∧ Text.nonBlank? d.initial.plugin ≠ Text.nonBlank? d.current.plugin

theorem demandPlugin_eq_ok {d : UserDraft} {u : Unit} :
    d.demandPlugin = .ok u ↔ ¬d.MovesPlugin := by
  rw [demandPlugin]
  split
  · rename_i moves
    refine ⟨?_, fun kept => absurd moves kept⟩
    rintro ⟨⟩
  · rename_i kept
    exact ⟨fun _ => kept, fun _ => rfl⟩

theorem demandPlugin_eq_error {d : UserDraft} {r : Refusal} :
    d.demandPlugin = .error r ↔ d.MovesPlugin ∧ .pluginChanged = r := by
  rw [demandPlugin]
  split
  · rename_i moves
    rw [Except.error.injEq]
    exact ⟨fun same => ⟨moves, same⟩, fun h => h.2⟩
  · rename_i kept
    refine ⟨?_, fun h => absurd h.1 kept⟩
    rintro ⟨⟩

/-- The comment has a statement of its own if it was touched. -/
def commentStatements (d : UserDraft) (name : String) : List String :=
  if d.isMarked .comment then
    [User.commentStatement (Sql.identifier name) (Sql.commentLiteral d.current.comment)]
  else []

theorem alteration_eq_ok {d : UserDraft} {statements : List String} :
    d.alteration = .ok statements ↔
      Text.isBlank d.current.name = false ∧ ¬d.MovesPlugin ∧ ∃ options, d.options = .ok options ∧
        d.alterStatements (Sql.identifier (Text.trim d.current.name)) options ++
          d.commentStatements (Text.trim d.current.name) = statements := by
  unfold alteration
  constructor
  · intro h
    rcases bind_eq_ok.1 h with ⟨name, demanded, h⟩
    rcases bind_eq_ok.1 h with ⟨_, kept, h⟩
    rcases bind_eq_ok.1 h with ⟨options, written, h⟩
    cases h
    rcases demand_some_eq_ok.1 demanded with ⟨named, rfl⟩
    exact ⟨named, demandPlugin_eq_ok.1 kept, options, written, rfl⟩
  · rintro ⟨named, kept, options, written, rfl⟩
    have name : demand .name (some d.current.name) = .ok (Text.trim d.current.name) :=
      demand_some_eq_ok.2 ⟨named, rfl⟩
    have plugin : d.demandPlugin = .ok () := demandPlugin_eq_ok.2 kept
    exact bind_eq_ok.2 ⟨_, name, bind_eq_ok.2 ⟨(), plugin, bind_eq_ok.2 ⟨options, written, rfl⟩⟩⟩

/-- The name is looked at first, then the plugin, and the password last. -/
inductive IsRefused (d : UserDraft) : Refusal → Prop
  | name (blank : Text.isBlank d.current.name = true) : IsRefused d (.missing .name)
  | plugin (named : Text.isBlank d.current.name = false) (moves : d.MovesPlugin) :
      IsRefused d .pluginChanged
  | password (named : Text.isBlank d.current.name = false) (kept : ¬d.MovesPlugin)
      (touched : d.isMarked .password = true)
      (blank : Text.nonBlank? d.current.password = none) : IsRefused d (.missing .password)

theorem alteration_eq_error {d : UserDraft} {r : Refusal} :
    d.alteration = .error r ↔ d.IsRefused r := by
  unfold alteration
  constructor
  · -- Each step that is passed is a reason less for the steps behind it.
    intro h
    rcases bind_eq_error.1 h with name | ⟨name, named, h⟩
    · rcases demand_some_eq_error.1 name with ⟨blank, rfl⟩
      exact .name blank
    · have named := (demand_some_eq_ok.1 named).1
      rcases bind_eq_error.1 h with plugin | ⟨_, kept, h⟩
      · rcases demandPlugin_eq_error.1 plugin with ⟨moves, rfl⟩
        exact .plugin named moves
      · have kept := demandPlugin_eq_ok.1 kept
        rcases bind_eq_error.1 h with password | ⟨_, -, h⟩
        · rcases options_eq_error.1 password with ⟨touched, blank, rfl⟩
          exact .password named kept touched blank
        · cases h
  · intro refused
    have name : Text.isBlank d.current.name = false →
        demand .name (some d.current.name) = .ok (Text.trim d.current.name) :=
      fun named => demand_some_eq_ok.2 ⟨named, rfl⟩
    cases refused with
    | name blank => exact bind_eq_error.2 (.inl (demand_some_eq_error.2 ⟨blank, rfl⟩))
    | plugin named moves =>
        have plugin := demandPlugin_eq_error.2 ⟨moves, rfl⟩
        exact bind_eq_error.2 (.inr ⟨_, name named, bind_eq_error.2 (.inl plugin)⟩)
    | password named kept touched blank =>
        have plugin : d.demandPlugin = .ok () := demandPlugin_eq_ok.2 kept
        have password := options_eq_error.2 ⟨touched, blank, rfl⟩
        exact bind_eq_error.2 (.inr ⟨_, name named,
          bind_eq_error.2 (.inr ⟨(), plugin, bind_eq_error.2 (.inl password)⟩)⟩)

/-! ## Runs of setters -/

/-- The setter of the attribute was called; setting and removing tags are both setters of the
tags. -/
def Called (edits : List Edit) (part : Part) : Prop :=
  ∃ e ∈ edits, e.part = part

instance (edits : List Edit) (part : Part) : Decidable (Called edits part) :=
  inferInstanceAs (Decidable (∃ e ∈ edits, e.part = part))

/-- The setter of the plugin was called, and the plugin is another one now, blanks aside. -/
def Replugged (values : User) (edits : List Edit) (current : User) : Prop :=
  Called edits .plugin ∧ Text.nonBlank? values.plugin ≠ Text.nonBlank? current.plugin

/-- Why nothing is written for a user behind setters; of several reasons the first one counts. -/
inductive Obstacle (values : User) (edits : List Edit) (current : User) : Refusal → Prop
  | name (blank : Text.isBlank values.name = true) :
      Obstacle values edits current (.missing .name)
  | plugin (named : Text.isBlank values.name = false) (moved : Replugged values edits current) :
      Obstacle values edits current .pluginChanged
  | password (named : Text.isBlank values.name = false) (kept : ¬Replugged values edits current)
      (called : Called edits .password) (blank : Text.nonBlank? current.password = none) :
      Obstacle values edits current (.missing .password)

/-- An option is due: for the tags if they are others than before, else if the setter was called. -/
def IsDue (values : User) (edits : List Edit) (current : User) (part : Part) : Prop :=
  if part = .tags then ¬values.tags.Agree current.tags else Called edits part

instance (values : User) (edits : List Edit) (current : User) (part : Part) :
    Decidable (IsDue values edits current part) :=
  inferInstanceAs
    (Decidable (if part = .tags then ¬values.tags.Agree current.tags else Called edits part))

/-- The attributes whose options are due, in the order in which they are written. -/
def dueParts (values : User) (edits : List Edit) (current : User) : List Part :=
  [.password, .firstName, .middleName, .lastName, .active, .tags, .admin].filter
    fun part => IsDue values edits current part

/-- The statement with all options, if there are any, and with the plugin behind them, if it is not
blank. -/
def settingStatements (values : User) (options : List String) : List String :=
  if options = [] then []
  else
    ["ALTER USER " ++ Sql.identifier (Text.trim values.name) ++ " SET " ++
      " ".intercalate options ++
      (Text.nonBlank? values.plugin).elim "" fun plugin => " USING PLUGIN " ++ plugin]

/-- The statement of the comment, if its setter was called. -/
def dueComment (values : User) (edits : List Edit) (current : User) : List String :=
  if Called edits .comment then
    [User.commentStatement (Sql.identifier (Text.trim values.name))
      (Sql.commentLiteral current.comment)]
  else []

section Runs

variable {values : User} {edits : List Edit} {d : UserDraft}

theorem movesPlugin_iff (account : Account values true edits d) :
    d.MovesPlugin ↔ Replugged values edits d.current := by
  rw [MovesPlugin, Replugged, account.marked, account.initial]
  rfl

theorem isRefused_iff (account : Account values true edits d) {r : Refusal} :
    d.IsRefused r ↔ Obstacle values edits d.current r := by
  have moves := movesPlugin_iff account
  constructor
  · rintro (blank | ⟨named, moved⟩ | ⟨named, kept, touched, blank⟩)
    · exact .name (account.name ▸ blank)
    · exact .plugin (account.name ▸ named) (moves.1 moved)
    · exact .password (account.name ▸ named) (fun moved => kept (moves.2 moved))
        ((account.marked .password).1 touched) blank
  · rintro (blank | ⟨named, moved⟩ | ⟨named, kept, called, blank⟩)
    · exact .name (account.name ▸ blank)
    · exact .plugin (account.name ▸ named) (moves.2 moved)
    · exact .password (account.name ▸ named) (fun moved => kept (moves.1 moved))
        ((account.marked .password).2 called) blank

/-- Tags that are others than before were touched. -/
theorem writes_iff (account : Account values true edits d) (part : Part) :
    d.Writes part ↔ IsDue values edits d.current part := by
  rw [Writes, IsDue, account.marked, account.initial, ← Called]
  by_cases tags : part = .tags
  · subst tags
    -- Only edits of tags change tags.
    have touched : ¬values.tags.Agree d.current.tags → Called edits .tags := by
      intro differ
      refine (account.marked .tags).1 (account.changed .tags ?_)
      intro same
      have same : d.current.tags = values.tags := same
      exact differ (same ▸ Attributes.Agree.refl _)
    simpa using touched
  · simp [tags]

/-- The plugin is the one from before, blanks aside. -/
theorem pluginClause_eq (account : Account values true edits d) (kept : ¬d.MovesPlugin) :
    d.current.pluginClause =
      (Text.nonBlank? values.plugin).elim "" fun plugin => " USING PLUGIN " ++ plugin := by
  have same : Text.nonBlank? d.current.plugin = Text.nonBlank? values.plugin := by
    -- A plugin without a mark is the old one itself.
    by_contra differ
    have marked : d.isMarked .plugin = true := by
      refine account.changed .plugin ?_
      intro equal
      have equal : d.current.plugin = values.plugin := equal
      exact differ (equal ▸ rfl)
    exact kept ⟨marked, account.initial ▸ Ne.symm differ⟩
  rw [User.pluginClause, same]
  cases Text.nonBlank? values.plugin <;> rfl

theorem alterStatements_eq (account : Account values true edits d) (kept : ¬d.MovesPlugin)
    (options : List String) :
    d.alterStatements (Sql.identifier (Text.trim d.current.name)) options =
      settingStatements values options := by
  rw [alterStatements, settingStatements, pluginClause_eq account kept, account.name]
  simp only [List.isEmpty_iff]

theorem commentStatements_eq (account : Account values true edits d) :
    d.commentStatements (Text.trim d.current.name) = dueComment values edits d.current := by
  have touched : d.isMarked .comment = true ↔ Called edits .comment := account.marked .comment
  rw [commentStatements, dueComment, account.name]
  simp only [touched]

theorem toBatch_eq_error (account : Account values true edits d) {r : Refusal} :
    d.toBatch = .error r ↔ Obstacle values edits d.current r := by
  rw [toBatch, account.existing, if_pos rfl, map_eq_error, alteration_eq_error,
    isRefused_iff account]

theorem exists_options_of_toBatch (account : Account values true edits d) {b : Script.Batch}
    (h : d.toBatch = .ok b) : ∃ options,
      List.Forall₂ d.IsOption (dueParts values edits d.current) options ∧
      b = Script.Batch.ofStatements
        (settingStatements values options ++ dueComment values edits d.current) := by
  rw [toBatch, account.existing, if_pos rfl] at h
  rcases map_eq_ok.1 h with ⟨statements, written, rfl⟩
  rcases alteration_eq_ok.1 written with ⟨-, kept, options, due, rfl⟩
  refine ⟨options, ?_, ?_⟩
  · rw [options_eq_ok, writingOrder] at due
    simpa only [dueParts, writes_iff account] using due
  · rw [alterStatements_eq account kept, commentStatements_eq account]

end Runs

/-- Behind any run of setters of an existing user a refusal is the first obstacle there is. Without
one there are at most two statements, one for all options that are due, in their order, and one for
the comment. -/
theorem alteration_applyEdits (values : User) (edits : List Edit) :
    let d := applyEdits (Draft.ofExisting values) edits
    (∀ r, d.toBatch = .error r ↔ Obstacle values edits d.current r) ∧
    ((∀ r, ¬Obstacle values edits d.current r) → ∃ options,
      List.Forall₂ d.IsOption (dueParts values edits d.current) options ∧
      d.toBatch = .ok (Script.Batch.ofStatements
        (settingStatements values options ++ dueComment values edits d.current))) := by
  intro d
  have account : Account values true edits d := account_applyEdits values true edits
  refine ⟨fun r => toBatch_eq_error account, ?_⟩
  intro free
  -- What is not refused is written.
  cases written : d.toBatch with
  | error r => exact absurd ((toBatch_eq_error account).1 written) (free r)
  | ok b =>
      rcases exists_options_of_toBatch account written with ⟨options, due, rfl⟩
      exact ⟨options, due, rfl⟩

/-- A user whose plugin is set to what it was, without a blank. One tag is removed and set again,
which moves it behind the other one and changes nothing else. -/
theorem alteration_applyEdits_withoutTags :
    let values : User :=
      { name := " U ", plugin := some "Srp ", tags := .ofList [("A", "1"), ("B", "2")] }
    let edits : List Edit :=
      [.removeTag "A", .admin true, .comment none, .plugin (some "Srp"), .setTag "A" "1",
        .firstName none, .password "s"]
    let d := applyEdits (Draft.ofExisting values) edits
    (∀ r, ¬Obstacle values edits d.current r) ∧
      d.current.tags.keys = ["B", "A"] ∧
      ∃ options, List.Forall₂ d.IsOption [.password, .firstName, .admin] options ∧
        d.toBatch = .ok
          ⟨settingStatements values options ++ ["COMMENT ON USER U IS NULL"], "^"⟩ := by
  intro values edits d
  have free : ∀ r, ¬Obstacle values edits d.current r := by
    rintro r (blank | ⟨-, -, differs⟩ | ⟨-, -, -, blank⟩)
    · exact absurd blank (by decide +kernel)
    · exact differs (by decide +kernel)
    · exact absurd blank (by decide +kernel)
  refine ⟨free, by decide +kernel, ?_⟩
  rcases (alteration_applyEdits values edits).2 free with ⟨options, due, written⟩
  have order : dueParts values edits d.current = [.password, .firstName, .admin] := by
    decide +kernel
  have comment : dueComment values edits d.current = ["COMMENT ON USER U IS NULL"] := by
    decide +kernel
  refine ⟨options, order ▸ due, ?_⟩
  rw [written, comment]
  rfl

end UserDraft
end SchemaChange

import SchemaChange.Attachment
import SchemaChange.CommandLine.Storage
import SchemaChange.Proofs.Json.Record

/-!
# Proofs.Configuration — settings and attachments that are kept

What is written for settings and for attachments is read as they were, whatever characters their
texts have. A settings file that tells only a part of the settings leaves the rest at its defaults.

- `Json.Value.without`                    : a tree with members left out
- `Settings.reset`                        : settings of which a part is at its defaults
- `Settings.ofJson?_without`              : the parts that a file does not tell
- `Storage.Accepts`, `Storage.Keeps`      : what is asked of the place of a file
- `CommandLine.configuration_kept`        : settings saved, loaded in part, and attachments
- `CommandLine.configuration_kept_nested` : the same for a file in a new directory
-/

namespace SchemaChange
namespace Json

/-! ## Texts of trees -/

variable {v : Value}

theorem outline?_of_read? {text : String} (h : read? text = some v) : outline? text = some v :=
  (Option.filter_eq_some_iff.1 h).1

/-- In any layout the text of a plain tree is that tree in outline. -/
theorem IsPlain.outline?_chars (h : IsPlain nestingLimit v) (l : Layout) :
    outline? (String.ofList (l.chars 0 v)) = some v :=
  outline?_of_read? (h.read?_chars l)

/-! ## Members left out -/

mutual

/-- The tree without the members that are dropped. A member goes by the names of the objects around
it, from the outermost one inwards, and its own. -/
def Value.without (dropped : List String → Bool) (path : List String) : Value → Value
  | .object members => .object (membersWithout dropped path members)
  | v => v

/-- The members of the object at the path that are not dropped. -/
def membersWithout (dropped : List String → Bool) (path : List String) :
    List (String × Value) → Members
  | [] => []
  | (name, v) :: ms =>
      if dropped (path ++ [name]) then membersWithout dropped path ms
      else (name, v.without dropped (path ++ [name])) :: membersWithout dropped path ms

end

theorem membersWithout_cons (dropped : List String → Bool) (path : List String) (name : String)
    (v : Value) (ms : Members) :
    membersWithout dropped path ((name, v) :: ms) =
      (if dropped (path ++ [name]) then [] else [(name, v.without dropped (path ++ [name]))]) ++
        membersWithout dropped path ms := by
  rw [membersWithout]
  split
  · rfl
  · rfl

theorem mem_membersWithout {dropped : List String → Bool} {path : List String} {ms : Members}
    {member : String × Value} (h : member ∈ membersWithout dropped path ms) :
    ∃ whole ∈ ms, member.2 = whole.2.without dropped (path ++ [whole.1]) := by
  induction ms with
  | nil => cases h
  | cons first rest ih =>
      have later : member ∈ membersWithout dropped path rest →
          ∃ whole ∈ first :: rest, member.2 = whole.2.without dropped (path ++ [whole.1]) := by
        intro inRest
        rcases ih inRest with ⟨whole, mem, value⟩
        exact ⟨whole, List.mem_cons_of_mem first mem, value⟩
      rw [membersWithout] at h
      split at h
      · exact later h
      · rcases List.mem_cons.1 h with rfl | inRest
        · exact ⟨first, List.mem_cons_self, rfl⟩
        · exact later inRest

theorem IsPlain.without {levels : Nat} (h : IsPlain levels v) (dropped : List String → Bool)
    (path : List String) : IsPlain levels (v.without dropped path) := by
  induction h generalizing path with
  | null levels => exact .null levels
  | bool levels b => exact .bool levels b
  | integer levels low high => exact .integer levels low high
  | text levels s => exact .text levels s
  | array items _ => exact .array items
  | object _ ih =>
      refine .object ?_
      intro member mem
      rcases mem_membersWithout mem with ⟨whole, inWhole, value⟩
      rw [value]
      exact ih whole inWhole (path ++ [whole.1])

/-! ## Ports -/

@[simp] theorem uint16Of?_ofNat (n : UInt16) : uint16Of? (ofNat n.toNat) = some n := by
  have bounds : (0 : Int) ≤ n.toNat ∧ (n.toNat : Int) ≤ 0xFFFF := by
    have := n.toNat_lt
    omega
  simp [uint16Of?, ofNat, integerOf?, bounds]

theorem isPlain_ofNat_port (levels : Nat) (n : UInt16) : IsPlain levels (ofNat n.toNat) := by
  have := n.toNat_lt
  exact .integer levels (by omega) (by omega)

end Json

open Json (Layout IsPlain Members Value)

/-! ## Attachments -/

namespace Attachment

theorem ofJson?_toJson (a : Attachment) : ofJson? a.toJson = some { a with password := none } := by
  simp [ofJson?, ofMembers?, toJson, Members.field?]

theorem isPlain_toJson (levels : Nat) (a : Attachment) : IsPlain (levels + 2) a.toJson := by
  refine .object ?_
  simp [Json.isPlain_ofNat_port]

theorem parse?_render (a : Attachment) : parse? a.render = some { a with password := none } := by
  have read := (a.isPlain_toJson 125).read?_render
  rw [parse?, render, Json.outline?_of_read? read, Option.bind_some, ofJson?_toJson]

end Attachment

/-! ## Settings -/

namespace Settings

/-- The settings with the dropped sections and fields at their defaults. -/
def reset (dropped : List String → Bool) (s : Settings) : Settings where
  ddl :=
    if dropped ["ddl"] then {}
    else
      { delimiter :=
          if dropped ["ddl", "delimiter"] then ({} : Ddl).delimiter else s.ddl.delimiter
        packagePlaceholder :=
          if dropped ["ddl", "package_placeholder"] then ({} : Ddl).packagePlaceholder
          else s.ddl.packagePlaceholder }
  logging :=
    if dropped ["logging"] then {}
    else
      { filter :=
          if dropped ["logging", "filter"] then ({} : Logging).filter else s.logging.filter }

theorem isPlain_toJson (levels : Nat) (s : Settings) : IsPlain (levels + 2) s.toJson := by
  refine .object ?_
  simp only [List.forall_mem_cons]
  refine ⟨.object ?_, .object ?_, List.forall_mem_nil _⟩
  · simp
  · simp

variable (dropped : List String → Bool)

theorem toJson_without (s : Settings) :
    s.toJson.without dropped [] = .object
      ((if dropped ["ddl"] then []
        else [("ddl", .object (Json.membersWithout dropped ["ddl"]
          [ ("delimiter", .text s.ddl.delimiter),
            ("package_placeholder", .text s.ddl.packagePlaceholder) ]))]) ++
      (if dropped ["logging"] then []
        else [("logging", .object (Json.membersWithout dropped ["logging"]
          [("filter", .text s.logging.filter)]))])) := by
  rw [toJson, Value.without, Json.membersWithout_cons, Json.membersWithout_cons]
  simp [Json.membersWithout, Value.without]

theorem ddlOf?_without (d : Ddl) :
    ddlOf? (.object (Json.membersWithout dropped ["ddl"]
        [("delimiter", .text d.delimiter), ("package_placeholder", .text d.packagePlaceholder)])) =
      some
        { delimiter := if dropped ["ddl", "delimiter"] then ({} : Ddl).delimiter else d.delimiter
          packagePlaceholder :=
            if dropped ["ddl", "package_placeholder"] then ({} : Ddl).packagePlaceholder
            else d.packagePlaceholder } := by
  by_cases delimiter : dropped ["ddl", "delimiter"] = true <;>
    by_cases placeholder : dropped ["ddl", "package_placeholder"] = true <;>
    simp [ddlOf?, Json.membersWithout, Value.without, Members.field?, delimiter, placeholder]

theorem loggingOf?_without (l : Logging) :
    loggingOf? (.object (Json.membersWithout dropped ["logging"]
        [("filter", .text l.filter)])) =
      some
        { filter := if dropped ["logging", "filter"] then ({} : Logging).filter else l.filter } := by
  by_cases filter : dropped ["logging", "filter"] = true <;>
    simp [loggingOf?, Json.membersWithout, Value.without, Members.field?, filter]

/-- What a file does not tell is at its default, and all else is as the file tells. -/
theorem ofJson?_without (s : Settings) :
    ofJson? (s.toJson.without dropped []) = some (s.reset dropped) := by
  -- The sections that are there keep their own gaps, which are for their decoders.
  have sections := s.toJson_without dropped
  by_cases ddl : dropped ["ddl"] = true <;> by_cases logging : dropped ["logging"] = true <;>
    simp [sections, ofJson?, Members.field?, reset, ddl, logging, ddlOf?_without,
      loggingOf?_without]

theorem parse?_without (s : Settings) (l : Layout) :
    parse? (String.ofList (l.chars 0 (s.toJson.without dropped []))) = some (s.reset dropped) := by
  have plain := (s.isPlain_toJson 125).without dropped []
  rw [parse?, plain.outline?_chars l, Option.bind_some, ofJson?_without]

theorem ofJson?_toJson (s : Settings) : ofJson? s.toJson = some s := by
  simp [ofJson?, ddlOf?, loggingOf?, toJson, Members.field?]

theorem parse?_render (s : Settings) : parse? s.render = some s := by
  have read := (s.isPlain_toJson 125).read?_renderPretty
  rw [parse?, render, Json.outline?_of_read? read, Option.bind_some, ofJson?_toJson]

end Settings

/-! ## Files -/

namespace CommandLine

namespace Storage

variable {State : Type} (storage : Storage State)

/-- A path that can be written: the directories around it can be made, and the file takes any
text. -/
def Accepts (state : State) (path : String) : Prop :=
  ∃ prepared, storage.prepare state path = .ok prepared ∧
    ∀ text, ∃ after, storage.write prepared path text = .ok after

/-- What is written into the file is found there. -/
def Keeps (path : String) : Prop :=
  ∀ state text after, storage.write state path text = .ok after →
    storage.entry after path = .file text

end Storage

theorem readSettings_of_file {around : Surroundings} {path text : String} {settings : Settings}
    (file : around.entry path = .file text) (parsed : Settings.parse? text = some settings) :
    readSettings around path = .ok settings := by
  simp [readSettings, file, Entry.isThere, Entry.text?, parsed]

theorem readSettings_saveSettings {State : Type} {storage : Storage State} {state : State}
    {path : String} (accepts : storage.Accepts state path) (keeps : storage.Keeps path)
    (settings : Settings) :
    ∃ after, saveSettings storage settings state path = .ok after ∧
      ∀ around : Surroundings, around.entry = storage.entry after →
        readSettings around path = .ok settings := by
  rcases accepts with ⟨prepared, directories, takes⟩
  rcases takes settings.render with ⟨after, written⟩
  refine ⟨after, ?_, ?_⟩
  · rw [saveSettings, directories]
    simp [bind, Except.bind, Except.mapError, written]
  · intro around same
    have file : around.entry path = .file settings.render := by
      rw [same]
      exact keeps prepared settings.render after written
    exact readSettings_of_file file settings.parse?_render

/-- Settings are loaded as they were saved; of a file that tells only a part of them the rest is at
its defaults; and an attachment is read as it was written, but for its password. -/
theorem configuration_kept :
    (∀ {State : Type} (storage : Storage State) (state : State) (path : String),
      storage.Accepts state path → storage.Keeps path → ∀ settings : Settings,
        ∃ after, saveSettings storage settings state path = .ok after ∧
          ∀ around : Surroundings, around.entry = storage.entry after →
            readSettings around path = .ok settings) ∧
      (∀ (settings : Settings) (dropped : List String → Bool) (l : Layout)
        (around : Surroundings) (path : String),
        around.entry path =
            .file (String.ofList (l.chars 0 (settings.toJson.without dropped []))) →
          readSettings around path = .ok (settings.reset dropped)) ∧
      ∀ a : Attachment, Attachment.parse? a.render = some { a with password := none } := by
  refine ⟨?_, ?_, Attachment.parse?_render⟩
  · intro State storage state path accepts keeps settings
    exact readSettings_saveSettings accepts keeps settings
  · intro settings dropped l around path file
    exact readSettings_of_file file (settings.parse?_without dropped l)

/-- Directories and files by their paths. -/
structure Tree where
  directories : List String
  files : List (String × String)

namespace Tree

def entry (t : Tree) (path : String) : Entry :=
  if path ∈ t.directories then .directory
  else
    match t.files.lookup path with
    | some text => .file text
    | none => if (parent? path).any (· ∈ t.directories) then .vacant else .unreachable

/-- A file can be put into a directory that is there. -/
def write (t : Tree) (path text : String) : Except String Tree :=
  if path ∈ t.directories then .error "Is a directory (os error 21)"
  else if (parent? path).any (· ∈ t.directories) then
    .ok { t with files := (path, text) :: t.files }
  else .error "No such file or directory (os error 2)"

def storage : Storage Tree where
  entry := entry
  makeDirectories t directory := .ok { t with directories := directory :: t.directories }
  write := write

theorem keeps_storage (path : String) : storage.Keeps path := by
  intro t text after written
  change t.write path text = .ok after at written
  unfold write at written
  split at written
  · cases written
  · rename_i free
    split at written
    · cases written
      change entry _ path = .file text
      simp [entry, free]
    · cases written

theorem accepts_storage {t : Tree} {path directory : String}
    (inside : parent? path = some directory) (free : path ∉ directory :: t.directories) :
    storage.Accepts t path := by
  refine ⟨{ t with directories := directory :: t.directories }, ?_, ?_⟩
  · rw [Storage.prepare, inside]
    rfl
  · intro text
    refine ⟨{ directories := directory :: t.directories, files := (path, text) :: t.files }, ?_⟩
    change write _ path text = _
    simp [write, inside, free]

end Tree

theorem configuration_kept_nested :
    (Tree.storage.Accepts ⟨[""], []⟩ "nested/settings.json" ∧
        Tree.storage.Keeps "nested/settings.json") ∧
      (∃ after, saveSettings Tree.storage { ddl := { delimiter := "\x22\\\n" } } ⟨[""], []⟩
          "nested/settings.json" = .ok after ∧
        readSettings ⟨none, none, "", after.entry⟩ "nested/settings.json" =
          .ok { ddl := { delimiter := "\x22\\\n" } }) ∧
      readSettings
          ⟨none, none, "", fun _ => .file (String.ofList (Layout.lines.chars 0
            (Value.without (· == ["ddl"]) []
              (Settings.toJson { ddl := { delimiter := ";" }, logging := { filter := "debug" } }))))⟩
          "settings.json" = .ok { logging := { filter := "debug" } } ∧
      Attachment.parse? ((Attachment.server "localhost" "db").loggedInAs "SYSDBA" "secret"
          |>.setProperty "b" "\x22" |>.setProperty "a" "").render =
        some ({ Attachment.server "localhost" "db" with username := some "SYSDBA" }
          |>.setProperty "b" "\x22" |>.setProperty "a" "") := by
  have inside : parent? "nested/settings.json" = some "nested" := by decide +kernel
  have accepts : Tree.storage.Accepts ⟨[""], []⟩ "nested/settings.json" :=
    Tree.accepts_storage inside (by decide)
  have keeps := Tree.keeps_storage "nested/settings.json"
  rcases configuration_kept with ⟨saved, loaded, attached⟩
  refine ⟨⟨accepts, keeps⟩, ?_, ?_, attached _⟩
  · rcases saved Tree.storage ⟨[""], []⟩ "nested/settings.json" accepts keeps
        { ddl := { delimiter := "\x22\\\n" } } with ⟨after, written, read⟩
    exact ⟨after, written, read ⟨none, none, "", after.entry⟩ rfl⟩
  · exact loaded { ddl := { delimiter := ";" }, logging := { filter := "debug" } } (· == ["ddl"])
      .lines _ "settings.json" rfl

end CommandLine
end SchemaChange

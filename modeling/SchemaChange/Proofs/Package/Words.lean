import SchemaChange.Package.Statements
import SchemaChange.Proofs.Refusal
import SchemaChange.Proofs.Sql.Value
import SchemaChange.Proofs.Text.Replace

/-!
# Proofs.Package.Words — statements of packages stay whole

Header and body are statements by themselves once the name is filled in. They are trimmed before,
and a written name has no blank at its ends, so they are trimmed afterwards too.

- `Package.insertions`    : the filled-in sources and the comment
- `Package.isWord_of_mem` : the statements stay whole
-/

namespace SchemaChange
namespace Package

open Script (IsWord IsTail IsJoint IsLead)
open Sql (Insertion isWord_identifier)

variable {p : Package}

/-- A source as its statement takes it over. -/
def filledSource (p : Package) (source : String) : String :=
  p.fillIn (Text.trim source) (Sql.identifier (Text.trim p.name))

/-- The texts that the statements of a package take over. -/
def insertions (p : Package) : List Insertion :=
  [.verbatim (p.filledSource p.header), .verbatim (p.filledSource p.body)] ++
    Sql.quotedInsertions p.description

theorem isWord_filledSource {source : String} (full : Text.isBlank source = false)
    (h : (Insertion.verbatim (p.filledSource source)).IsSafe) : IsWord (p.filledSource source) := by
  -- A written name is never empty, so a source does not vanish if it is nothing but placeholders.
  have name := isWord_identifier (Text.trim p.name)
  have written : Sql.identifier (Text.trim p.name) ≠ "" := by
    simpa using name.nonempty
  have trimmed : Text.IsTrimmed (p.filledSource source).toList :=
    Text.isTrimmed_replaceAll written name.trimmed (Text.isTrimmed_trim source)
  have nonempty : p.filledSource source ≠ "" :=
    Text.replaceAll_ne_empty written (Text.isBlank_eq_false_iff.1 full)
  exact Sql.isWord_verbatim h (Text.trim_eq_self_iff.2 trimmed) nonempty

theorem isWord_of_mem_commentStatements (name : String)
    (safe : ∀ i ∈ Sql.quotedInsertions p.description, i.IsSafe) :
    ∀ s ∈ p.commentStatements (Sql.identifier name), IsWord s := by
  have lead : IsLead "COMMENT ON PACKAGE " := Script.isLead_ofList _ rfl
  have target := lead.word (isWord_identifier name)
  unfold commentStatements
  split
  · exact List.forall_mem_nil _
  · rename_i text given
    split
    · rename_i full
      have found : Text.nonBlank? p.description = some (Text.trim text) := by
        rw [given, Text.nonBlank?_some, if_neg (by simpa using full)]
      have verb : IsJoint " IS " := Script.isJoint_ofList _ rfl
      have value := Sql.isWord_of_quotedInsertions found safe
      exact List.forall_mem_singleton.2 (target.joint verb value)
    · split
      · have null : IsTail " IS NULL" := Script.isTail_ofList _ rfl
        exact List.forall_mem_singleton.2 (target.append null)
      · exact List.forall_mem_nil _

theorem isWord_of_mem {b : Script.Batch} (h : p.toBatch = .ok b)
    (safe : ∀ i ∈ p.insertions, i.IsSafe) : ∀ s ∈ b.statements, IsWord s := by
  rcases map_eq_ok.1 h with ⟨statements, written, rfl⟩
  rcases bind_eq_ok.1 written with ⟨name, hname, written⟩
  rcases bind_eq_ok.1 written with ⟨header, hheader, written⟩
  rcases bind_eq_ok.1 written with ⟨body, hbody, written⟩
  cases written
  rcases demand_some_eq_ok.1 hname with ⟨-, rfl⟩
  rcases demand_some_eq_ok.1 hheader with ⟨headerFull, rfl⟩
  rcases demand_some_eq_ok.1 hbody with ⟨bodyFull, rfl⟩
  rcases List.forall_mem_append.1 safe with ⟨hsources, hcomment⟩
  rcases List.forall_mem_cons.1 hsources with ⟨hfirst, hrest⟩
  have header : IsWord (p.filledSource p.header) := isWord_filledSource headerFull hfirst
  have body : IsWord (p.filledSource p.body) :=
    isWord_filledSource bodyFull (List.forall_mem_singleton.1 hrest)
  refine List.forall_mem_append.2 ⟨?_, p.isWord_of_mem_commentStatements _ hcomment⟩
  exact List.forall_mem_cons.2 ⟨header, List.forall_mem_singleton.2 body⟩

end Package
end SchemaChange

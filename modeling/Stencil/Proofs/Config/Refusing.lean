import Stencil.Proofs.Config.Merging

/-!
Which files are loaded, or refused with a word about the configuration, and which end in some other
fault.
-/

set_option autoImplicit false

namespace Stencil

namespace Datum

namespace Keyed

variable {α β : Type} {entries shared own : Keyed α} {key : Datum} {value : α}

/-- Every key is a text. -/
def Named (entries : Keyed α) : Prop := ∀ entry ∈ entries, ∃ name, entry.1 = .text name

end Keyed

end Datum

namespace Job

variable {job : Job} {entry : Datum × Script.Value} {found : Text × Script.Value}
variable {workspace done : Workspace}

end Job

namespace Config

variable {file base : Path} {tree : FileTree} {fields own shared : Datum.Entries}
variable {writes watch : List Datum} {item value : Datum} {config : Config} {fault : Fault}
variable {workspace : Workspace} {text : Text}

/-! ### Configurations of which every job has a context -/

/-- Whether the keys of all contexts are texts, and each job has its context. -/
def Serves (config : Config) (workspace : Workspace) : Prop :=
  (∀ entry ∈ config.entries, (config.attributes entry).Named) ∧
    ∃ jobs later, Job.ofConfig config workspace = .ok jobs later ∧
      ∀ job ∈ jobs, ∀ now, ∃ context done, job.context now = .ok context done

/-- Whether a datum adds entries: those of a mapping, or pairs that stand in some sequence. -/
def Adds (value : Datum) (own : Datum.Entries) : Prop :=
  value = .dict own ∨ (∀ entries, value ≠ .dict entries) ∧ ∃ items, members? value = some items ∧
    List.Forall₂ (fun item (entry : Datum × Datum) =>
      members? item = some [entry.1, entry.2] ∧ entry.1.isHashable = true) items own

/-- Whether an item to write has a source and a target, of any kind. -/
def Complete (item : Datum) : Prop :=
  ∃ fields source target, item = .dict fields ∧ field? fields "src" = some source ∧
    field? fields "dst" = some target

/-- Whether an item to write can be read, with these attributes of its own. -/
def Usable (item : Datum) (own : Datum.Entries) : Prop :=
  ∃ fields source target, item = .dict fields ∧ field? fields "src" = some (.text source) ∧
    field? fields "dst" = some (.text target) ∧ Adds (contextOf fields) own

theorem Usable.complete (usable : Usable item own) : Complete item := by
  obtain ⟨fields, source, target, same, reads, writes, -⟩ := usable
  exact ⟨fields, .text source, .text target, same, reads, writes⟩

/-- Loading a configuration ends as it should: all its jobs have contexts, or what is wrong with the
file is said in a word about the configuration. -/
inductive Settles (file : Path) : EStateM.Result Fault Workspace Config → Prop
  | served {config : Config} {after : Workspace} (serves : Serves config after) :
      Settles file (.ok config after)
  | malformed (after : Workspace) : Settles file (.error .configMalformed after)
  | rejected (problem : ConfigProblem) (after : Workspace) :
      Settles file (.error (.configRejected file problem) after)

/-- Whether the first item to write that cannot be read lacks a source or a target. -/
def Refused (writes : List Datum) : Prop :=
  ∃ before wrong behind, writes = before ++ wrong :: behind ∧
    (∀ item ∈ before, ∃ own, Usable item own) ∧ ¬Complete wrong

open String (toList_ofList)

end Config

end Stencil

import Stencil.Proofs.Config.Mapping
import Stencil.Proofs.Files.Search
import Stencil.Proofs.Serve.Covering

/-!
What a configuration makes of the mapping that its file holds. Each item to write is read on its own
and becomes an entry, with the attributes that all entries share changed and extended by its own ones;
the files to watch are all that some search finds.
-/

set_option autoImplicit false

namespace Stencil

/-- The items at the given places, in that order and as often as they are named. -/
def pick {α : Type} (items : List α) (places : List Nat) : List α := places.filterMap (items[·]?)

section Picking

variable {α β : Type} {related : α → β → Prop} {items : List α} {results : List β}

end Picking

namespace Config

variable {file base : Path} {tree : FileTree} {fields others shared own : Datum.Entries}
variable {writes watch : List Datum} {config : Config} {item value : Datum}

/-- The attributes that a mapping holds; what counts as nothing is a mapping without entries. -/
def contextOf (fields : Datum.Entries) : Datum :=
  orElse ((field? fields "context").getD .none) (.dict [])

def watchOf (fields : Datum.Entries) : Datum :=
  orElse ((field? fields "watch").getD .none) (.list [])

/-- The sections of a configuration, each in its form. -/
structure Sections (fields : Datum.Entries) (writes watch : List Datum) (shared : Datum.Entries) :
    Prop where
  write : field? fields "write" = some (.list writes)
  watch : watchOf fields = .list watch
  context : contextOf fields = .dict shared

theorem Sections.ofDatum (sections : Sections fields writes watch shared) :
    Config.ofDatum file base tree (.dict fields) = do
      let entries ← writes.mapM (entry base (.configRejected file))
      let found ← watch.mapM (search tree base)
      return ⟨shared, entries, sorted found.flatten⟩ := by
  have filled : orElse (.dict fields) (.dict []) = .dict fields := by
    cases fields with
    | nil => cases sections.write
    | cons => rfl
  have list := sections.watch
  have mapping := sections.context
  rw [watchOf] at list
  rw [contextOf] at mapping
  rw [Config.ofDatum]
  simp only [filled, sections.write, list, mapping]

/-- What an item of the files to write says: from which file to which one, seen from a base, and
with which attributes of its own. -/
def Reads (base : Path) (item : Datum) (made : ConfigEntry) : Prop :=
  ∃ fields source target own, item = .dict fields ∧
    field? fields "src" = some (.text source) ∧ field? fields "dst" = some (.text target) ∧
    contextOf fields = .dict own ∧
    made = ⟨base.join (Path.ofText source), base.join (Path.ofText target), own⟩

/-- Whether the search for an item finds a path. -/
def Finds (tree : FileTree) (base : Path) (item : Datum) (path : Path) : Prop :=
  ∃ pattern glob found, item = .text pattern ∧ Glob.ofText pattern = .ok glob ∧
    glob.paths tree base = .ok found ∧ path ∈ found

end Config

/-! ### Making jobs -/

namespace Script

open Store

mutual

/-- Whether a value says, with what is in a store, what a datum says. -/
def Shows (store : Store) : Datum → Value → Prop
  | .none, value => value = .none
  | .bool truth, value => value = .bool truth
  | .integer number, value => value = .integer number
  | .real number, value => value = .real number
  | .text content, value => value = .text content
  | .list items, value => ∃ place values,
      value = .list place ∧ store.Holds place (.list values) ∧ ShowAll store items values
  | .tuple items, value => ∃ values, value = .tuple values ∧ ShowAll store items values
  | .dict entries, value => ∃ place pairs,
      value = .dict place ∧ store.Holds place (.dict pairs) ∧ ShowEntries store entries pairs
  | other, value => value = .datum other

def ShowAll (store : Store) : List Datum → List Value → Prop
  | [], values => values = []
  | item :: rest, values => ∃ first others,
      values = first :: others ∧ Shows store item first ∧ ShowAll store rest others

def ShowEntries (store : Store) : List (Datum × Datum) → List (Value × Value) → Prop
  | [], pairs => pairs = []
  | (key, content) :: rest, pairs => ∃ name value others,
      pairs = (name, value) :: others ∧ Shows store key name ∧ Shows store content value ∧
        ShowEntries store rest others

end

section Kept

variable {store later : Store}

mutual

theorem Shows.mono (keeps : store.Keeps later) : ∀ {datum : Datum} {value : Value},
    Shows store datum value → Shows later datum value
  | .list _, _, ⟨place, values, same, holds, shown⟩ =>
    ⟨place, values, same, keeps _ _ holds, ShowAll.mono keeps shown⟩
  | .tuple _, _, ⟨values, same, shown⟩ => ⟨values, same, ShowAll.mono keeps shown⟩
  | .dict _, _, ⟨place, pairs, same, holds, shown⟩ =>
    ⟨place, pairs, same, keeps _ _ holds, ShowEntries.mono keeps shown⟩
  | .none, _, same | .bool _, _, same | .integer _, _, same | .real _, _, same
  | .complex _ _, _, same | .ellipsis, _, same | .text _, _, same | .points _, _, same
  | .bytes _, _, same | .set _, _, same | .around _, _, same | .date _, _, same
  | .moment _, _, same => same

theorem ShowAll.mono (keeps : store.Keeps later) : ∀ {items : List Datum} {values : List Value},
    ShowAll store items values → ShowAll later items values
  | [], _, same => same
  | _ :: _, _, ⟨first, others, same, here, rest⟩ =>
    ⟨first, others, same, Shows.mono keeps here, ShowAll.mono keeps rest⟩

theorem ShowEntries.mono (keeps : store.Keeps later) :
    ∀ {entries : List (Datum × Datum)} {pairs : List (Value × Value)},
      ShowEntries store entries pairs → ShowEntries later entries pairs
  | [], _, same => same
  | _ :: _, _, ⟨name, value, others, same, key, content, rest⟩ =>
    ⟨name, value, others, same, Shows.mono keeps key, Shows.mono keeps content,
      ShowEntries.mono keeps rest⟩

end

end Kept

mutual

/-- Data have values wherever these get, and nothing that is there changes. -/
theorem ofDatum_shows : ∀ (datum : Datum) (store : Store), ∃ value later,
    Value.ofDatum datum store = .ok value later ∧ store.Keeps later ∧ Shows later datum value
  | .list items, store => by
    obtain ⟨values, middle, made, keeps, shown⟩ := valuesOf_shows items store
    have pushed := keeps_push middle (.list values)
    exact ⟨_, _, Outcome.bind_ok made, keeps.trans pushed, _, values, rfl, holds_push _ _,
      shown.mono pushed⟩
  | .tuple items, store => by
    obtain ⟨values, later, made, keeps, shown⟩ := valuesOf_shows items store
    exact ⟨_, later, Outcome.bind_ok made, keeps, values, rfl, shown⟩
  | .dict entries, store => by
    obtain ⟨pairs, middle, made, keeps, shown⟩ := entriesOf_shows entries store
    have pushed := keeps_push middle (.dict pairs)
    exact ⟨_, _, Outcome.bind_ok made, keeps.trans pushed, _, pairs, rfl, holds_push _ _,
      shown.mono pushed⟩
  | .none, store | .bool _, store | .integer _, store | .real _, store | .complex _ _, store
  | .ellipsis, store | .text _, store | .points _, store | .bytes _, store | .set _, store
  | .around _, store | .date _, store | .moment _, store => ⟨_, store, rfl, .refl _, rfl⟩

theorem valuesOf_shows : ∀ (items : List Datum) (store : Store), ∃ values later,
    valuesOf items store = .ok values later ∧ store.Keeps later ∧ ShowAll later items values
  | [], store => ⟨[], store, rfl, .refl _, rfl⟩
  | item :: rest, store => by
    obtain ⟨first, middle, here, keeps, shown⟩ := ofDatum_shows item store
    obtain ⟨others, later, there, more, all⟩ := valuesOf_shows rest middle
    exact ⟨_, later, (Outcome.bind_ok here).trans (Outcome.bind_ok there), keeps.trans more,
      first, others, rfl, shown.mono more, all⟩

theorem entriesOf_shows : ∀ (entries : List (Datum × Datum)) (store : Store), ∃ pairs later,
    entriesOf entries store = .ok pairs later ∧ store.Keeps later ∧
      ShowEntries later entries pairs
  | [], store => ⟨[], store, rfl, .refl _, rfl⟩
  | (key, content) :: rest, store => by
    obtain ⟨name, middle, here, keeps, first⟩ := ofDatum_shows key store
    obtain ⟨value, last, there, more, second⟩ := ofDatum_shows content middle
    obtain ⟨others, later, done, most, all⟩ := entriesOf_shows rest last
    exact ⟨_, later, (Outcome.bind_ok here).trans ((Outcome.bind_ok there).trans
      (Outcome.bind_ok done)), keeps.trans (more.trans most), name, value, others, rfl,
      first.mono (more.trans most), second.mono most, all⟩

end

end Script

namespace Job

open Script (Shows)

section Steps

variable {α β : Type} {one : α → Work β} {started : Script.Store}

end Steps

end Job

/-! ### Merging the contexts -/

namespace Config

variable {file base : Path} {tree : FileTree} {fields others shared own : Datum.Entries}
variable {writes watch again : List Datum} {config other : Config} {item value : Datum}
variable {entry : ConfigEntry} {workspace after : Workspace} {text : Text}

open String (toList_ofList)

def number? (entry : Datum × Datum) : Option (Text × Int) :=
  match entry with
  | (.text name, .integer value) => some (name, value)
  | _ => none

end Config

end Stencil

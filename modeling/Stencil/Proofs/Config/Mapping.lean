import Stencil.Proofs.Config.Keys

/-!
Mappings that are changed by other ones. Each key has the last value that it is given, and keeps the
place where it came first. Mappings that are read from a text bind each key once.
-/

set_option autoImplicit false

namespace Stencil.Datum.Keyed

variable {α β : Type} {entries shared own rest : Keyed α} {key name : Datum} {value : α}

/-- Every key is one that can be told apart from others. -/
def Plain (entries : Keyed α) : Prop := ∀ entry ∈ entries, entry.1.Proper

theorem find?_cons (entry : Datum × α) (rest : Keyed α) (key : Datum) :
    find? (entry :: rest) key = if entry.1.sameKey key then some entry.2 else find? rest key := by
  rw [find?, List.find?_cons, find?]
  split <;> simp_all

theorem find?_eq_none : find? entries key = Option.none ↔
    ∀ entry ∈ entries, entry.1.sameKey key = false := by
  rw [find?, Option.map_eq_none_iff, List.find?_eq_none]
  exact forall₂_congr fun _ _ => by rw [Bool.not_eq_true]

theorem find?_append (entries rest : Keyed α) (key : Datum) :
    find? (entries ++ rest) key = (find? entries key).or (find? rest key) := by
  rw [find?, find?, find?, List.find?_append, Option.map_or]

theorem isSome_find? (entries : Keyed α) (key : Datum) :
    (find? entries key).isSome = entries.any fun entry => entry.1.sameKey key := by
  rw [find?, Option.isSome_map, List.isSome_find?]

theorem find?_map (change : Datum × α → β) :
    find? (entries.map fun entry => (entry.1, change entry)) key =
      (List.find? (fun entry => entry.1.sameKey key) entries).map change := by
  rw [find?, List.find?_map, Option.map_map]
  rfl

/-- A key that is bound stays in its place, and a new one comes last. -/
theorem insert_eq (entries : Keyed α) (key : Datum) (value : α) : entries.insert key value =
    (entries.map fun entry => (entry.1, if entry.1.sameKey key then value else entry.2)) ++
      if (find? entries key).isSome then [] else [(key, value)] := by
  rw [insert, isSome_find?]
  split
  next =>
    rw [List.append_nil]
    refine List.map_congr_left fun entry _ => ?_
    split <;> rfl
  next new =>
    congr 1
    rw [List.any_eq_true] at new
    conv_lhs => rw [← List.map_id entries]
    refine List.map_congr_left fun entry mem => ?_
    rw [if_neg fun same => new ⟨entry, mem, same⟩]
    rfl

/-- What is there behind an insertion was there before, perhaps with another value, or is new. -/
theorem mem_of_mem_insert {entry : Datum × α} (mem : entry ∈ entries.insert key value) :
    (∃ old ∈ entries, entry.1 = old.1 ∧ (entry.2 = value ∨ entry.2 = old.2)) ∨
      entry = (key, value) := by
  rw [insert_eq, List.mem_append, List.mem_map] at mem
  obtain ⟨old, mem, rfl⟩ | mem := mem
  · refine .inl ⟨old, mem, rfl, ?_⟩
    dsimp only
    split
    next => exact .inl rfl
    next => exact .inr rfl
  · split at mem
    next => cases mem
    next => exact .inr (List.mem_singleton.mp mem)

theorem Plain.insert (plain : entries.Plain) (proper : key.Proper) :
    (entries.insert key value).Plain := by
  intro entry mem
  obtain ⟨old, mem, same, -⟩ | rfl := mem_of_mem_insert mem
  · exact same ▸ plain old mem
  · exact proper

theorem Distinct.insert (distinct : entries.Distinct) : (entries.insert key value).Distinct := by
  rw [insert_eq, Distinct, List.pairwise_append, List.pairwise_map]
  refine ⟨distinct, ?_, ?_⟩
  · split <;> simp
  · intro one mem other last
    split at last
    next => cases last
    next new =>
      obtain rfl := List.mem_singleton.mp last
      obtain ⟨old, mem, rfl⟩ := List.mem_map.mp mem
      exact find?_eq_none.mp (Option.not_isSome_iff_eq_none.mp new) old ‹_›

theorem Distinct.find?_eq_none {entry : Datum × α} (distinct : Distinct (entry :: rest))
    (plain : Plain (entry :: rest)) : find? rest entry.1 = Option.none := by
  obtain ⟨first, others⟩ := List.forall_mem_cons.mp plain
  refine Keyed.find?_eq_none.mpr fun more mem => ?_
  rw [sameKey_comm (others more mem) first]
  exact List.rel_of_pairwise_cons distinct mem

theorem update_cons (entry : Datum × α) (entries rest : Keyed α) :
    entries.update (entry :: rest) = (entries.insert entry.1 entry.2).update rest := rfl

theorem proper_insert {entries : Entries} {value : Datum} (proper : (dict entries).Proper)
    (fit : key.Proper) (good : value.Proper) : (dict (entries.insert key value)).Proper := by
  obtain ⟨distinct, each⟩ := proper
  refine ⟨distinct.insert, areProperEntries_iff.mpr fun entry mem => ?_⟩
  have each := areProperEntries_iff.mp each
  obtain ⟨old, mem, same, changed | kept⟩ | rfl := mem_of_mem_insert mem
  · exact ⟨same ▸ (each old mem).1, changed ▸ good⟩
  · exact ⟨same ▸ (each old mem).1, kept ▸ (each old mem).2⟩
  · exact ⟨fit, good⟩

/-- Mappings that bind the same keys in the same order, to values that belong together. -/
def Matches (related : α → β → Prop) : Keyed α → Keyed β → Prop :=
  List.Forall₂ fun one other => one.1 = other.1 ∧ related one.2 other.2

namespace Matches

variable {related : α → β → Prop} {others more : Keyed β} {another : β}

theorem mono {wanted : α → β → Prop} (weaker : ∀ one other, related one other → wanted one other)
    (matched : Matches related entries others) : Matches wanted entries others :=
  matched.imp fun _ _ both => ⟨both.1, weaker _ _ both.2⟩

theorem isSome_find? (matched : Matches related entries others) (key : Datum) :
    (find? entries key).isSome = (find? others key).isSome := by
  induction matched with
  | nil => rfl
  | cons same _ ih => rw [find?_cons, find?_cons, same.1]; split <;> [rfl; exact ih]

theorem insert (matched : Matches related entries others) (key : Datum)
    (both : related value another) :
    Matches related (entries.insert key value) (others.insert key another) := by
  rw [insert_eq, insert_eq, matched.isSome_find? key]
  refine List.rel_append ?_ ?_
  · refine List.forall₂_map_left_iff.mpr (List.forall₂_map_right_iff.mpr (matched.imp ?_))
    rintro one other ⟨same, belong⟩
    refine ⟨same, ?_⟩
    dsimp only
    rw [same]
    split <;> assumption
  · split
    next => exact .nil
    next => exact .cons ⟨rfl, both⟩ .nil

theorem update (matched : Matches related shared others) (also : Matches related own more) :
    Matches related (shared.update own) (others.update more) := by
  induction also generalizing shared others with
  | nil => exact matched
  | @cons one other _ _ same _ ih =>
    rw [update_cons, update_cons, same.1]
    exact ih (matched.insert other.1 same.2)

end Matches

end Stencil.Datum.Keyed

/-! ### Data that texts hold -/

namespace Stencil.Yaml

/-- What is made has a property, whichever faults there are already. -/
def Build.Yields {α : Type} (holds : α → Prop) (made : Build α) : Prop :=
  ∀ faults, holds (made faults).1

namespace Build.Yields

variable {α β : Type} {holds : α → Prop} {wanted : β → Prop} {made : Build α} {next : α → Build β}

theorem of_pure {value : α} (held : holds value) : Yields holds (pure value : Build α) :=
  fun _ => held

theorem bind (first : Yields holds made)
    (rest : ∀ value, holds value → Yields wanted (next value)) : Yields wanted (made >>= next) :=
  fun faults => rest _ (first faults) _

theorem bind_any (rest : ∀ value, Yields wanted (next value)) : Yields wanted (made >>= next) :=
  fun _ => rest _ _

theorem fault (depth : Nat) (found : Fault) : Yields Datum.Proper (Build.fault depth found) :=
  fun _ => True.intro

theorem ofResult {depth : Nat} {result : Except Fault Datum}
    (proper : ∀ value, result = .ok value → value.Proper) :
    Yields Datum.Proper (Build.ofResult depth result) := by
  cases result with
  | ok value => exact of_pure (proper value rfl)
  | error found => exact fault depth found

end Build.Yields

theorem proper_of_truthOf {content : Text} {value : Datum} (read : truthOf content = .ok value) :
    value.Proper := by
  rw [truthOf] at read
  split at read <;> [skip; split at read] <;> cases read <;> exact True.intro

theorem proper_of_momentOf {content : Text} {value : Datum} (read : momentOf content = .ok value) :
    value.Proper := by
  rw [momentOf] at read
  split at read
  next =>
    rw [Written.datum] at read
    split at read <;> split at read <;> cases read <;> exact True.intro
  next => cases read

theorem proper_of_map {α : Type} {make : α → Datum} {read : Except Fault α} {value : Datum}
    (made : read.map make = .ok value) (proper : ∀ found, (make found).Proper) : value.Proper := by
  cases read with
  | error => cases made
  | ok found => cases made; exact proper found

theorem proper_of_scalarDatum {tag : Tag} {content : Text} {value : Datum}
    (read : scalarDatum tag content = .ok value) : value.Proper := by
  rw [scalarDatum.eq_def] at read
  split at read
  next => cases read; exact True.intro
  next => exact proper_of_truthOf read
  next => exact proper_of_map read fun _ => True.intro
  next => exact proper_of_map read fun _ => True.intro
  next => exact proper_of_map read fun _ => True.intro
  next => exact proper_of_momentOf read
  next => cases read; exact True.intro
  next => cases read

theorem proper_of_mappedDatum {tag : Tag} {content : Text} {value : Datum}
    (read : mappedDatum tag content = .ok value) : value.Proper := by
  rw [mappedDatum.eq_def] at read
  split at read
  next => cases read
  next => exact proper_of_scalarDatum read

namespace Node

open Build
open Datum (Entries Proper AreProper areProper_iff areProperEntries_iff)

/-- The entries of a mapping, or the members of a set as its keys. -/
abbrev Bound (entries : Entries) : Prop := (Datum.dict entries).Proper

theorem bound_nil : Bound [] := ⟨.nil, True.intro⟩

theorem areProper_keys {entries : Entries} (bound : Bound entries) :
    AreProper (entries.map (·.1)) := by
  refine areProper_iff.mpr fun key mem => ?_
  obtain ⟨entry, found, rfl⟩ := List.mem_map.mp mem
  exact (areProperEntries_iff.mp bound.2 entry found).1

theorem yields_default (tag : Tag) (entries : List (Node × Node)) (depth : Nat) : Yields Proper
    (if tag.isCollection then Build.fault (depth + 1) .malformed
    else match defaultContent? entries with
      | some content => Build.ofResult depth (mappedDatum tag content)
      | none => Build.fault depth .malformed) := by
  split
  next => exact .fault _ _
  next =>
    split
    next => exact .ofResult fun _ => proper_of_mappedDatum
    next => exact .fault _ _

theorem yields_malformed (depth : Nat) :
    Yields AreProper (do return [← Build.fault depth .malformed]) :=
  (Yields.fault depth .malformed).bind fun _ proper => .of_pure ⟨proper, True.intro⟩

mutual

theorem yields_build : ∀ (node : Node) (depth : Nat), Yields Proper (node.build depth)
  | scalar _ _, _ => .ofResult fun _ => proper_of_scalarDatum
  | sequence tag items, depth => by
    cases tag
    case sequence => exact (yields_buildAll items _).bind fun _ => .of_pure
    case pairs => exact (yields_buildPairs items _).bind fun _ => .of_pure
    case orderedPairs => exact (yields_buildPairs items _).bind fun _ => .of_pure
    all_goals exact .fault _ _
  | mapping tag entries, depth => by
    cases tag
    case mapping =>
      exact .bind_any fun _ => (yields_buildMerged entries _ bound_nil).bind fun _ bound =>
        (yields_buildOwn entries _ bound).bind fun _ => .of_pure
    case set =>
      exact .bind_any fun _ => (yields_buildMerged entries _ bound_nil).bind fun _ bound =>
        (yields_buildOwn entries _ bound).bind fun _ bound => .of_pure (areProper_keys bound)
    all_goals exact yields_default _ entries depth
  | around _, _ => .of_pure True.intro

theorem yields_buildAll : ∀ (items : List Node) (depth : Nat),
    Yields AreProper (buildAll depth items)
  | [], _ => .of_pure True.intro
  | item :: rest, depth => by
    rw [buildAll]
    exact (yields_build item depth).bind fun _ first =>
      (yields_buildAll rest depth).bind fun _ others => .of_pure ⟨first, others⟩

theorem yields_buildPairs : ∀ (items : List Node) (depth : Nat),
    Yields AreProper (buildPairs depth items)
  | [], _ => .of_pure True.intro
  | mapping _ [(key, value)] :: rest, depth => by
    rw [buildPairs]
    exact (yields_build key depth).bind fun _ name =>
      (yields_build value depth).bind fun _ content =>
        (yields_buildPairs rest depth).bind fun _ others =>
          .of_pure ⟨⟨name, content, True.intro⟩, others⟩
  | scalar _ _ :: _, depth => yields_malformed depth
  | sequence _ _ :: _, depth => yields_malformed depth
  | mapping _ [] :: _, depth => yields_malformed depth
  | mapping _ (_ :: _ :: _) :: _, depth => yields_malformed depth
  | around _ :: _, depth => yields_malformed depth

theorem yields_buildOwn : ∀ (entries : List (Node × Node)) (depth : Nat) {found : Entries},
    Bound found → Yields Bound (buildOwn depth found entries)
  | [], _, _, bound => .of_pure bound
  | (key, value) :: rest, depth, found, bound => by
    rw [buildOwn]
    split
    next => exact yields_buildOwn rest depth bound
    next =>
      have behind (name : Datum) (proper : name.Proper) : Yields Bound (do
          faultUnless name.isHashable depth
          let value ← value.build depth
          buildOwn depth (found.insert name value) rest) :=
        .bind_any fun _ => (yields_build value depth).bind fun _ good =>
          yields_buildOwn rest depth (Datum.Keyed.proper_insert bound proper good)
      split
      next =>
        split
        next content _ => exact behind (.text content) True.intro
        next => exact (Yields.fault _ _).bind behind
      next => exact (yields_build key depth).bind behind

theorem yields_buildMerged : ∀ (entries : List (Node × Node)) (depth : Nat) {found : Entries},
    Bound found → Yields Bound (buildMerged depth found entries)
  | [], _, _, bound => .of_pure bound
  | (key, value) :: rest, depth, found, bound => by
    rw [buildMerged]
    split
    next =>
      exact (yields_buildBrought value depth bound).bind fun _ => yields_buildMerged rest depth
    next => exact yields_buildMerged rest depth bound

theorem yields_buildBrought : ∀ (node : Node) (depth : Nat) {found : Entries},
    Bound found → Yields Bound (node.buildBrought depth found)
  | scalar _ _, _, _, bound => .of_pure bound
  | sequence _ items, depth, _, bound => yields_buildLast items depth bound
  | mapping _ entries, depth, _, bound =>
    (yields_buildMerged entries depth bound).bind fun _ => yields_buildOwn entries depth
  | around _, _, _, bound => .of_pure bound

theorem yields_buildLast : ∀ (items : List Node) (depth : Nat) {found : Entries},
    Bound found → Yields Bound (buildLast depth found items)
  | [], _, _, bound => .of_pure bound
  | item :: rest, depth, _, bound =>
    (yields_buildLast rest depth bound).bind fun _ => yields_buildBrought item depth

end

end Node

end Stencil.Yaml

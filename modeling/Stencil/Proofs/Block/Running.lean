import Stencil.Proofs.Block.Reading
import Stencil.Proofs.Static.Running

/-!
Running lines below a line of code: a loop over a range puts them out once for each number, and a
function of them once for each call.
-/

set_option autoImplicit false

namespace Stencil.Script.Block

open Script.Module

/-! ### Names -/

variable {blocks count depth : Nat} {body : List Stmt} {callee : Expr} {names : List Text}

theorem sits_range (count : Nat) : Sits (rangeOf count) [] := (sits_name _).call (sits_constant _)

theorem binds_loop (inside : BindsAll blocks body []) :
    Binds (blocks + 1) (loop count body) [['i']] := by
  have free : ['i'] ≠ Check.reserved := by decide
  constructor
  case checked =>
    intro place ordinary room
    have below : place.blocks < Check.maximalBlocks := by omega
    have deeper : Check.statements (Check.looping place) body = true :=
      inside.checked ordinary.looping (by simp only [Check.looping]; omega)
    simp [Check.statement, Check.statements, loop, Check.ownStatement, Stmt.targets, Stmt.values,
      Stmt.definitionValues, Stmt.plainBindings, Stmt.ownNames, target_name ordinary free,
      (sits_range count).value ordinary, deeper, below]
  case bindings =>
    rw [Stmt.bindings_eq]
    simp [loop, Stmt.plainBindings, Stmt.ownNames, Stmt.boundTargets, Stmt.targets, Stmt.values,
      Stmt.definitionValues, Stmt.blocks, Stmt.children, bindings_name, (sits_range count).bindings,
      inside.bindings]
  case declared =>
    intro globals
    simpa [Stmt.declared, loop, Stmt.blocks, Stmt.children] using inside.declared globals

theorem binds_block (inside : BindsAll blocks body []) (room : blocks ≤ Check.maximalBlocks)
    (around : Nat) : Binds around (blockFunction body) [blockName] := by
  constructor
  case checked =>
    exact fun _ _ _ => check_function inside room (by decide) (by decide) ⟨rfl, rfl⟩
  case bindings =>
    rw [Stmt.bindings_eq]
    rfl
  case declared =>
    intro globals
    simp [Stmt.declared, blockFunction, Stmt.blocks]

theorem sits_call (sits : Sits callee names) (depth : Nat) :
    Sits (appendCall (callExpr depth callee)) names := by
  have called := (sits_name "str".toList).call (sits.call (sits_name blockName))
  have whole := ((sits_name outputName).attributeOf "append".toList).call
    ((sits_constant (.string (Points.ofText (Text.spaces depth)))).binary called .add)
  have same : ([] : List Text) ++ ([] ++ ([] ++ (names ++ []))) = names := by simp
  rwa [same] at whole

/-! ### Loops -/

variable {env : Env} {frame : Frame} {fuel globals output : Nat} {store : Store} {texts : List Text}

theorem rangeLength_count (count : Nat) : rangeLength 0 count 1 = count := by
  simp [rangeLength]

theorem eval_range (foreign : Names.Foreign "range".toList env.frames)
    (ready : Ready env.globals store) (fuel count : Nat) :
    eval (fuel + 3) env (rangeOf count) store = .ok (.range 0 count 1) store := by
  have function : eval (fuel + 2) env (.name "range".toList) store = .ok (.builtin .range) store :=
    Names.value_outside foreign (Names.globalValue_builtin ready.names rfl rfl)
  have number : eval (fuel + 1) env (.constant (.integer count)) store =
      .ok (.integer count) store := rfl
  exact eval_call function (evalArguments_single rfl number) rfl

/-- Each turn of a loop over a range takes what has been reached one step further. -/
theorem repeatOver_counted {turn : Value → Run Flow} {reached : Nat → Store → Prop}
    (turns : ∀ value done store, reached done store →
      ∃ later, turn value store = .ok .next later ∧ reached (done + 1) later)
    (step : Int) (count : Nat) (start : Int) (done : Nat) (begun : reached done store) :
    ∃ later, repeatOver turn (count + 1) (.counted start count step) store =
      .ok .finished later ∧ reached (done + count) later := by
  induction count generalizing start done store with
  | zero => exact ⟨store, rfl, begun⟩
  | succ count ih =>
    obtain ⟨middle, turned, further⟩ := turns (.integer start) done store begun
    obtain ⟨later, finished, all⟩ := ih (start + step) (done + 1) further
    refine ⟨later, ?_, by rwa [Nat.add_right_comm] at all⟩
    rw [repeatOver]
    simp only [Cursor.next?, Outcome.pure_apply, Outcome.bind_apply, turned]
    exact finished

theorem findName?_other {name other : Text} (apart : name ≠ other) (value : Value)
    (bound : List (Text × Value)) :
    findName? other (bindName name value bound) = findName? other bound := by
  induction bound with
  | nil => simp [bindName, findName?, apart]
  | cons entry rest ih =>
    rw [bindName]
    split
    next same => simp [findName?, same, apart]
    next =>
      by_cases here : entry.1 = other
      next => simp [findName?, here]
      next =>
        simp only [findName?, List.find?_cons, beq_false_of_ne here] at ih ⊢
        exact ih

/-- Binding another name leaves what has been put out as it is. -/
theorem rendering_put (rendering : Rendering globals frame output texts store)
    {bound : List (Text × Value)} (held : store.Holds frame.place (.bindings bound)) {name : Text}
    (apart : name ≠ outputName) (value : Value) :
    Rendering globals frame output texts
      (store.put frame.place (.bindings (bindName name value bound))) := by
  have found : findName? outputName bound = some (.list output) := by
    obtain ⟨others, same, found⟩ := rendering.names
    rwa [Cell.bindings.inj (Option.some.inj (held.symm.trans same))]
  have unnamed : frame.place ≠ globals := held.apart rendering.ready.names fun same => by
    rw [Cell.bindings.inj same] at found
    cases found
  have escape : frame.place ≠ globals + 1 := held.apart rendering.ready.escape (by simp)
  have listed : frame.place ≠ output := held.apart rendering.collected (by simp)
  refine ⟨rendering.ready.put ⟨unnamed, escape⟩ _, ⟨_, Store.holds_put held _, ?_⟩,
    rendering.collected.put_other listed _⟩
  rw [findName?_other apart, found]

variable {entries : List Static.Entry}

/-- Entries below a header begin with a statement that does nothing. -/
def under (entries : List Static.Entry) : List Stmt := .pass :: entries.map Static.Entry.statement

theorem binds_under (blocks : Nat) (entries : List Static.Entry) : BindsAll blocks (under entries) [] :=
  .cons binds_pass (Static.binds_entries blocks entries)

theorem execAll_under (within : Within env frame)
    (enough : ∀ entry ∈ entries, entry.others.length + 11 ≤ fuel) (positive : 0 < fuel)
    (rendering : Rendering env.globals frame output texts store) :
    ∃ later, execAll (fuel + 1) env (under entries) store = .ok .next later ∧
      Rendering env.globals frame output (texts ++ entries.map Static.Entry.shown) later ∧
      store.KeepsBut output later := by
  obtain ⟨less, rfl⟩ := Nat.exists_eq_add_of_le' positive
  obtain ⟨later, ran, finished, kept⟩ := Static.execAll_entries within enough rendering
  have pass : exec (less + 1) env .pass store = .ok .next store := rfl
  exact ⟨later, execAll_next pass ran, finished, kept⟩

/-- A loop over a range puts out what is in it once for each number. -/
theorem exec_loop (within : Within ⟨[frame], globals, depth⟩ frame)
    (range : Names.Foreign "range".toList [frame]) (inside : ['i'] ∈ frame.locals)
    (undeclared : ['i'] ∉ frame.globals)
    (enough : ∀ entry ∈ entries, entry.others.length + 11 ≤ fuel) (large : 3 ≤ fuel)
    (rendering : Rendering globals frame output texts store) (count : Nat) :
    ∃ later, exec (fuel + 2) ⟨[frame], globals, depth⟩ (loop count (under entries)) store =
        .ok .next later ∧
      Rendering globals frame output
        (texts ++ (List.replicate count (entries.map Static.Entry.shown)).flatten) later := by
  obtain ⟨less, rfl⟩ := Nat.exists_eq_add_of_le' large
  have apart : ['i'] ≠ outputName := by decide
  have turns (value : Value) (done : Nat) (store : Store)
      (reached : Rendering globals frame output
        (texts ++ (List.replicate done (entries.map Static.Entry.shown)).flatten) store) :
      ∃ later, (do
          assign (less + 4) ⟨[frame], globals, depth⟩ (.name ['i']) value
          execAll (less + 4) ⟨[frame], globals, depth⟩ (under entries) : Run Flow) store =
            .ok .next later ∧
        Rendering globals frame output
          (texts ++ (List.replicate (done + 1) (entries.map Static.Entry.shown)).flatten) later := by
    obtain ⟨bound, held, -⟩ := reached.names
    obtain ⟨later, ran, finished, -⟩ := execAll_under within enough (Nat.succ_pos _)
      (rendering_put reached held apart value)
    refine ⟨later, ?_, ?_⟩
    · rw [Outcome.bind_apply, assign, Names.store_local held undeclared inside value]
      exact ran
    · rwa [List.append_assoc, ← List.flatten_concat, ← List.replicate_succ'] at finished
  obtain ⟨later, finished, all⟩ := repeatOver_counted turns 1 count 0 0 (by simpa using rendering)
  refine ⟨later, ?_, by rwa [Nat.zero_add] at all⟩
  have iterable : eval (less + 4) ⟨[frame], globals, depth⟩ (rangeOf count) store =
      .ok (.range 0 count 1) store := eval_range range rendering.ready (less + 1) count
  have cursor : Cursor.of (.range 0 count 1) = pure (.counted 0 count 1) := by
    rw [Cursor.of, rangeLength_count]
  rw [loop, exec]
  simp only [Outcome.bind_apply, iterable, cursor, Outcome.pure_apply, Cursor.looks,
    finished]
  rfl

/-! ### Functions -/

/-- The function of what is below a line, in the function that renders. -/
def blockOf (frame : Frame) (globals : Nat) (entries : List Static.Entry) : Function :=
  functionIn ⟨[frame], globals, 0⟩ Parameters.empty (under entries)

theorem scope_blockOf (frame : Frame) (globals : Nat) (entries : List Static.Entry) :
    (blockOf frame globals entries).scope = ⟨[], [], []⟩ :=
  (binds_under 0 entries).scope []

/-- A call of the block puts out what is in it. -/
theorem call_block (within : Within ⟨[frame], globals, depth⟩ frame) {place around : Nat}
    (held : store.Holds place (.function (blockOf frame globals entries)))
    (short : ∀ entry ∈ entries, entry.others.length ≤ 3) (enough : 16 ≤ fuel)
    (shallow : around + 1 < maximalCalls)
    (rendering : Rendering globals frame output texts store) :
    ∃ later, call fuel around (.function place) [] [] store = .ok .none later ∧
      Rendering globals frame output (texts ++ entries.map Static.Entry.shown) later ∧
      store.KeepsBut output later := by
  obtain ⟨less, rfl⟩ := Nat.exists_eq_add_of_le' enough
  have pushed := Store.keeps_push store (.bindings [])
  have called : calledFrame store (blockOf frame globals entries) = ⟨store.cells.size, [], []⟩ := by
    rw [calledFrame, scope_blockOf]
  have nothing (name : Text) : Names.Foreign name [⟨store.cells.size, [], []⟩] := by
    simp [Names.Foreign]
  have inner : Within ⟨[⟨store.cells.size, [], []⟩, frame], globals, around + 1⟩ frame := by
    refine ⟨⟨_, rfl, nothing _⟩, within.output, ?_, shallow⟩
    exact List.forall_mem_cons.mpr ⟨nothing _ _ (List.mem_singleton.mpr rfl), within.escape⟩
  have deep : ∀ entry ∈ entries, entry.others.length + 11 ≤ less + 14 := fun entry member =>
    Nat.le_trans (Nat.add_le_add_right (short entry member) 11) (Nat.le_add_left _ _)
  obtain ⟨later, ran, finished, kept⟩ :=
    execAll_under inner deep (Nat.succ_pos _) (rendering.keeps pushed)
  refine ⟨later, ?_, finished, (pushed.but output).trans kept⟩
  have whole : execAll (less + 15) ⟨calledFrame store (blockOf frame globals entries) ::
      (blockOf frame globals entries).outer, (blockOf frame globals entries).globals, around + 1⟩
      (blockOf frame globals entries).body (store.push (.bindings [])) = .ok .next later := by
    rw [called]
    exact ran
  exact call_function held (Nat.lt_of_succ_lt shallow) rfl whole

/-! ### Code that is called with a block -/

/-- Where code that is called with a block begins to run: in the function that renders, with the
page at hand, with the block under its name, and with everything that there was before. -/
structure Begins (before : Store) (page : Value) (names : List Text) (globals : Nat) (frame : Frame)
    (output block : Nat) (store : Store) : Prop where
  ready : Ready globals store
  locals : frame.locals =
    ("bindings".toList :: outputName :: selfName :: blockName :: names).eraseDups
  undeclared : frame.globals = []
  bound : ∃ arguments, store.Holds frame.place (.bindings
    [("bindings".toList, arguments), (outputName, .list output), (selfName, page),
      (blockName, .function block)])
  collected : store.Holds output (.list [])
  defined : ∃ function, store.Holds block (.function function)
  kept : before.Keeps store

/-- Whether what generated code has of its own is as it was: its module, the block, what has been
put out, and the names for these. -/
structure Undisturbed (globals : Nat) (frame : Frame) (output block : Nat)
    (store later : Store) : Prop where
  kept : ∀ place ∈ [globals, globals + 1, output, block], ∀ cell,
    store.Holds place cell → later.Holds place cell
  named : ∀ bound, store.Holds frame.place (.bindings bound) →
    ∃ others, later.Holds frame.place (.bindings others) ∧
      ∀ name ∈ [outputName, blockName], findName? name others = findName? name bound

/-- How deep a run may still go where code is called with a block. -/
def callDepth : Nat := 999999991

/-- Code for what calls its argument so often and returns what is shown as the given text, while
it leaves alone what generated code has of its own. This does not depend on what the calls do: they
may reach anything, step by step. -/
def CallsBlock (before : Store) (page : Value) (names : List Text) (callee : Expr) (count : Nat)
    (shown : Points) : Prop :=
  ∀ (globals : Nat) (frame : Frame) (output block : Nat) (store : Store),
    Begins before page names globals frame output block store →
    ∀ reached : Nat → Store → Prop, reached 0 store →
    (∀ done store later, reached done store →
      Undisturbed globals frame output block store later → reached done later) →
    (∀ done store fuel depth, reached done store → 16 ≤ fuel → depth + 1 < maximalCalls →
      ∃ later, call fuel depth (.function block) [] [] store = .ok .none later ∧
        reached (done + 1) later ∧ store.KeepsBut output later) →
    ∃ function middle value later,
      eval callDepth ⟨[frame], globals, 1⟩ callee store = .ok function middle ∧
        reached 0 middle ∧
        call callDepth 1 function [.function block] [] middle = .ok value later ∧
        reached count later ∧ value.displayPoints later = .ok shown later

/-- Where a block is called: what it has put out, and what it is called by. -/
structure Stage (globals : Nat) (frame : Frame) (output block : Nat) (entries : List Static.Entry)
    (texts : List Text) (store : Store) : Prop where
  rendering : Rendering globals frame output texts store
  held : store.Holds block (.function (blockOf frame globals entries))
  named : ∃ bound, store.Holds frame.place (.bindings bound) ∧
    findName? blockName bound = some (.function block)

variable {block : Nat} {later : Store}

theorem Stage.undisturbed (stage : Stage globals frame output block entries texts store)
    (undisturbed : Undisturbed globals frame output block store later) :
    Stage globals frame output block entries texts later := by
  have kept {place : Nat} (member : place ∈ [globals, globals + 1, output, block]) {cell : Cell}
      (held : store.Holds place cell) : later.Holds place cell :=
    undisturbed.kept place member cell held
  have ready := stage.rendering.ready
  have named {name : Text} (member : name ∈ [outputName, blockName]) {value : Value}
      (known : ∃ bound, store.Holds frame.place (.bindings bound) ∧ findName? name bound = some value) :
      ∃ bound, later.Holds frame.place (.bindings bound) ∧ findName? name bound = some value := by
    obtain ⟨bound, held, found⟩ := known
    obtain ⟨others, holds, same⟩ := undisturbed.named bound held
    exact ⟨others, holds, (same name member).trans found⟩
  exact ⟨⟨⟨kept (by simp) ready.names, kept (by simp) ready.escape⟩,
    named (by simp) stage.rendering.names, kept (by simp) stage.rendering.collected⟩,
    kept (by simp) stage.held, named (by simp) stage.named⟩

theorem Stage.called (stage : Stage globals frame output block entries texts store)
    (within : Within ⟨[frame], globals, depth⟩ frame)
    (short : ∀ entry ∈ entries, entry.others.length ≤ 3) {around : Nat} (enough : 16 ≤ fuel)
    (shallow : around + 1 < maximalCalls) :
    ∃ later, call fuel around (.function block) [] [] store = .ok .none later ∧
      Stage globals frame output block entries (texts ++ entries.map Static.Entry.shown) later ∧
      store.KeepsBut output later := by
  obtain ⟨later, ran, finished, kept⟩ :=
    call_block within stage.held short enough shallow stage.rendering
  have apart : block ≠ output := stage.held.apart stage.rendering.collected (by simp)
  obtain ⟨bound, held, found⟩ := stage.named
  have listed : frame.place ≠ output := held.apart stage.rendering.collected (by simp)
  exact ⟨later, ran, ⟨finished, kept _ _ apart stage.held, bound, kept _ _ listed held, found⟩, kept⟩

/-- The line that calls code with a block puts out the text of what comes of it, behind what the
block has put out. -/
theorem exec_called {before : Store} {page : Value} {shown : Points}
    (begins : Begins before page names globals frame output block store)
    (within : Within ⟨[frame], globals, 1⟩ frame) (free : "str".toList ∉ names)
    (short : ∀ entry ∈ entries, entry.others.length ≤ 3)
    (stage : Stage globals frame output block entries [] store)
    (calls : CallsBlock before page names callee count shown) (depth : Nat) :
    ∃ later, exec 999999998 ⟨[frame], globals, 1⟩
        (.expression (appendCall (callExpr depth callee))) store = .ok .next later ∧
      Rendered frame output ((List.replicate count (entries.map Static.Entry.shown)).flatten.map
        Points.ofText ++ [Points.ofText (Text.spaces depth) ++ shown]) later := by
  obtain ⟨function, middle, value, later, evaluated, same, called, finished, display⟩ :=
    calls globals frame output block store begins
      (fun done => Stage globals frame output block entries
        (List.replicate done (entries.map Static.Entry.shown)).flatten) stage
      (fun done store later stage undisturbed => stage.undisturbed undisturbed)
      (fun done store fuel around stage enough shallow => by
        obtain ⟨later, ran, further, kept⟩ := stage.called within short enough shallow
        rw [← List.flatten_concat, ← List.replicate_succ'] at further
        exact ⟨later, ran, further, kept⟩)
  have local_of {name : Text} : name ∈ frame.locals ↔
      name ∈ "bindings".toList :: outputName :: selfName :: blockName :: names := by
    rw [begins.locals, List.mem_eraseDups]
  have undeclared (name : Text) : name ∉ frame.globals := by simp [begins.undeclared]
  have given : evalArguments callDepth ⟨[frame], globals, 1⟩ [.positional (.name blockName)] middle =
      .ok ([.function block], []) middle := by
    obtain ⟨bound, held, found⟩ := same.named
    exact evalArguments_single rfl
      (Names.value_local held (undeclared _) (local_of.mpr (by simp)) found)
  have block : eval (callDepth + 1) ⟨[frame], globals, 1⟩ (givenBlock callee) store =
      .ok value later := eval_call evaluated given called
  have string : eval (callDepth + 2) ⟨[frame], globals, 1⟩ (.name "str".toList) store =
      .ok (.builtin .string) store := by
    have foreign : Names.Foreign "str".toList [frame] := by
      have other : "str".toList ∉ ["bindings".toList, outputName, selfName, blockName] := by decide
      refine List.forall_mem_singleton.mpr ⟨fun member => ?_, undeclared _⟩
      exact (List.mem_append.mp (local_of.mp member)).elim other free
    exact Names.value_outside foreign
      (Names.globalValue_builtin stage.rendering.ready.names rfl rfl)
  have text : call (callDepth + 2) 1 (.builtin .string) [value] [] later =
      .ok (.ofPoints shown) later := by
    rw [call]
    simp only [Builtin.apply, Builtin.toText, Outcome.bind_apply, display]
    rfl
  have shows : eval (callDepth + 3) ⟨[frame], globals, 1⟩
      (.call (.name "str".toList) [.positional (givenBlock callee)]) store =
        .ok (.ofPoints shown) later :=
    eval_call string (evalArguments_single rfl block) text
  have sum : eval (callDepth + 4) ⟨[frame], globals, 1⟩ (callExpr depth callee) store =
      .ok (.ofPoints (Points.ofText (Text.spaces depth) ++ shown)) later := by
    have margin : eval (callDepth + 3) ⟨[frame], globals, 1⟩
        (.constant (.string (Points.ofText (Text.spaces depth)))) store =
          .ok (.ofPoints (Points.ofText (Text.spaces depth))) store := by
      rw [eval]
      rfl
    rw [callExpr, eval]
    simp only [Outcome.bind_apply, margin, shows, binary_add_points, Outcome.pure_apply]
  have put := exec_append within rfl stage.rendering sum finished.rendering
  refine ⟨_, put, ?_, ?_⟩
  · obtain ⟨bound, held, found⟩ := finished.rendering.names
    exact ⟨bound, held.put_other (finished.rendering.collected.apart held (by simp)) _, found⟩
  · rw [List.map_append, map_ofText]
    exact Store.holds_put finished.rendering.collected _

/-! ### Whole programs -/

theorem renders_loop (short : ∀ entry ∈ entries, entry.others.length ≤ 3) (before : Store)
    (page : Value) (count : Nat) :
    Renders before page [['i']] [loop count (under entries)]
      ((List.replicate count (entries.map Static.Entry.shown)).flatten.map Points.ofText) := by
  intro globals frame output started begun
  have within := begun.within (show escapeName ∉ [['i']] by decide) (show 1 < maximalCalls by decide)
  have range : Names.Foreign "range".toList [frame] := by
    refine List.forall_mem_singleton.mpr ⟨?_, by simp [begun.undeclared]⟩
    rw [begun.locals]
    decide
  have inside : ['i'] ∈ frame.locals := by
    rw [begun.locals]
    decide
  have enough : ∀ entry ∈ entries, entry.others.length + 11 ≤ 999999996 := by
    intro entry member
    have bound := short entry member
    omega
  obtain ⟨later, ran, finished⟩ := exec_loop within range inside (by simp [begun.undeclared]) enough
    (by decide) begun.rendering count
  exact ⟨later, execAll_next ran rfl, finished.rendered⟩

/-- Where the block has been defined the code that is called with it begins. -/
theorem exec_blockFunction {before started : Store} {page : Value}
    (begun : Begun before page globals (blockName :: names) frame output started) :
    ∃ store block, (∀ fuel, exec (fuel + 4) ⟨[frame], globals, 1⟩ (blockFunction (under entries))
        started = .ok .next store) ∧
      Begins before page names globals frame output block store ∧
      Stage globals frame output block entries [] store := by
  obtain ⟨arguments, bound⟩ := begun.bound
  have inside : blockName ∈ frame.locals := by
    rw [begun.locals, List.mem_eraseDups]
    simp
  have undeclared : blockName ∉ frame.globals := by simp [begun.undeclared]
  have apart : blockName ≠ outputName := by decide
  have pushed := Store.keeps_push started (.function (blockOf frame globals entries))
  have added := Store.holds_push started (.function (blockOf frame globals entries))
  have held := pushed _ _ bound
  have rendering := rendering_put (begun.rendering.keeps pushed) held apart
    (.function started.cells.size)
  have named := Store.holds_put held (.bindings (bindName blockName (.function started.cells.size)
    [("bindings".toList, arguments), (outputName, .list output), (selfName, page)]))
  have defined := added.put_other (Nat.ne_of_lt bound.lt)
    (.bindings (bindName blockName (.function started.cells.size)
      [("bindings".toList, arguments), (outputName, .list output), (selfName, page)]))
  refine ⟨_, started.cells.size, fun fuel => ?_,
    ⟨rendering.ready, begun.locals, begun.undeclared, ⟨arguments, named⟩, rendering.collected,
      ⟨_, defined⟩, ?_⟩, ⟨rendering, defined, _, named, findName?_bindName _ _ _⟩⟩
  · have made : makeFunction (fuel + 3) ⟨[frame], globals, 1⟩ Parameters.empty (under entries) started =
        .ok (.function started.cells.size)
          (started.push (.function (blockOf frame globals entries))) :=
      makeFunction_apply rfl (under entries) started
    rw [blockFunction, exec, Outcome.bind_apply, made]
    simp only [Outcome.bind_apply, Names.store_local held undeclared inside]
    rfl
  · intro place cell found
    have other : frame.place ≠ place := Nat.ne_of_gt (Nat.lt_of_lt_of_le found.lt begun.fresh.1)
    exact (pushed _ _ (begun.kept _ _ found)).put_other other _

theorem renders_call {before : Store} {page : Value} {shown : Points}
    (short : ∀ entry ∈ entries, entry.others.length ≤ 3) (free : "str".toList ∉ names)
    (unescaped : escapeName ∉ names)
    (calls : CallsBlock before page names callee count shown) (depth : Nat) :
    Renders before page (blockName :: names)
      [blockFunction (under entries), .expression (appendCall (callExpr depth callee))]
      ((List.replicate count (entries.map Static.Entry.shown)).flatten.map Points.ofText ++
        [Points.ofText (Text.spaces depth) ++ shown]) := by
  intro globals frame output started begun
  have outside : escapeName ∉ blockName :: names :=
    List.not_mem_cons_of_ne_of_not_mem (by decide) unescaped
  have within := begun.within outside (show 1 < maximalCalls by decide)
  obtain ⟨store, block, defined, begins, stage⟩ := exec_blockFunction begun
  obtain ⟨later, ran, finished⟩ := exec_called begins within free short stage calls depth
  exact ⟨later, execAll_next (defined _) (execAll_next ran rfl), finished⟩

end Stencil.Script.Block

import Stencil.Proofs.Module.Checking
import Stencil.Proofs.Script.Call

/-!
Running the code of a program: what its module leaves, and what the function that renders does
around the statements of the template.
-/

set_option autoImplicit false

namespace Stencil.Script.Module

variable {globals fuel depth : Nat} {contextType : Text} {body : List Stmt} {store later : Store}

/-! ### The module -/

/-- What the code's names stand for once it has run. -/
def moduleNames (globals : Nat) : List (Text × Value) :=
  [("_html_escape".toList, .builtin .escape), (escapeName, .function (globals + 1)),
    ("render".toList, .function (globals + 2))]

/-- What the statements of a template find of their module. -/
structure Ready (globals : Nat) (store : Store) : Prop where
  names : store.Holds globals (.bindings (moduleNames globals))
  escape : store.Holds (globals + 1)
    (.function (moduleFunction globals "text".toList escapeBody))

structure Loaded (globals : Nat) (contextType : Text) (body : List Stmt) (store : Store) : Prop where
  ready : Ready globals store
  render : store.Holds (globals + 2)
    (.function (moduleFunction globals "bindings".toList (renderBody contextType body)))

theorem Ready.keeps (ready : Ready globals store) (keeps : store.Keeps later) :
    Ready globals later :=
  ⟨keeps _ _ ready.names, keeps _ _ ready.escape⟩

theorem Ready.put {place : Nat} (ready : Ready globals store)
    (apart : place ≠ globals ∧ place ≠ globals + 1) (cell : Cell) :
    Ready globals (store.put place cell) :=
  ⟨ready.names.put_other apart.1 cell, ready.escape.put_other apart.2 cell⟩

theorem Loaded.keeps (loaded : Loaded globals contextType body store) (keeps : store.Keeps later) :
    Loaded globals contextType body later :=
  ⟨loaded.ready.keeps keeps, keeps _ _ loaded.render⟩

theorem maximalDepth_eq : maximalDepth = 999999900 + 100 := rfl

theorem exec_import {bound : List (Text × Value)}
    (holds : store.Holds globals (.bindings bound)) :
    exec (fuel + 1) ⟨[], globals, 0⟩ importStatement store =
      .ok .next (store.put globals
        (.bindings (bindName "_html_escape".toList (.builtin .escape) bound))) := by
  rw [importStatement, exec, Outcome.bind_apply, bringIn, if_pos ⟨rfl, rfl⟩,
    Names.store_global holds]
  rfl

/-- The module defines its two functions right behind its own variables. -/
theorem runModule_module (contextType : Text) (body : List Stmt) (store : Store) :
    ∃ later, runModule (module contextType body) store = .ok store.cells.size later ∧
      Loaded store.cells.size contextType body later ∧ store.Keeps later := by
  have opened := Store.holds_push store (.bindings [])
  have imported := Store.holds_put opened
    (.bindings (bindName "_html_escape".toList (.builtin .escape) []))
  obtain ⟨middle, escapes, defined⟩ := exec_define imported escapeName "text".toList escapeBody
  obtain ⟨later, renders, finished⟩ := exec_define defined.names "render".toList
    "bindings".toList (renderBody contextType body)
  have place : middle.cells.size = store.cells.size + 2 := by
    rw [defined.size, Store.size_put, Store.size_push]
  have ran : execAll maximalDepth ⟨[], store.cells.size, 0⟩ (module contextType body)
      (store.push (.bindings [])) = .ok .next later := by
    rw [maximalDepth_eq]
    exact execAll_next (exec_import opened)
      (execAll_next (escapes _) (execAll_next (renders _) rfl))
  refine ⟨later, ?_, ?_, fun other cell held => ?_⟩
  · simp only [runModule, Outcome.bind_apply, Run.allocate_apply, ran]
    rfl
  · have names := finished.names
    have escape := finished.others _ _ (by rw [Store.size_put, Store.size_push]; omega)
      defined.function
    have render := finished.function
    rw [Store.size_put, Store.size_push] at names escape
    rw [place] at names render
    exact ⟨⟨names, escape⟩, render⟩
  · have apart : store.cells.size ≠ other := Nat.ne_of_gt held.lt
    have kept := (Store.keeps_push store (.bindings []) other cell held).put_other apart
      (.bindings (bindName "_html_escape".toList (.builtin .escape) []))
    exact finished.others _ _ apart (defined.others _ _ apart kept)

/-! ### Expressions that give texts -/

/-- An expression that gives a text where the module is ready, however deep it may run. -/
def Gives (env : Env) (need : Nat) (expr : Expr) (text : Text) : Prop :=
  ∀ fuel store, need ≤ fuel → Ready env.globals store →
    ∃ later, eval fuel env expr store = .ok (.text text) later ∧ store.Keeps later

theorem ofPoints_ofText (text : Text) : Value.ofPoints (Points.ofText text) = .text text := by
  rw [Value.ofPoints, Points.text?_ofText]

variable {env : Env} {need more : Nat} {expr other : Expr} {text added : Text}

theorem Gives.less (gives : Gives env need expr text) (bound : need ≤ more) :
    Gives env more expr text :=
  fun fuel store enough ready => gives fuel store (Nat.le_trans bound enough) ready

theorem gives_constant (text : Text) :
    Gives env 1 (.constant (.string (Points.ofText text))) text := by
  intro fuel store enough ready
  obtain ⟨less, rfl⟩ := Nat.exists_eq_add_of_le' enough
  refine ⟨store, ?_, Store.Keeps.refl store⟩
  rw [eval, constantValue, ofPoints_ofText]
  rfl

theorem binary_add (left right : Text) :
    Value.binary .add (.text left) (.text right) = pure (.text (left ++ right)) := rfl

theorem binary_add_points (points more : Points) :
    Value.binary .add (.ofPoints points) (.ofPoints more) = pure (.ofPoints (points ++ more)) := by
  cases one : points.text? with
  | some text =>
    cases two : more.text? with
    | some added =>
      have whole : Points.ofText text ++ Points.ofText added = Points.ofText (text ++ added) := by
        simp [Points.ofText]
      rw [← Points.ofText_text? one, ← Points.ofText_text? two, whole, ofPoints_ofText, ofPoints_ofText,
        ofPoints_ofText]
      rfl
    | none =>
      simp only [Value.ofPoints, one, two]
      rw [← Points.ofText_text? one]
      rfl
  | none =>
    simp only [Value.ofPoints, one]
    cases two : more.text? with
    | some added =>
      rw [← Points.ofText_text? two]
      rfl
    | none => rfl

theorem Gives.add (first : Gives env need expr text) (second : Gives env more other added) :
    Gives env (max need more + 1) (.binary .add expr other) (text ++ added) := by
  intro fuel store enough ready
  obtain ⟨less, rfl⟩ := Nat.exists_eq_add_of_le' (Nat.le_trans (Nat.le_add_left 1 _) enough)
  obtain ⟨middle, evaluated, kept⟩ := first less store (by omega) ready
  obtain ⟨later, joined, keeps⟩ := second less middle (by omega) (ready.keeps kept)
  refine ⟨later, ?_, kept.trans keeps⟩
  rw [eval]
  simp only [Outcome.bind_apply, evaluated, joined, binary_add, Outcome.pure_apply]

theorem scope_escapeBody :
    Scope.ofFunction ["text".toList] escapeBody = ⟨["text".toList], [], []⟩ := by decide +kernel

theorem call_escape (ready : Ready globals store) (shallow : depth < maximalCalls) (text : Text) :
    call (fuel + 7) depth (.function (globals + 1)) [.text text] [] store =
      .ok (.text (Builtin.escapeText false text))
        (store.push (.bindings [("text".toList, .text text)])) := by
  refine call_moduleFunction ready.escape shallow ?_
  have bound := Store.holds_push store (.bindings [("text".toList, .text text)])
  have names := Store.keeps_push store (.bindings [("text".toList, .text text)]) _ _ ready.names
  generalize store.push (.bindings [("text".toList, .text text)]) = inside at bound names ⊢
  have frame : calledFrame store (moduleFunction globals "text".toList escapeBody) =
      ⟨store.cells.size, ["text".toList], []⟩ := by
    have scope : (moduleFunction globals "text".toList escapeBody).scope =
        Scope.ofFunction ["text".toList] escapeBody := rfl
    rw [calledFrame, scope, scope_escapeBody]
  rw [frame]
  have argument : Names.value "text".toList
      ⟨[⟨store.cells.size, ["text".toList], []⟩], globals, depth + 1⟩ inside =
        .ok (.text text) inside := Names.value_local bound (by simp) (by simp) rfl
  have foreign : Names.Foreign "_html_escape".toList [⟨store.cells.size, ["text".toList], []⟩] := by
    simp [Names.Foreign]
  have function : Names.value "_html_escape".toList
      ⟨[⟨store.cells.size, ["text".toList], []⟩], globals, depth + 1⟩ inside =
        .ok (.builtin .escape) inside :=
    Names.value_outside foreign (Names.globalValue_apply names rfl)
  have given : evalArguments (fuel + 3) ⟨[⟨store.cells.size, ["text".toList], []⟩], globals,
      depth + 1⟩ [.positional (.name "text".toList),
        .keyword "quote".toList (.constant (.bool false))] inside =
      .ok ([.text text], [("quote".toList, .bool false)]) inside := by
    simp only [evalArguments, eval, Outcome.bind_apply, argument, constantValue, Outcome.pure_apply]
  exact execAll_returned (exec_return (eval_call function given rfl))

/-! ### The function that renders -/

/-- A rendering on its way, with the texts that it has put out so far. -/
structure Rendering (globals : Nat) (frame : Frame) (output : Nat) (texts : List Text)
    (store : Store) : Prop where
  ready : Ready globals store
  names : ∃ bound, store.Holds frame.place (.bindings bound) ∧
    findName? outputName bound = some (.list output)
  collected : store.Holds output (.list (texts.map .text))

/-- Code within the function that renders, as far as the names of generated code go: the frame is
that of the function, and the functions in between do not bind them. -/
structure Within (env : Env) (frame : Frame) : Prop where
  frames : ∃ above, env.frames = above ++ [frame] ∧ Names.Foreign outputName above
  output : outputName ∈ frame.locals ∧ outputName ∉ frame.globals
  escape : Names.Foreign escapeName env.frames
  shallow : env.depth < maximalCalls

variable {frame : Frame} {output : Nat} {texts : List Text}

theorem Rendering.keeps (rendering : Rendering globals frame output texts store)
    (keeps : store.Keeps later) : Rendering globals frame output texts later := by
  obtain ⟨bound, held, found⟩ := rendering.names
  exact ⟨rendering.ready.keeps keeps, ⟨bound, keeps _ _ held, found⟩,
    keeps _ _ rendering.collected⟩

theorem Rendering.add (rendering : Rendering globals frame output texts store) (text : Text) :
    Rendering globals frame output (texts ++ [text])
      (store.put output (.list (texts.map .text ++ [.text text]))) := by
  obtain ⟨bound, held, found⟩ := rendering.names
  have apart := rendering.collected.apart held (by simp)
  have ready := rendering.ready
  have other : output ≠ globals ∧ output ≠ globals + 1 :=
    ⟨rendering.collected.apart ready.names (by simp),
      rendering.collected.apart ready.escape (by simp)⟩
  refine ⟨ready.put other _, ⟨bound, held.put_other apart _, found⟩, ?_⟩
  rw [List.map_append, List.map_singleton]
  exact Store.holds_put rendering.collected _

/-- What has been put out in the end. Texts may have surrogates in them. -/
structure Rendered (frame : Frame) (output : Nat) (entries : List Points) (store : Store) : Prop where
  names : ∃ bound, store.Holds frame.place (.bindings bound) ∧
    findName? outputName bound = some (.list output)
  collected : store.Holds output (.list (entries.map .ofPoints))

theorem map_ofText (texts : List Text) :
    (texts.map Points.ofText).map Value.ofPoints = texts.map .text := by
  simp [Function.comp_def, ofPoints_ofText]

theorem Rendering.rendered (rendering : Rendering globals frame output texts store) :
    Rendered frame output (texts.map Points.ofText) store :=
  ⟨rendering.names, (map_ofText texts).symm ▸ rendering.collected⟩

theorem value_output (within : Within env frame) {bound : List (Text × Value)}
    (held : store.Holds frame.place (.bindings bound))
    (found : findName? outputName bound = some (.list output)) :
    Names.value outputName env store = .ok (.list output) store := by
  obtain ⟨above, frames, foreign⟩ := within.frames
  obtain ⟨around, globals, depth⟩ := env
  cases frames
  exact Names.value_through held foreign within.output.2 within.output.1 found

/-- A statement that puts out a value. -/
theorem exec_append (within : Within env frame) (plain : Check.isStarred expr = false)
    {middle : Store} {value : Value} {before : List Text}
    (rendering : Rendering env.globals frame output before store)
    (evaluated : eval (fuel + 1) env expr store = .ok value middle)
    (kept : Rendering env.globals frame output texts middle) :
    exec (fuel + 4) env (.expression (appendCall expr)) store =
      .ok .next (middle.put output (.list (texts.map .text ++ [value]))) := by
  obtain ⟨bound, held, found⟩ := rendering.names
  have method : eval (fuel + 2) env (.attributeOf (.name outputName) "append".toList) store =
      .ok (.method (.list output) .append) store := by
    rw [eval, Outcome.bind_apply, eval, value_output within held found]
    rfl
  have called : call (fuel + 2) env.depth (.method (.list output) .append) [value] [] middle =
      .ok .none (middle.put output (.list (texts.map .text ++ [value]))) := by
    rw [call]
    simp only [Builtin.applyMethod, Outcome.bind_apply, Run.listItems_apply kept.collected,
      Run.replace_apply]
    rfl
  have appended : eval (fuel + 3) env (appendCall expr) store =
      .ok .none (middle.put output (.list (texts.map .text ++ [value]))) :=
    eval_call method (evalArguments_single plain evaluated) called
  rw [exec, Outcome.bind_apply, appended]
  rfl

theorem pointsOf_ofPoints (points : Points) : Builtin.pointsOf (.ofPoints points) = pure points := by
  have same : (Value.ofPoints points).points? = some points := by
    unfold Value.ofPoints
    split
    next text found =>
      rw [Value.points?, Points.ofText_text? found]
    next => rfl
  rw [Builtin.pointsOf, same]

theorem mapM_pointsOf (entries : List Points) (store : Store) :
    (entries.map Value.ofPoints).mapM Builtin.pointsOf store = .ok entries store := by
  induction entries with
  | nil => rfl
  | cons entry entries ih =>
    rw [List.map_cons, List.mapM_cons, pointsOf_ofPoints, pure_bind, Outcome.bind_apply, ih]
    rfl

theorem intercalate_ofText (separator : Text) (texts : List Text) :
    List.intercalate (Points.ofText separator) (texts.map Points.ofText) =
      Points.ofText (Text.join separator texts) := by
  rw [Text.join]
  induction texts with
  | nil => rfl
  | cons text texts ih =>
    cases texts with
    | nil => simp
    | cons next texts =>
      rw [List.map_cons, List.map_cons, List.intercalate_cons_cons, List.intercalate_cons_cons,
        ← List.map_cons, ih]
      simp [Points.ofText]

/-- The entries with line breaks between them. -/
def joined (entries : List Points) : Points := List.intercalate (Points.ofText ['\n']) entries

theorem ofPoints_joined (texts : List Text) :
    Value.ofPoints (joined (texts.map Points.ofText)) = .text (Text.join ['\n'] texts) := by
  rw [joined, intercalate_ofText, ofPoints_ofText]

theorem exec_return_output (within : Within env frame) {entries : List Points}
    (rendered : Rendered frame output entries store) :
    exec (fuel + 6) env returnStatement store =
      .ok (.returned (.ofPoints (joined entries))) store := by
  obtain ⟨bound, held, found⟩ := rendered.names
  have method : eval (fuel + 4) env
      (.attributeOf (.constant (.string (Points.ofText ['\n']))) "join".toList) store =
        .ok (.method (.text ['\n']) .join) store := by
    rw [eval, Outcome.bind_apply, eval, constantValue, ofPoints_ofText]
    rfl
  have given : evalArguments (fuel + 4) env [.positional (.name outputName)] store =
      .ok ([.list output], []) store :=
    evalArguments_single rfl (value_output within held found)
  have called : call (fuel + 4) env.depth (.method (.text ['\n']) .join) [.list output] [] store =
      .ok (.ofPoints (joined entries)) store := by
    have separator : Builtin.pointsOf (.text ['\n']) = pure (Points.ofText ['\n']) := rfl
    rw [call]
    simp only [Builtin.applyMethod, Value.elements, Outcome.bind_apply,
      Run.listItems_apply rendered.collected, mapM_pointsOf, separator, Outcome.pure_apply, joined]
  exact exec_return (eval_call method given called)

theorem equal_text (text : Text) :
    Value.equal (.text text) (.text text) = pure true := by
  rw [Value.equal, maximalNesting, Value.same]
  simp

/-- The list that everything is put out to, in a place of its own. -/
theorem exec_output {place : Nat} (globals depth : Nat) (inside : outputName ∈ frame.locals)
    (undeclared : frame.globals = [])
    (held : store.Holds frame.place (.bindings [("bindings".toList, .dict place)])) :
    ∃ later output,
      (∀ fuel, exec (fuel + 4) ⟨[frame], globals, depth⟩ outputStatement store =
        .ok .next later) ∧
      later.Holds frame.place
        (.bindings [("bindings".toList, .dict place), (outputName, .list output)]) ∧
      later.Holds output (.list []) ∧ store.cells.size ≤ output ∧
      ∀ other cell, frame.place ≠ other → store.Holds other cell → later.Holds other cell := by
  have kept := Store.keeps_push store (.list [])
  have added := Store.holds_push store (.list [])
  have stored : Names.store outputName (.list store.cells.size) ⟨[frame], globals, depth⟩
      (store.push (.list [])) = .ok () ((store.push (.list [])).put frame.place
        (.bindings (bindName outputName (.list store.cells.size)
          [("bindings".toList, .dict place)]))) :=
    Names.store_local (kept _ _ held) (by simp [undeclared]) inside _
  refine ⟨_, store.cells.size, fun fuel => ?_, Store.holds_put (kept _ _ held) _,
    added.put_other (Nat.ne_of_lt held.lt) _, Nat.le_refl _,
    fun other cell apart holds => (kept other cell holds).put_other apart _⟩
  have made : eval (fuel + 3) ⟨[frame], globals, depth⟩ (.list []) store =
      .ok (.list store.cells.size) (store.push (.list [])) := rfl
  rw [outputStatement, exec, Outcome.bind_apply, made]
  simp only [List.map_cons, List.map_nil, assignAll, assign, Outcome.bind_apply, stored]
  rfl

theorem eval_context {place : Nat} {page : Value} {bound : List (Text × Value)}
    (inside : "bindings".toList ∈ frame.locals) (undeclared : frame.globals = [])
    (held : store.Holds frame.place (.bindings bound))
    (found : findName? "bindings".toList bound = some (.dict place))
    (given : store.Holds place (.dict [(.text "context".toList, page)])) :
    eval (fuel + 2) ⟨[frame], globals, depth⟩ contextValue store = .ok page store := by
  have mapping : Names.value "bindings".toList ⟨[frame], globals, depth⟩ store =
      .ok (.dict place) store :=
    Names.value_local held (by simp [undeclared]) inside found
  have key : constantValue (.string (Points.ofText "context".toList)) =
      .text "context".toList := by
    rw [constantValue, ofPoints_ofText]
  have isKey : Value.isKey (.text "context".toList) = true := rfl
  rw [contextValue, eval]
  · simp only [eval, Outcome.bind_apply, mapping, key, Outcome.pure_apply, Value.subscript, isKey,
      Bool.not_true, Bool.false_eq_true, if_false, Run.dictEntries_apply given, Value.lookupWith,
      equal_text, if_true]
  · intro lower upper step same
    cases same

theorem exec_context {page : Value} {bound : List (Text × Value)}
    (inside : selfName ∈ frame.locals) (undeclared : frame.globals = [])
    (held : store.Holds frame.place (.bindings bound))
    (evaluated : eval (fuel + 1) ⟨[frame], globals, depth⟩ contextValue store = .ok page store) :
    exec (fuel + 2) ⟨[frame], globals, depth⟩ (contextStatement contextType) store =
      .ok .next (store.put frame.place (.bindings (bindName selfName page bound))) := by
  have stored : Names.store selfName page ⟨[frame], globals, depth⟩ store =
      .ok () (store.put frame.place (.bindings (bindName selfName page bound))) :=
    Names.store_local held (by simp [undeclared]) inside page
  rw [contextStatement, exec]
  simp only [assign, Outcome.bind_apply, evaluated, stored]
  rfl

/-- Where the statements of a template begin to run: with nothing put out, with the page at hand,
and with everything that there was before. -/
structure Begun (before : Store) (page : Value) (globals : Nat) (names : List Text) (frame : Frame)
    (output : Nat) (store : Store) : Prop where
  locals : frame.locals = ("bindings".toList :: outputName :: selfName :: names).eraseDups
  undeclared : frame.globals = []
  bound : ∃ arguments, store.Holds frame.place (.bindings
    [("bindings".toList, arguments), (outputName, .list output), (selfName, page)])
  rendering : Rendering globals frame output [] store
  kept : before.Keeps store
  fresh : before.cells.size ≤ frame.place ∧ before.cells.size ≤ output

theorem Begun.within {before : Store} {page : Value} {names : List Text}
    (begun : Begun before page globals names frame output store) (unescaped : escapeName ∉ names)
    (shallow : depth < maximalCalls) : Within ⟨[frame], globals, depth⟩ frame := by
  have other : escapeName ∉ ["bindings".toList, outputName, selfName] := by decide
  have inside : outputName ∈ frame.locals := by
    rw [begun.locals, List.mem_eraseDups]
    exact List.mem_cons_of_mem _ (List.mem_cons_self ..)
  have outside : escapeName ∉ frame.locals := by
    rw [begun.locals, List.mem_eraseDups]
    exact fun member => (List.mem_append.mp member).elim other unescaped
  refine ⟨⟨[], rfl, by simp [Names.Foreign]⟩, ⟨inside, by simp [begun.undeclared]⟩, ?_, shallow⟩
  simpa [Names.Foreign, begun.undeclared] using outside

theorem Begun.since {before middle : Store} {page : Value} {names : List Text}
    (begun : Begun middle page globals names frame output store) (kept : before.Keeps middle) :
    Begun before page globals names frame output store :=
  { begun with
    kept := kept.trans begun.kept
    fresh := ⟨Nat.le_trans kept.size begun.fresh.1, Nat.le_trans kept.size begun.fresh.2⟩ }

/-- Statements that put out the given entries wherever they begin to run. -/
def Renders (before : Store) (page : Value) (names : List Text) (body : List Stmt)
    (entries : List Points) : Prop :=
  ∀ globals frame output started, Begun before page globals names frame output started →
    ∃ later, execAll 999999999 ⟨[frame], globals, 1⟩ body started = .ok .next later ∧
      Rendered frame output entries later

/-- What the statements of a template put out is joined by line breaks. -/
theorem callFunction_render {place blocks : Nat} {page : Value} {names : List Text}
    {before : Store} {entries : List Points}
    (loaded : Loaded globals contextType body store) (binds : BindsAll blocks body names)
    (given : store.Holds place (.dict [(.text "context".toList, page)]))
    (unescaped : escapeName ∉ names) (kept : before.Keeps store)
    (renders : Renders before page names body entries) :
    ∃ later, callFunction (.function (globals + 2)) [.dict place] store =
      .ok (.ofPoints (joined entries)) later := by
  have scope : (moduleFunction globals "bindings".toList (renderBody contextType body)).scope =
      ⟨("bindings".toList :: outputName :: selfName :: names).eraseDups, [], []⟩ :=
    (bindsAll_body binds contextType).scope ["bindings".toList]
  have inside := given.lt
  have pushed := Store.keeps_push store (.bindings [("bindings".toList, .dict place)])
  let frame : Frame := ⟨store.cells.size,
    ("bindings".toList :: outputName :: selfName :: names).eraseDups, []⟩
  have local_of {name : Text} (member : name ∈ "bindings".toList :: outputName :: selfName :: names) :
      name ∈ frame.locals := List.mem_eraseDups.mpr member
  have opened : (store.push (.bindings [("bindings".toList, .dict place)])).Holds frame.place _ :=
    Store.holds_push store _
  obtain ⟨second, output, puts, named, empty, above, others⟩ :=
    exec_output globals 1 (local_of (by simp)) rfl opened
  rw [Store.size_push] at above
  have argument := others _ _ (Nat.ne_of_gt inside) (pushed _ _ given)
  have evaluated (fuel : Nat) : eval (fuel + 2) ⟨[frame], globals, 1⟩ contextValue second =
      .ok page second := eval_context (local_of (by simp)) rfl named rfl argument
  generalize held : second.put frame.place (.bindings (bindName selfName page
    [("bindings".toList, .dict place), (outputName, .list output)])) = started
  have begun : Begun store page globals names frame output started := by
    have keeps : store.Keeps started := by
      intro other cell found
      have apart : frame.place ≠ other := Nat.ne_of_gt found.lt
      exact held ▸ (others other cell apart (pushed other cell found)).put_other apart _
    have bound := held ▸ Store.holds_put named _
    have collected := held ▸ empty.put_other (named.apart empty (by simp)) _
    exact ⟨rfl, rfl, ⟨_, bound⟩, ⟨loaded.ready.keeps keeps, ⟨_, bound, rfl⟩, collected⟩, keeps,
      Nat.le_refl _, Nat.le_of_succ_le above⟩
  obtain ⟨later, ran, finished⟩ := renders globals frame output started (begun.since kept)
  have context : exec 999999998 ⟨[frame], globals, 1⟩ (contextStatement contextType) second =
      .ok .next started := held ▸ exec_context (local_of (by simp)) rfl named (evaluated _)
  refine ⟨later, ?_⟩
  rw [callFunction, maximalDepth_eq]
  refine call_moduleFunction loaded.render (by decide) ?_
  rw [calledFrame, scope]
  have within : Within ⟨[frame], globals, 1⟩ frame := begun.within unescaped (by decide)
  have returned : execAll 999999999 ⟨[frame], globals, 1⟩ [returnStatement] later =
      .ok (.returned (.ofPoints (joined entries))) later :=
    execAll_returned (exec_return_output within finished)
  exact execAll_next (puts _) (execAll_next context (execAll_append ran returned))

end Stencil.Script.Module

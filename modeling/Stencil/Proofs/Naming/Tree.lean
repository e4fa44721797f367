import Stencil.Proofs.Text.Unbroken
import Stencil.Script.Names

/-!
Trees of code that bind names on one line only.
-/

set_option autoImplicit false

namespace Stencil.Script

namespace Expr

/-- Whether all names that an expression binds are on one line, be it assigned to or not. -/
def Tidy (expr : Expr) : Prop := ∀ stored, ∀ name ∈ expr.assigned stored, name.Unbroken

theorem tidy_of_opensScope {expr : Expr} (opens : expr.opensScope = true) : expr.Tidy := by
  intro stored name member
  rw [assigned_eq, if_pos opens] at member
  cases member

theorem mem_ownNames {expr : Expr} {stored : Bool} {name : Text}
    (member : name ∈ expr.ownNames stored) : name ∈ expr.ownNames true := by
  cases stored with
  | true => exact member
  | false =>
    cases expr with
    | named target value => exact member
    | _ => cases member

theorem tidy_of_parts {expr : Expr} (own : ∀ name ∈ expr.ownNames true, name.Unbroken)
    (below : ∀ child ∈ expr.children, child.Tidy) : expr.Tidy := by
  intro stored name member
  rw [assigned_eq] at member
  split at member
  next => cases member
  next =>
    rcases List.mem_append.mp member with here | deeper
    · exact own name (mem_ownNames here)
    · obtain ⟨child, inside, found⟩ := List.mem_flatMap.mp deeper
      exact below child inside _ name found

/-- An expression that binds nothing by itself is as tidy as what it is made of. -/
theorem tidy_of_children {expr : Expr} (own : expr.ownNames true = [])
    (below : ∀ child ∈ expr.children, child.Tidy) : expr.Tidy :=
  tidy_of_parts (own ▸ List.forall_mem_nil _) below

end Expr

/-! ### Parts of expressions -/

def Argument.Tidy (argument : Argument Expr) : Prop := argument.value.Tidy

@[simp] theorem Argument.tidy_positional {value : Expr} :
    (Argument.positional value).Tidy ↔ value.Tidy := .rfl

@[simp] theorem Argument.tidy_keyword {name : Text} {value : Expr} :
    (Argument.keyword name value).Tidy ↔ value.Tidy := .rfl

@[simp] theorem Argument.tidy_mapping {value : Expr} :
    (Argument.mapping value).Tidy ↔ value.Tidy := .rfl

def DictItem.Tidy (item : DictItem Expr) : Prop := ∀ value ∈ item.values, value.Tidy

@[simp] theorem DictItem.tidy_entry {key value : Expr} :
    (DictItem.entry key value).Tidy ↔ key.Tidy ∧ value.Tidy := by
  simp [DictItem.Tidy, values]

@[simp] theorem DictItem.tidy_mapping {value : Expr} :
    (DictItem.mapping value).Tidy ↔ value.Tidy := by
  simp [DictItem.Tidy, values]

def FormatPart.Tidy (part : FormatPart Expr) : Prop := ∀ value ∈ part.values, value.Tidy

@[simp] theorem FormatPart.tidy_fixed (points : Points) :
    (FormatPart.fixed points : FormatPart Expr).Tidy := by
  simp [FormatPart.Tidy, values]

@[simp] theorem FormatPart.tidy_field {value : Expr} {conversion : Option Char}
    {format : Option Expr} : (FormatPart.field value conversion format).Tidy ↔
      value.Tidy ∧ ∀ one ∈ format, one.Tidy := by
  simp [FormatPart.Tidy, values]

/-! ### Expressions -/

namespace Expr

variable {first second third : Expr} {items : List Expr}

@[simp] theorem tidy_constant (value : Constant) : (constant value).Tidy :=
  tidy_of_children rfl (List.forall_mem_nil _)

@[simp] theorem tidy_name {id : Text} (unbroken : id.Unbroken) : (name id).Tidy :=
  tidy_of_parts (List.forall_mem_singleton.mpr unbroken) (List.forall_mem_nil _)

@[simp] theorem tidy_tuple (all : ∀ item ∈ items, item.Tidy) : (tuple items).Tidy :=
  tidy_of_children rfl all

@[simp] theorem tidy_list (all : ∀ item ∈ items, item.Tidy) : (list items).Tidy :=
  tidy_of_children rfl all

@[simp] theorem tidy_set (all : ∀ item ∈ items, item.Tidy) : (set items).Tidy :=
  tidy_of_children rfl all

@[simp] theorem tidy_dict {items : List (DictItem Expr)} (all : ∀ item ∈ items, item.Tidy) :
    (dict items).Tidy :=
  tidy_of_children rfl fun child member => by
    obtain ⟨item, inside, found⟩ := List.mem_flatMap.mp member
    exact all item inside child found

@[simp] theorem tidy_unary (op : UnaryOp) (tidy : first.Tidy) : (unary op first).Tidy :=
  tidy_of_children rfl (List.forall_mem_singleton.mpr tidy)

@[simp] theorem tidy_binary (op : BinaryOp) (left : first.Tidy) (right : second.Tidy) :
    (binary op first second).Tidy :=
  tidy_of_children rfl (List.forall_mem_cons.mpr ⟨left, List.forall_mem_singleton.mpr right⟩)

@[simp] theorem tidy_logical (op : Connective) (all : ∀ item ∈ items, item.Tidy) :
    (logical op items).Tidy :=
  tidy_of_children rfl all

@[simp] theorem tidy_compare {rest : List (Comparison × Expr)} (tidy : first.Tidy)
    (all : ∀ op value, (op, value) ∈ rest → value.Tidy) : (compare first rest).Tidy :=
  tidy_of_children rfl <| List.forall_mem_cons.mpr ⟨tidy, fun value member => by
    obtain ⟨pair, inside, rfl⟩ := List.mem_map.mp member
    exact all pair.1 pair.2 inside⟩

@[simp] theorem tidy_conditional (one : first.Tidy) (two : second.Tidy) (three : third.Tidy) :
    (conditional first second third).Tidy :=
  tidy_of_children rfl <| List.forall_mem_cons.mpr ⟨one, List.forall_mem_cons.mpr
    ⟨two, List.forall_mem_singleton.mpr three⟩⟩

@[simp] theorem tidy_lambda (parameters : Parameters Expr) (body : Expr) :
    (lambda parameters body).Tidy := tidy_of_opensScope rfl

@[simp] theorem tidy_call {arguments : List (Argument Expr)} (tidy : first.Tidy)
    (all : ∀ argument ∈ arguments, argument.Tidy) : (call first arguments).Tidy :=
  tidy_of_children rfl fun child member => by
    rcases List.mem_cons.mp member with rfl | passed
    · exact tidy
    · obtain ⟨argument, inside, rfl⟩ := List.mem_map.mp passed
      exact all argument inside

@[simp] theorem tidy_attributeOf (name : Text) (tidy : first.Tidy) :
    (attributeOf first name).Tidy :=
  tidy_of_children rfl (List.forall_mem_singleton.mpr tidy)

@[simp] theorem tidy_subscript (object : first.Tidy) (index : second.Tidy) :
    (subscript first second).Tidy :=
  tidy_of_children rfl (List.forall_mem_cons.mpr ⟨object, List.forall_mem_singleton.mpr index⟩)

@[simp] theorem tidy_slice {lower upper step : Option Expr} (one : ∀ value ∈ lower, value.Tidy)
    (two : ∀ value ∈ upper, value.Tidy) (three : ∀ value ∈ step, value.Tidy) :
    (slice lower upper step).Tidy :=
  tidy_of_children rfl fun child member => by
    rcases List.mem_append.mp member with bounds | beside
    · rcases List.mem_append.mp bounds with below | above
      · exact one child (Option.mem_toList.mp below)
      · exact two child (Option.mem_toList.mp above)
    · exact three child (Option.mem_toList.mp beside)

@[simp] theorem tidy_starred (tidy : first.Tidy) : (starred first).Tidy :=
  tidy_of_children rfl (List.forall_mem_singleton.mpr tidy)

@[simp] theorem tidy_named {target : Text} (unbroken : target.Unbroken) (tidy : first.Tidy) :
    (named target first).Tidy :=
  tidy_of_parts (List.forall_mem_singleton.mpr unbroken) (List.forall_mem_singleton.mpr tidy)

@[simp] theorem tidy_await (tidy : first.Tidy) : (await first).Tidy :=
  tidy_of_children rfl (List.forall_mem_singleton.mpr tidy)

@[simp] theorem tidy_yield {value : Option Expr} (tidy : ∀ one ∈ value, one.Tidy) :
    (yield value).Tidy :=
  tidy_of_children rfl fun one member => tidy one (Option.mem_toList.mp member)

@[simp] theorem tidy_yieldFrom (tidy : first.Tidy) : (yieldFrom first).Tidy :=
  tidy_of_children rfl (List.forall_mem_singleton.mpr tidy)

@[simp] theorem tidy_comprehension (kind : ComprehensionKind) (element : Expr)
    (value : Option Expr) (clauses : List (Clause Expr)) :
    (comprehension kind element value clauses).Tidy := tidy_of_opensScope rfl

@[simp] theorem tidy_formatted {parts : List (FormatPart Expr)}
    (all : ∀ part ∈ parts, part.Tidy) : (formatted parts).Tidy :=
  tidy_of_children rfl fun child member => by
    obtain ⟨part, inside, found⟩ := List.mem_flatMap.mp member
    exact all part inside child found

@[simp] theorem tidy_ite {condition : Prop} [Decidable condition] (one : first.Tidy)
    (other : second.Tidy) : (if condition then first else second).Tidy := by
  split
  next => exact one
  next => exact other

end Expr

/-! ### Patterns -/

namespace Pattern

/-- Whether the expressions in a pattern are tidy. -/
def Tidy (pattern : Pattern) : Prop := ∀ value ∈ pattern.values, value.Tidy

theorem tidy_all {patterns : List Pattern} (all : ∀ pattern ∈ patterns, pattern.Tidy) :
    ∀ value ∈ valuesOfAll patterns, value.Tidy := by
  induction patterns with
  | nil => simp [valuesOfAll]
  | cons pattern rest ih =>
    obtain ⟨first, others⟩ := List.forall_mem_cons.mp all
    rw [valuesOfAll]
    exact List.forall_mem_append.mpr ⟨first, ih others⟩

variable {value : Expr} {items others : List Pattern}

@[simp] theorem tidy_constant : (constant value).Tidy ↔ value.Tidy :=
  List.forall_mem_singleton

@[simp] theorem tidy_capture (name : Option Text) : (capture name).Tidy := List.forall_mem_nil _

@[simp] theorem tidy_star (name : Option Text) : (star name).Tidy := List.forall_mem_nil _

@[simp] theorem tidy_sequence (all : ∀ item ∈ items, item.Tidy) : (sequence items).Tidy :=
  tidy_all all

@[simp] theorem tidy_mapping {keys : List Expr} (name : Option Text)
    (known : ∀ key ∈ keys, key.Tidy) (all : ∀ item ∈ items, item.Tidy) :
    (mapping keys items name).Tidy :=
  List.forall_mem_append.mpr ⟨known, tidy_all all⟩

@[simp] theorem tidy_instance (names : List Text) (type : value.Tidy)
    (all : ∀ item ∈ items, item.Tidy) (named : ∀ item ∈ others, item.Tidy) :
    (Pattern.instance value items names others).Tidy :=
  List.forall_mem_append.mpr
    ⟨List.forall_mem_cons.mpr ⟨type, tidy_all all⟩, tidy_all named⟩

@[simp] theorem tidy_either (all : ∀ item ∈ items, item.Tidy) : (either items).Tidy :=
  tidy_all all

@[simp] theorem tidy_as (name : Text) {pattern : Pattern} :
    (as pattern name).Tidy ↔ pattern.Tidy := by
  simp [Tidy, values]

end Pattern

/-! ### Statements -/

/-- Whether all names that a statement binds are on one line. -/
def Stmt.Tidy (statement : Stmt) : Prop := ∀ name ∈ statement.assigned, name.Unbroken

/-- A statement is tidy if its own names are on one line and what it is made of is tidy. -/
theorem Stmt.tidy_of_parts {statement : Stmt} (own : ∀ name ∈ statement.ownNames, name.Unbroken)
    (targets : ∀ target ∈ statement.targets, target.Tidy)
    (values : ∀ value ∈ statement.values, value.Tidy)
    (blocks : ∀ inner ∈ statement.blocks, inner.Tidy) : statement.Tidy := by
  intro name member
  rw [assigned_eq] at member
  simp only [List.mem_append, List.mem_flatMap] at member
  rcases member with ((here | ⟨target, inside, found⟩) | ⟨value, inside, found⟩) |
    ⟨inner, inside, found⟩
  · exact own name here
  · exact targets target inside true name found
  · exact values value inside false name found
  · exact blocks inner inside name found

def Import.Tidy (module : Import) : Prop := ∀ name ∈ module.boundName, name.Unbroken

def Handler.Tidy (handler : Handler Stmt) : Prop :=
  (∀ type ∈ handler.type, type.Tidy) ∧ ∀ inner ∈ handler.body, inner.Tidy

def Case.Tidy (one : Case Stmt) : Prop :=
  one.pattern.Tidy ∧ (∀ value ∈ one.guard, value.Tidy) ∧ ∀ inner ∈ one.body, inner.Tidy

namespace Stmt

variable {value first second : Expr} {values : List Expr} {option other : Option Expr}
  {body alternative final : List Stmt}

/-- A statement that has no names, targets and blocks is as tidy as its expressions. -/
theorem tidy_of_values {statement : Stmt} (own : statement.ownNames = [])
    (targets : statement.targets = []) (blocks : statement.blocks = [])
    (all : ∀ value ∈ statement.values, value.Tidy) : statement.Tidy :=
  tidy_of_parts (own ▸ List.forall_mem_nil _) (targets ▸ List.forall_mem_nil _) all
    (blocks ▸ List.forall_mem_nil _)

theorem tidy_toList {option : Option Expr} (known : ∀ value ∈ option, value.Tidy) :
    ∀ value ∈ option.toList, value.Tidy :=
  fun value member => known value (Option.mem_toList.mp member)

@[simp] theorem tidy_expression (known : value.Tidy) : (expression value).Tidy :=
  tidy_of_values rfl rfl rfl (List.forall_mem_singleton.mpr known)

@[simp] theorem tidy_assign (all : ∀ target ∈ values, target.Tidy) (known : value.Tidy) :
    (assign values value).Tidy :=
  tidy_of_parts (List.forall_mem_nil _) all (List.forall_mem_singleton.mpr known)
    (List.forall_mem_nil _)

@[simp] theorem tidy_augmented (op : BinaryOp) (target : first.Tidy) (known : second.Tidy) :
    (augmented first op second).Tidy :=
  tidy_of_parts (List.forall_mem_nil _) (List.forall_mem_singleton.mpr target)
    (List.forall_mem_singleton.mpr known) (List.forall_mem_nil _)

@[simp] theorem tidy_annotated (simple : Bool) (target : first.Tidy) (typing : second.Tidy)
    (known : ∀ value ∈ option, value.Tidy) : (annotated first second option simple).Tidy :=
  tidy_of_parts (List.forall_mem_nil _) (List.forall_mem_singleton.mpr target)
    (List.forall_mem_cons.mpr ⟨typing, tidy_toList known⟩) (List.forall_mem_nil _)

@[simp] theorem tidy_delete (all : ∀ target ∈ values, target.Tidy) : (delete values).Tidy :=
  tidy_of_values rfl rfl rfl all

@[simp] theorem tidy_returnValue (known : ∀ value ∈ option, value.Tidy) :
    (returnValue option).Tidy :=
  tidy_of_values rfl rfl rfl (tidy_toList known)

@[simp] theorem tidy_raiseError (known : ∀ value ∈ option, value.Tidy)
    (cause : ∀ value ∈ other, value.Tidy) : (raiseError option other).Tidy :=
  tidy_of_values rfl rfl rfl (List.forall_mem_append.mpr ⟨tidy_toList known, tidy_toList cause⟩)

@[simp] theorem tidy_assertion (test : value.Tidy) (known : ∀ value ∈ option, value.Tidy) :
    (assertion value option).Tidy :=
  tidy_of_values rfl rfl rfl (List.forall_mem_cons.mpr ⟨test, tidy_toList known⟩)

@[simp] theorem tidy_pass : pass.Tidy :=
  tidy_of_values rfl rfl rfl (List.forall_mem_nil _)

@[simp] theorem tidy_breakLoop : breakLoop.Tidy :=
  tidy_of_values rfl rfl rfl (List.forall_mem_nil _)

@[simp] theorem tidy_continueLoop : continueLoop.Tidy :=
  tidy_of_values rfl rfl rfl (List.forall_mem_nil _)

@[simp] theorem tidy_globalNames (names : List Text) : (globalNames names).Tidy :=
  tidy_of_values rfl rfl rfl (List.forall_mem_nil _)

@[simp] theorem tidy_nonlocalNames (names : List Text) : (nonlocalNames names).Tidy :=
  tidy_of_values rfl rfl rfl (List.forall_mem_nil _)

theorem tidy_imports {modules : List Import} (all : ∀ module ∈ modules, module.Tidy) :
    ∀ name ∈ modules.flatMap Import.boundName, name.Unbroken := by
  intro name member
  obtain ⟨module, inside, found⟩ := List.mem_flatMap.mp member
  exact all module inside name found

@[simp] theorem tidy_importModules {modules : List Import}
    (all : ∀ module ∈ modules, module.Tidy) : (importModules modules).Tidy :=
  tidy_of_parts (tidy_imports all) (List.forall_mem_nil _) (List.forall_mem_nil _)
    (List.forall_mem_nil _)

@[simp] theorem tidy_importNames (level : Nat) (path : List Text) {selection : Selection}
    (all : ∀ names, selection = .names names → ∀ module ∈ names, module.Tidy) :
    (importNames level path selection).Tidy := by
  cases selection with
  | everything => exact tidy_of_values rfl rfl rfl (List.forall_mem_nil _)
  | names names =>
    exact tidy_of_parts (tidy_imports (all names rfl)) (List.forall_mem_nil _)
      (List.forall_mem_nil _) (List.forall_mem_nil _)

@[simp] theorem tidy_branch (test : value.Tidy) (one : ∀ inner ∈ body, inner.Tidy)
    (two : ∀ inner ∈ alternative, inner.Tidy) : (branch value body alternative).Tidy :=
  tidy_of_parts (List.forall_mem_nil _) (List.forall_mem_nil _)
    (List.forall_mem_singleton.mpr test) (List.forall_mem_append.mpr ⟨one, two⟩)

@[simp] theorem tidy_whileLoop (test : value.Tidy) (one : ∀ inner ∈ body, inner.Tidy)
    (two : ∀ inner ∈ alternative, inner.Tidy) : (whileLoop value body alternative).Tidy :=
  tidy_of_parts (List.forall_mem_nil _) (List.forall_mem_nil _)
    (List.forall_mem_singleton.mpr test) (List.forall_mem_append.mpr ⟨one, two⟩)

@[simp] theorem tidy_forLoop (async : Bool) (target : first.Tidy) (iterable : second.Tidy)
    (one : ∀ inner ∈ body, inner.Tidy) (two : ∀ inner ∈ alternative, inner.Tidy) :
    (forLoop first second body alternative async).Tidy :=
  tidy_of_parts (List.forall_mem_nil _) (List.forall_mem_singleton.mpr target)
    (List.forall_mem_singleton.mpr iterable) (List.forall_mem_append.mpr ⟨one, two⟩)

@[simp] theorem tidy_withBlock {items : List (Expr × Option Expr)} (async : Bool)
    (all : ∀ item ∈ items, item.1.Tidy ∧ ∀ target ∈ item.2, target.Tidy)
    (one : ∀ inner ∈ body, inner.Tidy) : (withBlock items body async).Tidy := by
  refine tidy_of_parts (List.forall_mem_nil _) ?_ ?_ one
  · intro target member
    obtain ⟨item, inside, found⟩ := List.mem_filterMap.mp member
    exact (all item inside).2 target found
  · intro manager member
    obtain ⟨item, inside, rfl⟩ := List.mem_map.mp member
    exact (all item inside).1

@[simp] theorem tidy_tryBlock {handlers : List (Handler Stmt)} (grouped : Bool)
    (one : ∀ inner ∈ body, inner.Tidy) (all : ∀ handler ∈ handlers, handler.Tidy)
    (two : ∀ inner ∈ alternative, inner.Tidy) (three : ∀ inner ∈ final, inner.Tidy) :
    (tryBlock body handlers alternative final grouped).Tidy := by
  refine tidy_of_parts (List.forall_mem_nil _) (List.forall_mem_nil _) ?_ ?_
  · intro type member
    obtain ⟨handler, inside, found⟩ := List.mem_filterMap.mp member
    exact (all handler inside).1 type found
  · intro inner member
    rcases List.mem_append.mp member with others | last
    · rcases List.mem_append.mp others with earlier | after
      · rcases List.mem_append.mp earlier with main | caught
        · exact one inner main
        · obtain ⟨handler, inside, found⟩ := List.mem_flatMap.mp caught
          exact (all handler inside).2 inner found
      · exact two inner after
    · exact three inner last

@[simp] theorem tidy_matchBlock {cases : List (Case Stmt)} (subject : value.Tidy)
    (all : ∀ one ∈ cases, one.Tidy) : (matchBlock value cases).Tidy := by
  refine tidy_of_parts (List.forall_mem_nil _) (List.forall_mem_nil _) ?_ ?_
  · refine List.forall_mem_cons.mpr ⟨subject, fun found member => ?_⟩
    obtain ⟨one, inside, part⟩ := List.mem_flatMap.mp member
    rcases List.mem_append.mp part with pattern | condition
    · exact (all one inside).1 found pattern
    · exact (all one inside).2.1 found (Option.mem_toList.mp condition)
  · intro inner member
    obtain ⟨one, inside, found⟩ := List.mem_flatMap.mp member
    exact (all one inside).2.2 inner found

@[simp] theorem tidy_functionDef {name : Text} (unbroken : name.Unbroken)
    (parameters : Parameters Expr) (returns : Option Expr) (body : List Stmt)
    (decorators : List Expr) (async : Bool) :
    (functionDef name parameters returns body decorators async).Tidy :=
  tidy_of_parts (List.forall_mem_singleton.mpr unbroken) (List.forall_mem_nil _)
    (List.forall_mem_nil _) (List.forall_mem_nil _)

@[simp] theorem tidy_classDef {name : Text} (unbroken : name.Unbroken)
    (arguments : List (Argument Expr)) (body : List Stmt) (decorators : List Expr) :
    (classDef name arguments body decorators).Tidy :=
  tidy_of_parts (List.forall_mem_singleton.mpr unbroken) (List.forall_mem_nil _)
    (List.forall_mem_nil _) (List.forall_mem_nil _)

end Stmt

end Stencil.Script

import Stencil.Decimal
import Stencil.Text.Point

/-!
The trees of script code.
-/

set_option autoImplicit false

namespace Stencil.Script

inductive Constant where
  | none
  | bool (value : Bool)
  | ellipsis
  | integer (value : Nat)
  | real (value : Decimal)
  | imaginary (value : Decimal)
  | string (value : Points)
  | bytes (value : List UInt8)
deriving DecidableEq, Repr

inductive UnaryOp where
  | plus | minus | invert | not
deriving DecidableEq, Repr

inductive BinaryOp where
  | add | subtract | multiply | matrixMultiply | divide | floorDivide | modulo | power
  | leftShift | rightShift | bitOr | bitXor | bitAnd
deriving DecidableEq, Repr

inductive Connective where
  | and | or
deriving DecidableEq, Repr

inductive Comparison where
  | equal | notEqual | less | lessEqual | greater | greaterEqual
  | is | isNot | isIn | notIn
deriving DecidableEq, Repr

/-- One parameter, over the type of the expressions that state types and defaults. -/
structure Parameter (ε : Type) where
  name : Text
  typing : Option ε
  default : Option ε

structure Parameters (ε : Type) where
  positionalOnly : List (Parameter ε)
  regular : List (Parameter ε)
  rest : Option (Parameter ε)
  keywordOnly : List (Parameter ε)
  keywords : Option (Parameter ε)

def Parameters.empty {ε : Type} : Parameters ε := ⟨[], [], Option.none, [], Option.none⟩

namespace Parameters

variable {ε : Type}

/-- All parameters, from left to right. -/
def all (parameters : Parameters ε) : List (Parameter ε) :=
  parameters.positionalOnly ++ parameters.regular ++ parameters.rest.toList ++
    parameters.keywordOnly ++ parameters.keywords.toList

def names (parameters : Parameters ε) : List Text := parameters.all.map (·.name)

def defaults (parameters : Parameters ε) : List ε :=
  parameters.all.filterMap (·.default)

def typings (parameters : Parameters ε) : List ε :=
  parameters.all.filterMap (·.typing)

end Parameters

inductive Argument (ε : Type) where
  | positional (value : ε)
  | keyword (name : Text) (value : ε)
  | mapping (value : ε)

def Argument.value {ε : Type} : Argument ε → ε
  | positional value => value
  | keyword _ value => value
  | mapping value => value

inductive DictItem (ε : Type) where
  | entry (key value : ε)
  | mapping (value : ε)

def DictItem.values {ε : Type} : DictItem ε → List ε
  | entry key value => [key, value]
  | mapping value => [value]

/-- One `for` of a comprehension, with its conditions. -/
structure Clause (ε : Type) where
  target : ε
  iterable : ε
  conditions : List ε
  async : Bool

inductive ComprehensionKind where
  | list | set | dict | generator
deriving DecidableEq, Repr

/-- A piece of a formatted string: fixed text, or a value with its conversion and format. -/
inductive FormatPart (ε : Type) where
  | fixed (points : Points)
  | field (value : ε) (conversion : Option Char) (format : Option ε)

def FormatPart.values {ε : Type} : FormatPart ε → List ε
  | fixed _ => []
  | field value _ format => value :: format.toList

inductive Expr where
  | constant (value : Constant)
  | name (id : Text)
  | tuple (items : List Expr)
  | list (items : List Expr)
  | set (items : List Expr)
  | dict (items : List (DictItem Expr))
  | unary (op : UnaryOp) (operand : Expr)
  | binary (op : BinaryOp) (left right : Expr)
  | logical (op : Connective) (operands : List Expr)
  | compare (first : Expr) (rest : List (Comparison × Expr))
  | conditional (test body alternative : Expr)
  | lambda (parameters : Parameters Expr) (body : Expr)
  | call (function : Expr) (arguments : List (Argument Expr))
  | attributeOf (object : Expr) (name : Text)
  | subscript (object index : Expr)
  | slice (lower upper step : Option Expr)
  | starred (value : Expr)
  | named (target : Text) (value : Expr)
  | await (value : Expr)
  | yield (value : Option Expr)
  | yieldFrom (value : Expr)
  | comprehension (kind : ComprehensionKind) (element : Expr) (value : Option Expr)
      (clauses : List (Clause Expr))
  | formatted (parts : List (FormatPart Expr))

inductive Pattern where
  | constant (value : Expr)
  | capture (name : Option Text)
  | star (name : Option Text)
  | sequence (items : List Pattern)
  | mapping (keys : List Expr) (items : List Pattern) (rest : Option Text)
  | instance (type : Expr) (items : List Pattern) (keywords : List Text)
      (keywordItems : List Pattern)
  | either (options : List Pattern)
  | as (pattern : Pattern) (name : Text)

/-- A dotted name that is brought in, and the name it gets. -/
structure Import where
  path : List Text
  newName : Option Text
deriving DecidableEq, Repr

/-- What `from` takes out of a module: everything, or single names. -/
inductive Selection where
  | everything
  | names (names : List Import)
deriving DecidableEq, Repr

/-- One `except`, over the type of statements. -/
structure Handler (σ : Type) where
  type : Option Expr
  name : Option Text
  body : List σ

structure Case (σ : Type) where
  pattern : Pattern
  guard : Option Expr
  body : List σ

inductive Stmt where
  | expression (value : Expr)
  | assign (targets : List Expr) (value : Expr)
  | augmented (target : Expr) (op : BinaryOp) (value : Expr)
  | annotated (target typing : Expr) (value : Option Expr) (simple : Bool)
  | delete (targets : List Expr)
  | pass
  | breakLoop
  | continueLoop
  | returnValue (value : Option Expr)
  | raiseError (error cause : Option Expr)
  | assertion (test : Expr) (message : Option Expr)
  | globalNames (names : List Text)
  | nonlocalNames (names : List Text)
  | importModules (modules : List Import)
  | importNames (level : Nat) (path : List Text) (selection : Selection)
  | branch (test : Expr) (body alternative : List Stmt)
  | whileLoop (test : Expr) (body alternative : List Stmt)
  | forLoop (target iterable : Expr) (body alternative : List Stmt) (async : Bool)
  | withBlock (items : List (Expr × Option Expr)) (body : List Stmt) (async : Bool)
  | tryBlock (body : List Stmt) (handlers : List (Handler Stmt)) (alternative final : List Stmt)
      (grouped : Bool)
  | matchBlock (subject : Expr) (cases : List (Case Stmt))
  | functionDef (name : Text) (parameters : Parameters Expr) (returns : Option Expr)
      (body : List Stmt) (decorators : List Expr) (async : Bool)
  | classDef (name : Text) (arguments : List (Argument Expr)) (body : List Stmt)
      (decorators : List Expr)

namespace Clause

variable {ε : Type}

def parts (clause : Clause ε) : List ε :=
  clause.target :: clause.iterable :: clause.conditions

end Clause

/-- The expressions directly below an expression, from left to right. -/
def Expr.children : Expr → List Expr
  | constant _ => []
  | name _ => []
  | tuple items => items
  | list items => items
  | set items => items
  | dict items => items.flatMap DictItem.values
  | unary _ operand => [operand]
  | binary _ left right => [left, right]
  | logical _ operands => operands
  | compare first rest => first :: rest.map (·.2)
  | conditional test body alternative => [test, body, alternative]
  | lambda parameters body => parameters.defaults ++ [body]
  | call function arguments => function :: arguments.map Argument.value
  | attributeOf object _ => [object]
  | subscript object index => [object, index]
  | slice lower upper step => lower.toList ++ upper.toList ++ step.toList
  | starred value => [value]
  | named _ value => [value]
  | await value => [value]
  | yield value => value.toList
  | yieldFrom value => [value]
  | comprehension _ element value clauses =>
      element :: value.toList ++ clauses.flatMap Clause.parts
  | formatted parts => parts.flatMap FormatPart.values

/-- The patterns directly below a pattern. -/
def Pattern.subpatterns : Pattern → List Pattern
  | constant _ => []
  | capture _ => []
  | star _ => []
  | sequence items => items
  | mapping _ items _ => items
  | .instance _ items _ keywordItems => items ++ keywordItems
  | either options => options
  | as pattern _ => [pattern]

/-- The statements directly below a statement. -/
def Stmt.children : Stmt → List Stmt
  | branch _ body alternative => body ++ alternative
  | whileLoop _ body alternative => body ++ alternative
  | forLoop _ _ body alternative _ => body ++ alternative
  | withBlock _ body _ => body
  | tryBlock body handlers alternative final _ =>
      body ++ handlers.flatMap (·.body) ++ alternative ++ final
  | matchBlock _ cases => cases.flatMap (·.body)
  | functionDef _ _ _ body _ _ => body
  | classDef _ _ body _ => body
  | _ => []

section Sizes

theorem sizeOf_lt_of_mem_toList {α : Type} [SizeOf α] {value : α} {option : Option α}
    (member : value ∈ option.toList) : sizeOf value < sizeOf option := by
  cases option with
  | none => simp at member
  | some held =>
    simp only [Option.toList_some, List.mem_singleton] at member
    subst member
    simp

theorem sizeOf_lt_of_mem_flatMap {α β : Type} [SizeOf α] [SizeOf β] {f : α → List β}
    (smaller : ∀ a b, b ∈ f a → sizeOf b < sizeOf a) {value : β} {items : List α}
    (member : value ∈ items.flatMap f) : sizeOf value < sizeOf items := by
  obtain ⟨item, inside, below⟩ := List.mem_flatMap.mp member
  have first := smaller item value below
  have second := List.sizeOf_lt_of_mem inside
  omega

theorem sizeOf_lt_of_mem_map {α β : Type} [SizeOf α] [SizeOf β] {f : α → β}
    (smaller : ∀ a, sizeOf (f a) < sizeOf a) {value : β} {items : List α}
    (member : value ∈ items.map f) : sizeOf value < sizeOf items := by
  obtain ⟨item, inside, rfl⟩ := List.mem_map.mp member
  have first := smaller item
  have second := List.sizeOf_lt_of_mem inside
  omega

theorem DictItem.sizeOf_lt_of_mem {ε : Type} [SizeOf ε] (item : DictItem ε) (value : ε)
    (member : value ∈ item.values) : sizeOf value < sizeOf item := by
  cases item with
  | entry key held =>
    simp only [values, List.mem_cons, List.not_mem_nil, or_false] at member
    rcases member with same | same <;> subst same <;> simp <;> omega
  | mapping held =>
    simp only [values, List.mem_singleton] at member
    subst member
    simp

theorem Argument.sizeOf_value_lt {ε : Type} [SizeOf ε] (argument : Argument ε) :
    sizeOf argument.value < sizeOf argument := by
  cases argument with
  | positional held => simp [value]
  | keyword name held =>
    simp only [value, keyword.sizeOf_spec]
    omega
  | mapping held => simp [value]

theorem FormatPart.sizeOf_lt_of_mem {ε : Type} [SizeOf ε] (part : FormatPart ε) (value : ε)
    (member : value ∈ part.values) : sizeOf value < sizeOf part := by
  cases part with
  | fixed text => simp [values] at member
  | field held conversion format =>
    simp only [values, List.mem_cons] at member
    rcases member with same | below
    next =>
      subst same
      simp
      omega
    next =>
      have bound := sizeOf_lt_of_mem_toList below
      simp
      omega

theorem Clause.sizeOf_lt_of_mem {ε : Type} [SizeOf ε] (clause : Clause ε) (value : ε)
    (member : value ∈ clause.parts) : sizeOf value < sizeOf clause := by
  cases clause with
  | mk target iterable conditions async =>
    simp only [parts, List.mem_cons] at member
    rcases member with same | same | below
    next =>
      subst same
      simp
      omega
    next =>
      subst same
      simp
      omega
    next =>
      have bound := List.sizeOf_lt_of_mem below
      simp
      omega

theorem Parameters.sizeOf_lt_of_mem_defaults {ε : Type} [SizeOf ε] (parameters : Parameters ε)
    (value : ε) (member : value ∈ parameters.defaults) :
    sizeOf value < sizeOf parameters := by
  obtain ⟨parameter, inside, held⟩ := List.mem_filterMap.mp member
  have first : sizeOf value < sizeOf parameter := by
    cases parameter with
    | mk name typing default =>
      simp only at held
      subst held
      simp
      omega
  cases parameters with
  | mk positionalOnly regular rest keywordOnly keywords =>
    simp only [all, List.mem_append] at inside
    rcases inside with (((inside | inside) | inside) | inside) | inside
    next =>
      have second := List.sizeOf_lt_of_mem inside
      simp
      omega
    next =>
      have second := List.sizeOf_lt_of_mem inside
      simp
      omega
    next =>
      have second := sizeOf_lt_of_mem_toList inside
      simp
      omega
    next =>
      have second := List.sizeOf_lt_of_mem inside
      simp
      omega
    next =>
      have second := sizeOf_lt_of_mem_toList inside
      simp
      omega

theorem Expr.sizeOf_lt_of_mem_children {child expr : Expr} (member : child ∈ expr.children) :
    sizeOf child < sizeOf expr := by
  cases expr with
  | constant => simp [children] at member
  | name => simp [children] at member
  | tuple items =>
    have bound := List.sizeOf_lt_of_mem (show child ∈ items from member)
    simp
    omega
  | list items =>
    have bound := List.sizeOf_lt_of_mem (show child ∈ items from member)
    simp
    omega
  | set items =>
    have bound := List.sizeOf_lt_of_mem (show child ∈ items from member)
    simp
    omega
  | dict items =>
    have bound := sizeOf_lt_of_mem_flatMap DictItem.sizeOf_lt_of_mem member
    simp
    omega
  | unary op operand =>
    simp only [children, List.mem_singleton] at member
    subst member
    simp only [unary.sizeOf_spec]
    omega
  | binary op left right =>
    simp only [children, List.mem_cons, List.not_mem_nil, or_false] at member
    rcases member with same | same <;> subst same <;> simp <;> omega
  | logical op operands =>
    have bound := List.sizeOf_lt_of_mem (show child ∈ operands from member)
    simp
    omega
  | compare first rest =>
    simp only [children, List.mem_cons] at member
    rcases member with same | below
    next =>
      subst same
      simp
      omega
    next =>
      have bound := sizeOf_lt_of_mem_map
        (fun pair : Comparison × Expr => by cases pair; simp only [Prod.mk.sizeOf_spec]; omega) below
      simp
      omega
  | conditional test body alternative =>
    simp only [children, List.mem_cons, List.not_mem_nil, or_false] at member
    rcases member with same | same | same <;> subst same <;> simp <;> omega
  | lambda parameters body =>
    simp only [children, List.mem_append, List.mem_singleton] at member
    rcases member with below | same
    next =>
      have bound := Parameters.sizeOf_lt_of_mem_defaults parameters child below
      simp
      omega
    next =>
      subst same
      simp only [lambda.sizeOf_spec]
      omega
  | call function arguments =>
    simp only [children, List.mem_cons] at member
    rcases member with same | below
    next =>
      subst same
      simp
      omega
    next =>
      have bound := sizeOf_lt_of_mem_map Argument.sizeOf_value_lt below
      simp
      omega
  | attributeOf object name =>
    simp only [children, List.mem_singleton] at member
    subst member
    simp
    omega
  | subscript object index =>
    simp only [children, List.mem_cons, List.not_mem_nil, or_false] at member
    rcases member with same | same <;> subst same <;> simp <;> omega
  | slice lower upper step =>
    simp only [children, List.mem_append] at member
    rcases member with (below | below) | below <;>
      have bound := sizeOf_lt_of_mem_toList below <;> simp <;> omega
  | starred value =>
    simp only [children, List.mem_singleton] at member
    subst member
    simp
  | named target value =>
    simp only [children, List.mem_singleton] at member
    subst member
    simp only [named.sizeOf_spec]
    omega
  | await value =>
    simp only [children, List.mem_singleton] at member
    subst member
    simp
  | yield value =>
    have bound := sizeOf_lt_of_mem_toList (show child ∈ value.toList from member)
    simp
    omega
  | yieldFrom value =>
    simp only [children, List.mem_singleton] at member
    subst member
    simp
  | comprehension kind element value clauses =>
    simp only [children, List.cons_append, List.mem_cons, List.mem_append] at member
    rcases member with same | below | below
    next =>
      subst same
      simp
      omega
    next =>
      have bound := sizeOf_lt_of_mem_toList below
      simp
      omega
    next =>
      have bound := sizeOf_lt_of_mem_flatMap Clause.sizeOf_lt_of_mem below
      simp
      omega
  | formatted parts =>
    have bound := sizeOf_lt_of_mem_flatMap FormatPart.sizeOf_lt_of_mem member
    simp
    omega

end Sizes

end Stencil.Script

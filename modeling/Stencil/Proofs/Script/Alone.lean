import Stencil.Proofs.Script.Kinds
import Stencil.Proofs.Script.Outline

/-!
Programs of a single expression. No other statement is one, so that the words of the program are
read as an expression, or begin with the word that yields.
-/

set_option autoImplicit false

namespace Stencil.Script

open Reader

namespace Grammar

/-! ### Statements that are no expressions -/

/-- Whether a reader never gives a statement that is just an expression. -/
def Spares (reader : Reader Stmt) : Prop :=
  Yields (fun statement => ∀ value, statement ≠ .expression value) reader

theorem Spares.absurd {reader : Reader Stmt} {tokens rest : List Token} {value : Expr} {p : Prop}
    (spares : Spares reader) (read : reader tokens = some (.expression value, rest)) : p :=
  False.elim (spares read value rfl)

section Spares

variable {nested : Nested} {statements : Reader (List Stmt)}

theorem spares_ifStatement : Spares (ifStatement nested statements) :=
  yields_then fun _ => yields_then fun (_, _) => yields_then fun _ => yields_then fun _ =>
    yields_pure nofun

theorem spares_whileStatement : Spares (whileStatement nested statements) :=
  yields_then fun _ => yields_then fun (_, _) => yields_then fun _ => yields_pure nofun

theorem spares_forStatement (async : Bool) : Spares (forStatement nested statements async) :=
  yields_then fun _ => yields_then fun _ => yields_then fun _ => yields_then fun _ =>
    yields_then fun _ => yields_then fun _ => yields_pure nofun

theorem spares_withStatement (async : Bool) : Spares (withStatement nested statements async) :=
  yields_then fun _ => yields_then fun _ => yields_then fun _ => yields_pure nofun

theorem spares_tryStatement : Spares (tryStatement nested statements) :=
  yields_then fun _ => yields_then fun _ => yields_then fun _ => yields_ite
    (yields_then fun _ => yields_pure nofun)
    (yields_then fun _ => yields_then fun _ => yields_then fun _ => yields_then fun _ =>
      yields_pure nofun)

theorem spares_definition (decorators : List Expr) :
    Spares (definition nested statements decorators) := by
  have function (async : Bool) : Spares (functionDefinition nested statements decorators async) :=
    yields_then fun _ => yields_then fun _ => yields_then fun _ => yields_then fun _ =>
      yields_then fun _ => yields_then fun _ => yields_pure nofun
  have type : Spares (classDefinition nested statements decorators) :=
    yields_then fun _ => yields_then fun _ => yields_then fun _ => yields_ite
      (yields_then fun _ => yields_then fun _ => yields_pure nofun)
      (yields_then fun _ => yields_then fun _ => yields_pure nofun)
  exact yields_then fun _ => yields_ite (function true) <|
    yields_then fun _ => yields_ite type (function false)

theorem spares_decorated : Spares (decorated nested statements) :=
  yields_then fun decorators => spares_definition decorators

theorem spares_asyncStatement : Spares (asyncStatement nested statements) := by
  refine yields_then fun second => ?_
  split
  next => exact yields_then fun _ => spares_withStatement true
  next => exact yields_then fun _ => spares_forStatement true
  next => exact spares_definition []

theorem spares_matchStatement (depth : Nat) : Spares (matchStatement nested statements depth) :=
  yields_then fun _ => yields_then fun _ => yields_then fun _ => yields_pure nofun

theorem spares_deletion : Spares (deletion nested) := by
  refine yields_then fun _ => yields_then fun (_, _) => yields_then fun next => ?_
  split
  next => exact yields_pure (by simp)
  next => exact yields_pure (by simp)
  next => exact yields_failure

theorem spares_importFrom : Spares importFrom :=
  yields_then fun _ => yields_then fun _ => yields_ite
    (yields_then fun _ => yields_then fun _ => yields_then fun _ => yields_then fun _ => yields_pure nofun)
    (yields_then fun _ => yields_then fun _ => yields_then fun _ => yields_pure nofun)

end Spares

/-! ### Statements that are expressions -/

variable {nested : Nested} {statements : Reader (List Stmt)} {tokens rest : List Token} {value : Expr}

theorem expressionStatement_alone
    (read : expressionStatement nested tokens = some (.expression value, rest)) :
    starExpressions nested tokens = some (value, rest) := by
  simp only [expressionStatement, bind_apply, peek, peekSecond, Option.bind_some] at read
  obtain ⟨⟨first, middle⟩, stars, later⟩ := Option.bind_eq_some_iff.mp read
  clear read
  dsimp only at later
  generalize middle.head? = next at later
  split at later
  next =>
    exact Spares.absurd (yields_then fun _ => yields_then fun _ => yields_then fun _ =>
      yields_then fun _ => yields_ite (yields_then fun _ => yields_then fun _ => yields_pure (by simp))
        (yields_then fun _ => yields_pure (by simp))) later
  next => exact Spares.absurd (yields_then fun _ => yields_pure (by simp)) later
  next =>
    cases op : next.bind augmentedOp? with
    | some op =>
      simp only [op] at later
      exact Spares.absurd (yields_then fun _ => yields_then fun _ => yields_then fun _ =>
        yields_pure (by simp)) later
    | none =>
      simp only [op] at later
      cases later
      exact stars

theorem simpleStatement_alone
    (read : simpleStatement nested tokens = some (.expression value, rest)) :
    tokens.head? = some (.keyword .yieldWord) ∨
      starExpressions nested tokens = some (value, rest) := by
  have word {p : Prop} {statement : Stmt}
      (read : (do skip 1; return statement : Reader Stmt) tokens = some (.expression value, rest))
      (apart : ∀ value, statement ≠ .expression value) : p :=
    Spares.absurd (yields_then fun _ => yields_pure apart) read
  have single {α : Type} {reader : Reader α} {statement : α → Stmt} {p : Prop}
      (read : (do skip 1; return statement (← reader) : Reader Stmt) tokens =
        some (.expression value, rest))
      (apart : ∀ found value, statement found ≠ .expression value) : p :=
    Spares.absurd (yields_then fun _ => yields_then fun found => yields_pure (apart found)) read
  simp only [simpleStatement, bind_apply, peek, Option.bind_some] at read
  generalize first : tokens.head? = next at read
  split at read
  next => exact word read (by simp)
  next => exact word read (by simp)
  next => exact word read (by simp)
  next => exact single read (by simp)
  next =>
    refine Spares.absurd (yields_then fun _ => yields_then fun error => ?_) read
    split
    next => exact yields_pure (by simp)
    next => exact yields_then fun _ => yields_then fun _ => yields_pure (by simp)
  next => exact single read (by simp)
  next => exact single read (by simp)
  next => exact spares_deletion.absurd read
  next => exact .inl rfl
  next =>
    exact Spares.absurd (yields_then fun _ => yields_then fun _ => yields_then fun _ =>
      yields_then fun _ => yields_pure fun _ => by simp) read
  next => exact single read (by simp)
  next => exact spares_importFrom.absurd read
  next => exact .inr (expressionStatement_alone read)

/-- A line of a single statement may end with a semicolon. -/
theorem simpleStatements_alone (read : simpleStatements nested tokens = some ([.expression value], rest)) :
    ∃ left, simpleStatement nested tokens = some (.expression value, left) ∧
      (left = .newline :: rest ∨ left = .symbol .semicolon :: .newline :: rest) := by
  obtain ⟨⟨found, left⟩, separated, read⟩ := Option.bind_eq_some_iff.mp read
  obtain ⟨⟨closed, after⟩, semicolon, read⟩ := Option.bind_eq_some_iff.mp read
  obtain ⟨⟨⟨⟩, behind⟩, ended, read⟩ := Option.bind_eq_some_iff.mp read
  cases read
  have feed : after = .newline :: rest := token_taken ended
  refine ⟨left, item_of_separated separated, ?_⟩
  rcases accept_cases semicolon with ⟨-, same⟩ | ⟨-, same, -⟩
  · exact .inr (feed ▸ same)
  · exact .inl (feed ▸ same)

/-- A statement is one that is no expression, or it is one of the simple ones of a line. -/
theorem statement_cases {depth : Nat} {found : List Stmt}
    (read : statement nested statements depth tokens = some (found, rest)) :
    (∃ one, found = [one] ∧ ∀ value, one ≠ .expression value) ∨
      simpleStatements nested tokens = some (found, rest) := by
  have compound {reader : Reader Stmt} {p : Prop} (spares : Spares reader)
      (read : (do return [← reader] : Reader (List Stmt)) tokens = some (found, rest)) :
      (∃ one, found = [one] ∧ ∀ value, one ≠ .expression value) ∨ p := by
    obtain ⟨⟨one, left⟩, known, same⟩ := Option.bind_eq_some_iff.mp read
    cases same
    exact .inl ⟨one, rfl, spares known⟩
  simp only [statement, bind_apply, peek, Option.bind_some] at read
  generalize tokens.head? = next at read
  split at read
  next => exact compound spares_ifStatement read
  next => exact compound spares_whileStatement read
  next => exact compound (spares_forStatement false) read
  next => exact compound (spares_withStatement false) read
  next => exact compound spares_tryStatement read
  next => exact compound (spares_definition []) read
  next => exact compound (spares_definition []) read
  next => exact compound spares_asyncStatement read
  next => exact compound spares_decorated read
  next id =>
    split at read
    next =>
      -- what begins like a match statement is one, or it is simple
      change ((do return [← matchStatement nested statements depth] : Reader (List Stmt)) tokens <|>
        simpleStatements nested tokens) = some (found, rest) at read
      generalize chosen : (do return [← matchStatement nested statements depth] : Reader (List Stmt))
        tokens = result at read
      cases result with
      | none => exact .inr read
      | some pair =>
        cases read
        exact compound (spares_matchStatement depth) chosen
    next => exact .inr read
  next => exact .inr read

theorem statement_ne_nil {depth : Nat} : statement nested statements depth tokens ≠ some ([], rest) := by
  intro read
  rcases statement_cases read with ⟨one, same, -⟩ | simple
  · cases same
  · obtain ⟨⟨found, left⟩, separated, read⟩ := Option.bind_eq_some_iff.mp simple
    obtain ⟨⟨closed, after⟩, -, read⟩ := Option.bind_eq_some_iff.mp read
    obtain ⟨⟨⟨⟩, behind⟩, -, read⟩ := Option.bind_eq_some_iff.mp read
    cases read
    obtain ⟨⟨first, middle⟩, -, separated⟩ := Option.bind_eq_some_iff.mp separated
    obtain ⟨⟨others, later⟩, -, separated⟩ := Option.bind_eq_some_iff.mp separated
    cases separated

/-- A program of one expression is read as the expression, or yields. -/
theorem statements_alone {depth : Nat}
    (read : statementsUpTo nested depth tokens = some ([.expression value], [])) :
    tokens.head? = some (.keyword .yieldWord) ∨ ∃ left,
      starExpressions nested tokens = some (value, left) ∧
        (left = [.newline] ∨ left = [.symbol .semicolon, .newline]) := by
  cases depth with
  | zero => cases read
  | succ depth =>
    obtain ⟨⟨found, last⟩, several, read⟩ := Option.bind_eq_some_iff.mp read
    obtain ⟨whole, rfl⟩ := Prod.mk.inj (Option.some.inj read)
    obtain ⟨⟨first, middle⟩, one, several⟩ := Option.bind_eq_some_iff.mp several
    obtain ⟨⟨others, later⟩, more, several⟩ := Option.bind_eq_some_iff.mp several
    cases several
    have single : others = [] ∧ [] = middle := by
      rcases many_cases more with ended | ⟨next, others, after, rfl, second⟩
      · exact ended
      · match first, next with
        | [], _ => exact absurd one statement_ne_nil
        | _, [] => exact absurd second statement_ne_nil
        | _ :: _, _ :: _ => simp at whole
    obtain ⟨rfl, rfl⟩ := single
    obtain rfl : first = [.expression value] := by simpa using whole
    rcases statement_cases one with ⟨other, same, apart⟩ | simple
    · exact absurd (List.cons.inj same).1.symm (apart value)
    · obtain ⟨left, alone, ended⟩ := simpleStatements_alone simple
      rcases simpleStatement_alone alone with yields | stars
      · exact .inl yields
      · exact .inr ⟨left, stars, ended⟩

end Grammar

end Stencil.Script

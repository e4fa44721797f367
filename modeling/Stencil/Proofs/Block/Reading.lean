import Stencil.Proofs.Block.Numeral
import Stencil.Proofs.Locality.Enclosed
import Stencil.Proofs.Module.Checking
import Stencil.Proofs.Static.Entries

/-!
The code that a template with lines below a line of code has: a loop over a range, a function of
what is below, and the line that calls an expression with it.
-/

set_option autoImplicit false

namespace Stencil.Script.Block

open Script.Lexer Script.Module Reader Grammar

/-! ### Numerals -/

variable {numeral : Text} {count : Nat}

theorem words_numeral (isNumeral : IsNumeral numeral count) (indents : List Width) (rest : Text) :
    words ⟨indents, [.closeParen]⟩ (.inLine false) (numeral ++ ')' :: rest) =
      (words ⟨indents, [.closeParen]⟩ (.inLine false) (')' :: rest)).map
        (.number (.integer count) :: ·) := by
  obtain ⟨c, digits, rfl⟩ : ∃ c digits, numeral = c :: digits := by
    refine List.exists_cons_of_ne_nil ?_
    rintro rfl
    have read := isNumeral.read
    cases read
  have first {other : Char} (apart : other.isAlphanum = false ∧ other ≠ '_') : c ≠ other :=
    isNumeral.apart (List.mem_cons_self ..) apart
  have noGap : isGap c = false := by
    simp [isGap, first (show ' '.isAlphanum = false ∧ ' ' ≠ '_' by decide),
      first (show '\t'.isAlphanum = false ∧ '\t' ≠ '_' by decide),
      first (show '\x0c'.isAlphanum = false ∧ '\x0c' ≠ '_' by decide)]
  have room : Room ([] ++ [Symbol.closeParen]) (.number (.integer count)) := fun symbol same => by
    cases same
  have next := next?_append (stops_closeParen rest) (List.cons_ne_nil c digits) isNumeral.read room
  rw [List.cons_append] at next ⊢
  rw [words_inLine (first (by decide)) (first (by decide)) (first (by decide)), noGap]
  simp only [List.nil_append] at next
  simp only [next, Bool.false_eq_true, if_false, Option.bind_eq_bind, Option.bind_some,
    List.length_cons, Nat.add_sub_cancel, List.drop_left']
  exact Option.map_eq_bind.symm

/-! ### Loops -/

def loopCode (numeral : Text) : Text := "for i in range(".toList ++ numeral ++ [')']

def loopHeader (numeral : Text) : Text := loopCode numeral ++ [':']

def loopTokens (count : Nat) : List Token :=
  [.keyword .forWord, .name ['i'], .keyword .inWord, .name "range".toList, .symbol .openParen,
    .number (.integer count), .symbol .closeParen, .symbol .colon]

def rangeOf (count : Nat) : Expr :=
  .call (.name "range".toList) [.positional (.constant (.integer count))]

def loop (count : Nat) (body : List Stmt) : Stmt :=
  .forLoop (.name ['i']) (rangeOf count) body [] false

theorem clean_loopCode (isNumeral : IsNumeral numeral count) : Text.Clean (loopCode numeral) :=
  Text.clean_append (Text.clean_append (by decide) isNumeral.clean) (by decide)

theorem spoken_loop (isNumeral : IsNumeral numeral count) :
    Spoken (loopHeader numeral) (loopTokens count) := by
  constructor
  case clean => exact Text.clean_append (clean_loopCode isNumeral) (by decide)
  case solid => rfl
  case fresh => exact fresh_cons.mpr rfl
  case words =>
    intro indents rest
    have opening : "for i in range(".toList =
        "for ".toList ++ ("i ".toList ++ ("in ".toList ++ "range(".toList)) := by decide
    have shape : loopHeader numeral ++ '\n' :: rest = "for ".toList ++ ("i ".toList ++
        ("in ".toList ++ ("range(".toList ++ (numeral ++ ')' :: ':' :: '\n' :: rest)))) := by
      refine (congrArg (fun opened => opened ++ numeral ++ [')'] ++ [':'] ++ '\n' :: rest) opening).trans ?_
      simp only [List.append_assoc]
      rfl
    have heading (after : Text) : words ⟨indents, []⟩ (.inLine false) ("for ".toList ++ after) =
        (words ⟨indents, []⟩ (.inLine false) after).map ([.keyword .forWord] ++ ·) :=
      words_steps 2 rfl
    have target (after : Text) : words ⟨indents, []⟩ (.inLine false) ("i ".toList ++ after) =
        (words ⟨indents, []⟩ (.inLine false) after).map ([.name ['i']] ++ ·) := words_steps 2 rfl
    have inside (after : Text) : words ⟨indents, []⟩ (.inLine false) ("in ".toList ++ after) =
        (words ⟨indents, []⟩ (.inLine false) after).map ([.keyword .inWord] ++ ·) :=
      words_steps 2 rfl
    have called (after : Text) : words ⟨indents, []⟩ (.inLine false) ("range(".toList ++ after) =
        (words ⟨indents, [.closeParen]⟩ (.inLine false) after).map
          ([.name "range".toList, .symbol .openParen] ++ ·) := words_steps 2 rfl
    have closed :
        words ⟨indents, [.closeParen]⟩ (.inLine false) (')' :: ':' :: '\n' :: rest) =
          (words ⟨indents, []⟩ .lineStart rest).map
            ([.symbol .closeParen, .symbol .colon, .newline] ++ ·) := words_steps 3 rfl
    rw [shape, heading, target, inside, called, words_numeral isNumeral, closed]
    simp [loopTokens, Function.comp_def]

theorem readsHeader_loop (reach count : Nat) :
    ReadsHeader (reach + 3) (loopTokens count) (loop count) := by
  intro statements bound body inside rest read fresh
  have target (tail : List Token) : starTargets (Nested.upTo (reach + 3))
      (.name ['i'] :: .keyword .inWord :: tail) = some (.name ['i'], .keyword .inWord :: tail) := rfl
  have iterable (tail : List Token) : starExpressions (Nested.upTo (reach + 3))
      (.name "range".toList :: .symbol .openParen :: .number (.integer count) ::
        .symbol .closeParen :: .symbol .colon :: tail) =
      some (rangeOf count, .symbol .colon :: tail) := by cbv
  have block : colonBlock (Nested.upTo (reach + 3)) statements
      (.symbol .colon :: .newline :: .indent :: body) = some (inside, rest) :=
    colonBlock_indented read
  have last : elseBlock (Nested.upTo (reach + 3)) statements rest = some ([], rest) := by
    have other : rest.head? ≠ some (.keyword .elseWord) := fun same => by
      cases fresh _ same
    simp only [elseBlock, acceptKeyword, bind_apply, accept_other other, Option.bind_some,
      Bool.false_eq_true, if_false, pure_apply]
  simp only [loopTokens, List.cons_append, List.nil_append, Grammar.statement, bind_apply, peek,
    List.head?_cons, Option.bind_some, forStatement, keyword, token, if_true, target, iterable,
    block, last, pure_apply]
  rfl

/-! ### Headers by themselves -/

theorem statementTokens_header {header : Text} {tokens : List Token} (spoken : Spoken header tokens) :
    statementTokens (header ++ "\n    pass".toList) =
      some (tokens ++ Token.newline :: [.indent, .keyword .passWord, .newline, .dedent]) := by
  have closed : closeLine (unifyBreaks (header ++ "\n    pass".toList)) =
      header ++ '\n' :: "    pass\n".toList := by
    have unified : unifyBreaks (header ++ "\n    pass".toList) = header ++ "\n    pass".toList := by
      refine unifyBreaks_eq (List.forall_mem_append.mpr ⟨fun c member => ?_, fun c member => ?_⟩)
      · exact (spoken.clean c member).2.1
      · rintro rfl
        exact absurd member (by decide)
    have last : (header ++ "\n    pass".toList).getLast? = some 's' := by
      rw [List.getLast?_append]
      rfl
    rw [unified, closeLine, last, if_neg (by decide), List.append_assoc]
    rfl
  have body : words ⟨[], []⟩ .lineStart "    pass\n".toList =
      some [.indent, .keyword .passWord, .newline, .dedent] := by decide +kernel
  have margin := words_margin (spoken.solid.append ('\n' :: "    pass\n".toList)) (Nat.le_refl 0)
  rw [statementTokens, closed, scanAll_eq]
  refine margin.trans ?_
  rw [widths, spoken.words, body]
  rfl

theorem parseModule_header {header : Text} {tokens : List Token} {make : List Stmt → Stmt}
    (spoken : Spoken header tokens) (read : ∀ reach, ReadsHeader (reach + 3) tokens make) :
    parseModule (header ++ "\n    pass".toList) = some [make [.pass]] := by
  have words := statementTokens_header spoken
  have bound : 9 ≤ (header ++ "\n    pass".toList).length := by
    rw [List.length_append]
    exact Nat.le_add_left 9 _
  generalize header ++ "\n    pass".toList = source at words bound ⊢
  obtain ⟨depth, size⟩ : ∃ depth, source.length + 1 = depth + 3 := ⟨source.length - 2, by omega⟩
  have body : statementsUpTo (Nested.upTo (depth + 3)) (depth + 2)
      [.keyword .passWord, .newline, .dedent] = some ([.pass], [.dedent]) := by
    have pass := many1_of_reads (statement_pass (Nested.upTo (depth + 3))
      (statementsUpTo (Nested.upTo (depth + 3)) (depth + 1)) (depth + 2) [.dedent])
      (.stop (statement_dedent (Nat.succ_pos _) _ _ _))
    rw [statementsUpTo, bind_apply, pass]
    rfl
  have single := many1_of_reads (read depth (statementsUpTo (Nested.upTo (depth + 3)) (depth + 2))
    (depth + 3) _ _ [] body (by simp [Fresh])) (.stop (statement_nil (Nat.succ_pos _) _ _))
  have whole : statementsUpTo (Nested.upTo (depth + 3)) (depth + 3)
      (tokens ++ Token.newline :: [.indent, .keyword .passWord, .newline, .dedent]) =
        some ([make [.pass]], []) := by
    rw [statementsUpTo, bind_apply, single]
    rfl
  simp [parseModule, words, size, whole, guard]

/-- The names that a header binds, given what it makes of its body. -/
theorem assignedNames_header {header : Text} {tokens : List Token} {make : List Stmt → Stmt}
    (spoken : Spoken header tokens) (read : ∀ reach, ReadsHeader (reach + 3) tokens make)
    (ends : (Text.trimRight header).getLast? = some ':')
    (flat : (make [.pass]).levels ≤ maximalLevels) :
    assignedNames header = .ok (Text.sortUnique (make [.pass]).assigned) := by
  have noNul : (header ++ "\n    pass".toList).contains '\x00' = false := by
    rw [← Bool.not_eq_true, List.contains_iff_mem, List.mem_append, not_or]
    exact ⟨fun nul => (spoken.clean _ nul).2.2 rfl, by decide⟩
  simp only [assignedNames, completed, ends, if_true, readModule, noNul, Bool.false_eq_true,
    if_false, parseModule_header spoken read]
  simp [flat]

theorem trimRight_concat {text : Text} {c : Char} (visible : Text.isBlank c = false) :
    Text.trimRight (text ++ [c]) = text ++ [c] := by
  simp [Text.trimRight, Text.dropRightWhile, visible]

theorem levels_expr (expr : Expr) :
    expr.levels = if expr.opensScope then 1 else 1 + (expr.children.map Expr.levels).foldl max 0 := by
  rw [Expr.levels, List.attach_map_val]

theorem levels_stmt (statement : Stmt) :
    statement.levels = 1 + ((statement.targets ++ statement.values).map Expr.levels ++
      statement.blocks.map Stmt.levels).foldl max 0 := by
  rw [Stmt.levels, List.attach_map_val]

theorem levels_loop (count : Nat) : (loop count [.pass]).levels ≤ maximalLevels := by
  have name (id : Text) : (Expr.name id).levels = 1 := by
    rw [levels_expr]
    rfl
  have number : (Expr.constant (.integer count)).levels = 1 := by
    rw [levels_expr]
    rfl
  have range : (rangeOf count).levels = 2 := by
    rw [levels_expr]
    simp [rangeOf, Expr.opensScope, Expr.children, Argument.value, name, number]
  have pass : Stmt.pass.levels = 1 := by
    rw [levels_stmt]
    rfl
  rw [levels_stmt]
  simp [loop, Stmt.targets, Stmt.values, Stmt.blocks, Stmt.children, name, range, pass, maximalLevels]

theorem assignedNames_loop (isNumeral : IsNumeral numeral count) :
    ∃ names, assignedNames (loopHeader numeral) = .ok names := by
  refine ⟨_, assignedNames_header (spoken_loop isNumeral) (readsHeader_loop · count) ?_
    (levels_loop count)⟩
  rw [loopHeader, trimRight_concat rfl, List.getLast?_concat]

theorem headerOf_loopCode (numeral : Text) :
    Stencil.Builder.headerOf (loopCode numeral) = loopHeader numeral := by
  have whole : Text.trimRight (loopCode numeral) = loopCode numeral := trimRight_concat rfl
  have last : (loopCode numeral).getLast? = some ')' := List.getLast?_concat
  rw [Stencil.Builder.headerOf, whole, last, if_neg (by decide), loopHeader]

/-! ### Functions -/

def blockName : Text := "_block_0".toList

theorem blockName_eq : Statement.blockName 0 = blockName := by decide

theorem blockHeader_eq : Statement.blockHeader 0 = "def _block_0():".toList := by decide

def blockTokens : List Token :=
  [.keyword .defWord, .name blockName, .symbol .openParen, .symbol .closeParen,
    .symbol .colon]

/-- The function of what is below a line whose code is called with it. -/
def blockFunction (body : List Stmt) : Stmt :=
  .functionDef blockName Parameters.empty none body [] false

theorem spoken_block : Spoken (Statement.blockHeader 0) blockTokens := by
  constructor
  case clean => decide
  case solid => rfl
  case fresh => exact fresh_cons.mpr rfl
  case words =>
    intro indents rest
    have said : words ⟨indents, []⟩ (.inLine false) ("def _block_0():".toList ++ '\n' :: rest) =
        (words ⟨indents, []⟩ .lineStart rest).map ((blockTokens ++ [Token.newline]) ++ ·) :=
      words_steps 7 rfl
    rw [blockHeader_eq, said]
    simp

theorem readsHeader_block (reach : Nat) :
    ReadsHeader (reach + 1) blockTokens blockFunction := by
  intro statements bound body inside rest read _
  exact statement_function [.symbol .openParen, .symbol .closeParen] (fun _ => rfl) read

/-! ### Calls -/

/-- Code in parentheses that is called with the block. -/
def calledCode (code : Text) : Text := '(' :: (code ++ ")(_block_0)".toList)

def givenBlock (callee : Expr) : Expr := .call callee [.positional (.name blockName)]

/-- Code of an expression that may be called in a line of generated code: it has no comment, and
there is room for its brackets. -/
structure IsCallee (code : Text) (callee : Expr) (names : List Text) : Prop where
  readable : '\x00' ∉ code
  read : parseExpression (calledCode code) = some (givenBlock callee)
  room : (expressionTokens ("((".toList ++ (calledCode code ++ "))".toList))).isSome = true
  sits : Sits callee names

variable {code : Text} {callee : Expr} {names : List Text}

theorem tupleOf_call {items : List Expr} {comma : Bool} {function : Expr}
    {given : List (Argument Expr)} (same : tupleOf items comma = .call function given) :
    items = [.call function given] ∧ comma = false := by
  unfold tupleOf at same
  split at same
  next item =>
    cases comma with
    | false => exact ⟨by rw [← same]; rfl, rfl⟩
    | true => cases same
  next => cases same

theorem clean_called (isCallee : IsCallee code callee names)
    (inside : ∀ c ∈ code, Text.isBoundary c = false) : Text.Clean (calledCode code) := by
  have clean : Text.Clean code := by
    refine fun c member => ⟨?_, ?_, fun same => isCallee.readable (same ▸ member)⟩
    · rintro rfl
      cases inside _ member
    · rintro rfl
      cases inside _ member
  exact Text.clean_append (show Text.Clean ['('] by decide) (Text.clean_append clean (by decide))

theorem unifyBreaks_called (isCallee : IsCallee code callee names)
    (inside : ∀ c ∈ code, Text.isBoundary c = false) :
    unifyBreaks (calledCode code) = calledCode code :=
  unifyBreaks_eq fun c member => (clean_called isCallee inside c member).2.1

/-- Called code is an expression of its own. -/
theorem IsCallee.encloses (isCallee : IsCallee code callee names) :
    Encloses (calledCode code) (givenBlock callee) := by
  have closing : '\x00' ∉ ")(_block_0)".toList := by decide
  refine ⟨?_, ?_, isCallee.room⟩
  · rw [calledCode, List.mem_cons, List.mem_append, not_or, not_or]
    exact ⟨by decide, isCallee.readable, closing⟩
  · obtain ⟨tokens, found, read⟩ := Option.bind_eq_some_iff.mp isCallee.read
    obtain ⟨⟨⟨items, comma⟩, left⟩, listed, read⟩ := Option.bind_eq_some_iff.mp read
    obtain ⟨⟨⟩, ended, whole⟩ := Option.bind_eq_some_iff.mp read
    obtain ⟨rfl, rfl⟩ := tupleOf_call (Option.some.inj whole)
    have start : (calledCode code).dropWhile Text.isIndent = calledCode code := rfl
    simp only [readExpression, start, found, item_of_commaList listed, ended, Option.bind_eq_bind,
      Option.bind_some]
    rfl

theorem fits_called (isCallee : IsCallee code callee names)
    (inside : ∀ c ∈ code, Text.isBoundary c = false) :
    ∃ tokens, ∀ reach, (calledCode code).length < reach →
      (textOf (calledCode code) tokens (givenBlock callee)).Fits reach := by
  obtain ⟨tokens, legible⟩ := isCallee.encloses.legible
  refine ⟨tokens, fun reach high => ⟨legible reach high, ?_⟩⟩
  rw [textOf, unifyBreaks_called isCallee inside]
  exact Text.clean_append (by decide)
    (Text.clean_append (clean_called isCallee inside) (by decide))

/-- What a line of called code puts out. -/
def callExpr (depth : Nat) (callee : Expr) : Expr :=
  .binary .add (.constant (.string (Points.ofText (Text.spaces depth))))
    (.call (.name "str".toList) [.positional (givenBlock callee)])

theorem callStatement_eq (unified : unifyBreaks (calledCode code) = calledCode code) (depth : Nat)
    (tokens : List Token) (callee : Expr) :
    Stencil.Builder.callStatement depth code 0 =
      appending (sumCode (Static.Piece.mk false (Text.spaces depth)).addend
        [textOf (calledCode code) tokens (givenBlock callee)]) := by
  have opening : " + str((".toList = " + ".toList ++ ("str(".toList ++ ['(']) := by decide
  have closing : ")(".toList ++ (Statement.blockName 0 ++ "))".toList) =
      ")(_block_0)".toList ++ [')'] := by decide
  have margin : (Static.Piece.mk false (Text.spaces depth)).addend.code =
      literalOf (Text.spaces depth) :=
    congrArg literalOf (Fragment.literalBody_spaces depth)
  have sum : sumCode (Static.Piece.mk false (Text.spaces depth)).addend
      [textOf (calledCode code) tokens (givenBlock callee)] =
      literalOf (Text.spaces depth) ++ (" + ".toList ++ ("str(".toList ++
        (calledCode code ++ [')']))) := by
    simp only [sumCode, margin, textOf, unified, List.flatMap_cons, List.flatMap_nil, List.append_nil]
  have called : calledCode code ++ [')'] =
      ['('] ++ (code ++ (")(".toList ++ (Statement.blockName 0 ++ "))".toList))) := by
    rw [closing]
    simp [calledCode]
  rw [sum, called]
  simp only [Stencil.Builder.callStatement, opening, List.append_assoc]

/-! ### Programs -/

variable {reach : Nat} {spoken : List Token} {found : List Stmt} {statements : List Statement}

theorem reads_loop (isNumeral : IsNumeral numeral count)
    (inside : Reads (reach + 3) 0 statements spoken found) :
    ∃ all, Reads (reach + 3) 1 [.block (loopHeader numeral) statements] all
      [loop count (.pass :: found)] :=
  ⟨_, .block rfl (spoken_loop isNumeral) (readsHeader_loop reach count) inside (.nil 1)⟩

theorem reads_call (isCallee : IsCallee code callee names)
    (unbroken : ∀ c ∈ code, Text.isBoundary c = false) (high : (calledCode code).length < reach)
    (inside : Reads (reach + 3) 0 statements spoken found) (depth : Nat) :
    ∃ all, Reads (reach + 3) 1
      [.function 0 [] statements, .control (Stencil.Builder.callStatement depth code 0)] all
      [blockFunction (.pass :: found), .expression (appendCall (callExpr depth callee))] := by
  obtain ⟨tokens, fits⟩ := fits_called isCallee unbroken
  have margin : '\x00' ∉ Text.spaces depth := by simp [Text.spaces]
  have all : ∀ one ∈ [(Static.Piece.mk false (Text.spaces depth)).addend,
      textOf (calledCode code) tokens (givenBlock callee)], one.Fits (reach + 1) :=
    List.forall_mem_cons.mpr ⟨Static.fits_literal _ margin,
      List.forall_mem_singleton.mpr (fits (reach + 1) (Nat.lt_succ_of_lt high))⟩
  have line : Spoken (Stencil.Line.control (Stencil.Builder.callStatement depth code 0) 0).statementForm
      (appendTokens (sumTokens (Static.Piece.mk false (Text.spaces depth)).addend
        [textOf (calledCode code) tokens (givenBlock callee)])) := by
    rw [Stencil.Line.statementForm,
      callStatement_eq (unifyBreaks_called isCallee unbroken) depth tokens callee]
    exact spoken_appending all
  exact ⟨_, .block rfl spoken_block (readsHeader_block (reach + 2)) inside
    (.line line (readsLine_appending (legible_of_fits all)) (.nil 1))⟩

end Stencil.Script.Block

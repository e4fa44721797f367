import Stencil.Proofs.Script.Literal
import Stencil.Proofs.Script.Outline
import Stencil.Proofs.Script.Words

/-!
The code of a program as a module, and its words.
-/

set_option autoImplicit false

namespace Stencil

namespace Text

theorem join_concat (separator : Text) (parts : List Text) (last : Text) :
    join separator (parts ++ [last]) = (parts.flatMap (· ++ separator)) ++ last := by
  rw [join, List.intercalate]
  induction parts with
  | nil => simp
  | cons part parts ih =>
    cases parts with
    | nil => simp
    | cons next parts =>
      simp only [List.cons_append, List.intersperse_cons_cons, List.flatten_cons,
        List.flatMap_cons, List.append_assoc] at ih ⊢
      rw [ih]

/-- What stands in the quotes of a quoted text. -/
def quotedBody (text : Text) : Text := text.flatMap (quotedChar (quoteFor text))

theorem quoted_eq (text : Text) :
    quoted text = quoteFor text :: quotedBody text ++ [quoteFor text] := rfl

theorem isInside_quotedBody (text : Text) : isInside (quoteFor text) (quotedBody text) = true :=
  isInside_flatMap (isInside_quotedChar (isQuote_quoteFor text)) text

theorem clean_quotedBody (text : Text) : Clean (quotedBody text) :=
  clean_flatMap fun c _ => clean_quotedChar _ (isQuote_quoteFor text) c

theorem clean_quoted (text : Text) : Clean (quoted text) := by
  have quote : Clean [quoteFor text] := by
    rcases isQuote_quoteFor text with same | same <;> rw [same] <;> decide
  rw [quoted_eq]
  exact clean_append (clean_append quote (clean_quotedBody text)) quote

theorem unescape?_quotedBody (text : Text) :
    Script.Escape.unescape? (quotedBody text) = some (Points.ofText text) := by
  refine Script.Escape.unescape?_of_spells (Script.Escape.spells_quoted _ ?_ text)
  rcases isQuote_quoteFor text with same | same <;> rw [same] <;> rfl

end Text

/-- The opening with the characters of its long lines in place of literals, which are decoded wherever
they are looked at. -/
theorem Program.opening_of_chars (contextType : Text) {imported returned header named : Text}
    (first : "from html import escape as _html_escape".toList = imported)
    (second : "return _html_escape(text, quote=False)".toList = returned)
    (third : "def render(bindings):".toList = header)
    (fourth : " = bindings['context']".toList = named) :
    opening contextType =
      [⟨0, imported⟩, ⟨0, "def ".toList ++ escapeName ++ "(text):".toList⟩, ⟨1, returned⟩,
        ⟨0, header⟩, ⟨1, outputName ++ " = []".toList⟩,
        ⟨1, "self: ".toList ++ Text.quoted contextType ++ named⟩] := by
  rw [opening, first, second, third, fourth]

namespace Script.Module

open Lexer

variable {program : Program} {reach height : Nat} {spoken : List Token} {found : List Stmt}

/-! ### Characters -/

theorem readable_line (reads : Reads reach height program.body spoken found) {line : CodeLine}
    (member : line ∈ program.codeLines) : Text.Clean line.text ∧ Solid line.content := by
  have typed : Text.Clean ("self: ".toList ++ Text.quoted program.contextType ++
      " = bindings['context']".toList) :=
    Text.clean_append (Text.clean_append (by decide +kernel) (Text.clean_quoted _))
      (by decide +kernel)
  have good : Text.Clean line.content ∧ Solid line.content := by
    simp only [Program.codeLines, Program.opening, List.mem_append, List.mem_cons,
      List.not_mem_nil, or_false] at member
    rcases member with ((rfl | rfl | rfl | rfl | rfl | rfl) | inside) | rfl
    · exact ⟨by decide +kernel, rfl⟩
    · exact ⟨by decide +kernel, rfl⟩
    · exact ⟨by decide +kernel, rfl⟩
    · exact ⟨by decide +kernel, rfl⟩
    · exact ⟨by decide +kernel, rfl⟩
    · exact ⟨typed, rfl⟩
    · exact reads.lines 1 line inside
    · exact ⟨by decide +kernel, rfl⟩
  exact ⟨clean_text good.1, good.2⟩

/-- No line of code that can be read is left out. -/
theorem code_eq (reads : Reads reach height program.body spoken found) :
    program.code = Text.join ['\n'] (program.codeLines.map CodeLine.text) := by
  have all : program.codeLines.filter (fun line => !Text.allBlank line.content) =
      program.codeLines :=
    List.filter_eq_self.mpr fun line member => by
      rw [(readable_line reads member).2.not_allBlank]
      rfl
  rw [Program.code, all]

/-- What every code begins with is longer than blocks can be nested. -/
theorem length_code (reads : Reads reach height program.body spoken found) :
    maximalIndents ≤ program.code.length := by
  have shape : program.code =
      (((Program.opening program.contextType).take 5).flatMap fun line => line.text ++ ['\n']) ++
        ((((Program.opening program.contextType).drop 5 ++
          Statement.codeLinesOf 1 program.body).flatMap fun line => line.text ++ ['\n']) ++
          Program.closing.text) := by
    rw [code_eq reads, Program.codeLines, List.map_append, List.map_singleton, Text.join_concat,
      List.flatMap_map, ← List.append_assoc, ← List.flatMap_append, ← List.append_assoc,
      List.take_append_drop]
  have size : maximalIndents ≤ (((Program.opening program.contextType).take 5).flatMap
      fun line => line.text ++ ['\n']).length := by
    have lines : (Program.opening program.contextType).take 5 = (Program.opening []).take 5 := rfl
    rw [lines]
    decide +kernel
  rw [shape, List.length_append]
  exact Nat.le_trans size (Nat.le_add_right _ _)

theorem mem_code (reads : Reads reach height program.body spoken found) {c : Char}
    (member : c ∈ program.code) : c ≠ '\r' ∧ c ≠ '\x00' := by
  rw [code_eq reads, Program.codeLines, List.map_append, List.map_singleton, Text.join_concat]
    at member
  rcases List.mem_append.mp member with before | last
  · obtain ⟨text, inside, written⟩ := List.mem_flatMap.mp before
    obtain ⟨line, known, rfl⟩ := List.mem_map.mp inside
    rcases List.mem_append.mp written with within | feed
    · exact ((readable_line reads (List.mem_append_left _ known)).1 c within).2
    · rw [List.mem_singleton.mp feed]
      decide
  · have known : Program.closing ∈ program.codeLines :=
      List.mem_append_right _ (List.mem_singleton.mpr rfl)
    exact ((readable_line reads known).1 c last).2

theorem closeLine_code (reads : Reads reach height program.body spoken found) :
    closeLine (unifyBreaks program.code) =
      program.codeLines.flatMap fun line => line.text ++ ['\n'] := by
  have unified : unifyBreaks program.code = program.code :=
    unifyBreaks_eq fun c member => (mem_code reads member).1
  have last : program.code.getLast? = some ')' := by
    rw [code_eq reads, Program.codeLines, List.map_append, List.map_singleton, Text.join_concat,
      List.getLast?_append]
    rfl
  rw [unified, closeLine, last, if_neg (by decide), code_eq reads, Program.codeLines,
    List.map_append, List.map_singleton, Text.join_concat, List.flatMap_append, List.flatMap_map]
  simp

/-! ### Words -/

def typeQuotation (contextType : Text) : Token := plainQuotation (Text.quotedBody contextType)

def importTokens : List Token :=
  [.keyword .fromWord, .name "html".toList, .keyword .importWord, .name "escape".toList,
    .keyword .asWord, .name "_html_escape".toList, .newline]

/-- The words of the function that escapes. -/
def escapeTokens : List Token :=
  [.keyword .defWord, .name escapeName, .symbol .openParen, .name "text".toList,
    .symbol .closeParen, .symbol .colon, .newline, .indent,
    .keyword .returnWord, .name "_html_escape".toList, .symbol .openParen, .name "text".toList,
    .symbol .comma, .name "quote".toList, .symbol .assign, .keyword .falseWord,
    .symbol .closeParen, .newline, .dedent]

/-- The words of the header of the function that renders. -/
def headerTokens : List Token :=
  [.keyword .defWord, .name "render".toList, .symbol .openParen, .name "bindings".toList,
    .symbol .closeParen, .symbol .colon, .newline, .indent]

def outputTokens : List Token :=
  [.name outputName, .symbol .assign, .symbol .openBracket, .symbol .closeBracket, .newline]

/-- The words of the statement that names the context, around its type. -/
def selfTokens : List Token := [.name "self".toList, .symbol .colon]

def contextTokens : List Token :=
  [.symbol .assign, .name "bindings".toList, .symbol .openBracket,
    plainQuotation "context".toList, .symbol .closeBracket, .newline]

def returnTokens : List Token :=
  [.keyword .returnWord, plainQuotation "\\n".toList, .symbol .dot, .name "join".toList,
    .symbol .openParen, .name outputName, .symbol .closeParen, .newline]

def bodyTokens (contextType : Text) (spoken : List Token) : List Token :=
  outputTokens ++ (selfTokens ++ typeQuotation contextType :: contextTokens) ++ spoken ++
    returnTokens

def tokens (contextType : Text) (spoken : List Token) : List Token :=
  importTokens ++ escapeTokens ++ headerTokens ++ bodyTokens contextType spoken ++ [Token.dedent]

theorem words_opening (contextType rest : Text) :
    words ⟨[], []⟩ .lineStart
        (((Program.opening contextType).flatMap fun line => line.text ++ ['\n']) ++ rest) =
      (words ⟨widths 1, []⟩ (.inLine false)
        (Text.quoted contextType ++ (" = bindings['context']\n".toList ++ rest))).map
          (importTokens ++ escapeTokens ++ headerTokens ++ outputTokens ++ selfTokens ++ ·) := by
  have imported (after : Text) :
      words ⟨[], []⟩ .lineStart
          ("from html import escape as _html_escape".toList ++ '\n' :: after) =
        (words ⟨[], []⟩ .lineStart after).map (importTokens ++ ·) := by
    rw [show "from html import escape as _html_escape".toList = _ from String.toList_ofList]
    exact words_steps 13 rfl
  have escape (after : Text) :
      words ⟨[], []⟩ .lineStart ("def ".toList ++ (escapeName ++ ("(text):".toList ++ '\n' ::
          (Text.spaces 4 ++ ("return _html_escape(text, quote=False)".toList ++ '\n' ::
            ("def render(bindings):".toList ++ '\n' :: (Text.spaces 4 ++ after))))))) =
        (words ⟨[], []⟩ (.inLine false) ("def render(bindings):".toList ++ '\n' ::
          (Text.spaces 4 ++ after))).map (escapeTokens ++ ·) := by
    rw [show "return _html_escape(text, quote=False)".toList = _ from String.toList_ofList,
      show "def render(bindings):".toList = _ from String.toList_ofList]
    exact words_steps 23 rfl
  have render (after : Text) :
      words ⟨[], []⟩ (.inLine false) ("def render(bindings):".toList ++ '\n' ::
          (Text.spaces 4 ++ (outputName ++ (" = []".toList ++ '\n' ::
            (Text.spaces 4 ++ ("self: ".toList ++ after)))))) =
        (words ⟨widths 1, []⟩ (.inLine false) after).map
          (headerTokens ++ outputTokens ++ selfTokens ++ ·) := by
    rw [show "def render(bindings):".toList = _ from String.toList_ofList]
    exact words_steps 20 rfl
  have margin : Text.spaces 0 = [] := rfl
  simp only [Program.opening, CodeLine.text, List.flatMap_cons, List.flatMap_nil, List.append_assoc,
    List.cons_append, List.nil_append, Nat.mul_zero, Nat.mul_one, margin, imported, escape, render]
  simp [Function.comp_def]

theorem words_context (rest : Text) :
    words ⟨widths 1, []⟩ (.inLine false) (" = bindings['context']\n".toList ++ rest) =
      (words ⟨widths 1, []⟩ .lineStart rest).map (contextTokens ++ ·) := by
  rw [show " = bindings['context']\n".toList = _ from String.toList_ofList]
  exact words_steps 8 rfl

theorem words_closing :
    words ⟨widths 1, []⟩ .lineStart (Program.closing.text ++ ['\n']) = some (returnTokens ++ [Token.dedent]) := by
  have closed : words ⟨widths 1, []⟩ .lineStart (Program.closing.text ++ ['\n']) =
      (words ⟨[], []⟩ (.inLine false) []).map (returnTokens ++ [Token.dedent] ++ ·) := by
    rw [Program.closing, show "return '\\n'.join(".toList = _ from String.toList_ofList]
    exact words_steps 11 rfl
  rw [closed, words_nil]
  rfl

theorem words_type (contextType : Text) {rest : Text}
    (apart : rest.head? ≠ some (Text.quoteFor contextType)) :
    words ⟨widths 1, []⟩ (.inLine false) (Text.quoted contextType ++ rest) =
      (words ⟨widths 1, []⟩ (.inLine false) rest).map (typeQuotation contextType :: ·) := by
  have known : isQuote (Text.quoteFor contextType) = true := by
    rcases Text.isQuote_quoteFor contextType with same | same <;> rw [same] <;> rfl
  have shape : Text.quoted contextType ++ rest = Text.quoteFor contextType ::
      (Text.quotedBody contextType ++ Text.quoteFor contextType :: rest) := by
    simp [Text.quoted_eq]
  rw [shape]
  rcases words_quotation (widths 1) [] false known (Text.isInside_quotedBody contextType) apart with
    found | ⟨broken, _⟩
  · exact found
  · exact absurd rfl (Text.clean_quotedBody contextType _ broken).1

theorem statementTokens_code (reads : Reads reach height program.body spoken found)
    (room : 1 + height ≤ maximalIndents) :
    statementTokens program.code = some (tokens program.contextType spoken) := by
  have apart (rest : Text) : (" = bindings['context']\n".toList ++ rest).head? ≠
      some (Text.quoteFor program.contextType) := by
    rcases Text.isQuote_quoteFor program.contextType with same | same <;> simp [same]
  have falls : Falls 1 (Program.closing.text ++ ['\n']) := by
    have solid : Solid (Program.closing.content ++ ['\n']) := rfl
    have line := falls_line solid (Nat.le_refl 1)
    rwa [← List.append_assoc] at line
  have shape : (program.codeLines.flatMap fun line => line.text ++ ['\n']) =
      ((Program.opening program.contextType).flatMap fun line => line.text ++ ['\n']) ++
        (Statement.text 1 program.body ++ (Program.closing.text ++ ['\n'])) := by
    simp [Program.codeLines, Statement.text]
  rw [statementTokens, closeLine_code reads, scanAll_eq, shape, words_opening,
    words_type _ (apart _), words_context, reads.words 1 room falls, words_closing]
  simp [tokens, bodyTokens]

end Script.Module

end Stencil

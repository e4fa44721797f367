import Stencil.Text.Basic
import Stencil.Text.Point

/-!
The document types that a template may ask for.
-/

set_option autoImplicit false

namespace Stencil.DocType

/-- The declaration that a template without a name for its type gets. -/
def standard : Text :=
  ("<!DOCTYPE html PUBLIC \"-//W3C//DTD XHTML 1.0 Transitional//EN\" " ++
    "\"http://www.w3.org/TR/xhtml1/DTD/xhtml1-transitional.dtd\">").toList

def named : List (Text × Text) :=
  [ ("Strict".toList,
      ("<!DOCTYPE html PUBLIC \"-//W3C//DTD XHTML 1.0 Strict//EN\" " ++
        "\"http://www.w3.org/TR/xhtml1/DTD/xhtml1-strict.dtd\">").toList),
    ("Frameset".toList,
      ("<!DOCTYPE html PUBLIC \"-//W3C//DTD XHTML 1.0 Frameset//EN\" " ++
        "\"http://www.w3.org/TR/xhtml1/DTD/xhtml1-frameset.dtd\">").toList),
    ("5".toList, "<!DOCTYPE html>".toList),
    ("1.1".toList,
      ("<!DOCTYPE html PUBLIC \"-//W3C//DTD XHTML 1.1//EN\" " ++
        "\"http://www.w3.org/TR/xhtml11/DTD/xhtml11.dtd\">").toList),
    ("Basic".toList,
      ("<!DOCTYPE html PUBLIC \"-//W3C//DTD XHTML Basic 1.1//EN\" " ++
        "\"http://www.w3.org/TR/xhtml-basic/xhtml-basic11.dtd\">").toList),
    ("Mobile".toList,
      ("<!DOCTYPE html PUBLIC \"-//WAPFORUM//DTD XHTML Mobile 1.2//EN\" " ++
        "\"http://www.openmobilealliance.org/tech/DTD/xhtml-mobile12.dtd\">").toList),
    ("RDFa".toList,
      ("<!DOCTYPE html PUBLIC \"-//W3C//DTD XHTML+RDFa 1.0//EN\" " ++
        "\"http://www.w3.org/MarkUp/DTD/xhtml-rdfa-1.dtd\">").toList) ]

/-- The declaration for a name, or for no name. -/
def declaration? : Option Text → Option Text
  | none => some standard
  | some name => (named.find? fun entry => entry.1 == name).map (·.2)

end Stencil.DocType

/-!
Lines of a compiled template. A line of output adds one entry to the rendered text; a control line
is a statement and has no output.
-/

namespace Stencil

inductive OutputKind where
  /-- The inside of a literal whose value is escaped when it is put out. -/
  | escaped
  /-- The inside of a literal whose value is put out as it is. -/
  | safe
  /-- An expression whose value is put out as it is. -/
  | expression
deriving DecidableEq, Repr

structure Output where
  kind : OutputKind
  content : Text
  depth : Int
deriving DecidableEq, Repr

inductive Line where
  | control (content : Text) (depth : Int)
  | output (entry : Output)
deriving DecidableEq, Repr

def outputName : Text := "_output".toList

def escapeName : Text := "_escape".toList

/-- A literal, given its inside. -/
def literalOf (body : Text) : Text := '\'' :: body ++ ['\'']

/-- The statement that puts out the value of an expression. -/
def appending (expression : Text) : Text :=
  outputName ++ ".append(".toList ++ expression ++ [')']

namespace Output

def indentation (output : Output) : Text := Text.spaces output.depth.toNat

/-- The expression whose value is put out. -/
def expression (output : Output) : Text :=
  match output.kind with
  | .escaped => escapeName ++ '(' :: literalOf (output.indentation ++ output.content) ++ [')']
  | .safe => literalOf (output.indentation ++ output.content)
  | .expression =>
    if 0 < output.depth then
      literalOf output.indentation ++ " + ".toList ++ output.content
    else output.content

/-- The same output at the margin. -/
def flush (output : Output) : Output := { output with depth := 0 }

end Output

namespace Line

inductive Fault where
  | noOutput
deriving DecidableEq, Repr

def Fault.message : Fault → Text
  | noOutput => "Control lines do not output anything.".toList

/-- The expression whose value the line puts out. -/
def outputExpression : Line → Except Fault Text
  | control _ _ => .error .noOutput
  | output entry => .ok entry.expression

/-- The statement that stands for the line. -/
def statementForm : Line → Text
  | control content _ => content
  | output entry => appending entry.expression

def depth : Line → Int
  | control _ depth => depth
  | output entry => entry.depth

def resetDepth : Line → Line
  | control content _ => control content 0
  | output entry => output entry.flush

theorem depth_resetDepth (line : Line) : line.resetDepth.depth = 0 := by
  cases line <;> rfl

end Line

end Stencil

/-!
The code that renders a template: a tree of lines and blocks, and its text.
-/

namespace Stencil

inductive Statement where
  | line (line : Line)
  /-- A header and the statements under it. -/
  | block (header : Text) (body : List Statement)
  /-- A numbered function with the names that it shares with what is around it. -/
  | function (number : Nat) (shared : List Text) (body : List Statement)

structure Program where
  contextType : Text
  body : List Statement

/-- One line of code: how deep it stands and what it says. -/
structure CodeLine where
  level : Nat
  content : Text
deriving DecidableEq, Repr

def CodeLine.text (line : CodeLine) : Text := Text.spaces (4 * line.level) ++ line.content

namespace Statement

def control (content : Text) : Statement := line (.control content 0)

def blockName (number : Nat) : Text := "_block_".toList ++ Text.decimal number

def blockHeader (number : Nat) : Text := "def ".toList ++ blockName number ++ "():".toList

/-- The declaration of the names that a function shares, if it shares any. -/
def sharing (level : Nat) (shared : List Text) : List CodeLine :=
  if shared.isEmpty then []
  else [⟨level, "nonlocal ".toList ++ Text.join ", ".toList shared⟩]

mutual

/-- The code lines of a statement. What stands under a header begins with a statement that does
nothing, so that there is one. -/
def codeLines (level : Nat) : Statement → List CodeLine
  | line one => [⟨level, one.statementForm⟩]
  | block header body =>
    ⟨level, header⟩ :: ⟨level + 1, "pass".toList⟩ :: codeLinesOf (level + 1) body
  | function number shared body =>
    ⟨level, blockHeader number⟩ :: ⟨level + 1, "pass".toList⟩ :: sharing (level + 1) shared ++
      codeLinesOf (level + 1) body

def codeLinesOf (level : Nat) : List Statement → List CodeLine
  | [] => []
  | first :: rest => codeLines level first ++ codeLinesOf level rest

end

theorem codeLinesOf_append (level : Nat) (first second : List Statement) :
    codeLinesOf level (first ++ second) = codeLinesOf level first ++ codeLinesOf level second := by
  induction first with
  | nil => rfl
  | cons statement rest ih => rw [List.cons_append, codeLinesOf, codeLinesOf, ih, List.append_assoc]

end Statement

namespace Program

def opening (contextType : Text) : List CodeLine :=
  [ ⟨0, "from html import escape as _html_escape".toList⟩,
    ⟨0, "def ".toList ++ escapeName ++ "(text):".toList⟩,
    ⟨1, "return _html_escape(text, quote=False)".toList⟩,
    ⟨0, "def render(bindings):".toList⟩,
    ⟨1, outputName ++ " = []".toList⟩,
    ⟨1, "self: ".toList ++ Text.quoted contextType ++ " = bindings['context']".toList⟩ ]

def closing : CodeLine :=
  ⟨1, "return '\\n'.join(".toList ++ outputName ++ [')']⟩

def codeLines (program : Program) : List CodeLine :=
  opening program.contextType ++ Statement.codeLinesOf 1 program.body ++ [closing]

/-- The text of a program; lines that say nothing are left out. -/
def code (program : Program) : Text :=
  Text.join ['\n']
    ((program.codeLines.filter fun line => !Text.allBlank line.content).map CodeLine.text)

end Program

end Stencil

import Stencil.Program.Builder
import Stencil.Script.Eval
import Stencil.Workspace

/-!
Compiling templates and rendering them.
-/

set_option autoImplicit false

namespace Stencil

/-- A type of contexts: its name, what its members offer, and the types that it extends. -/
structure ContextType where
  name : Text
  kind : Script.PageKind
  bases : List Text
deriving DecidableEq, Repr

namespace ContextType

/-- The type whose members have the attributes that they are given and nothing else. -/
def namespaceType : ContextType :=
  ⟨"types.SimpleNamespace".toList, .namespace, ["builtins.object".toList]⟩

def accepts (wanted given : ContextType) : Bool :=
  wanted.name == given.name || given.bases.contains wanted.name

theorem accepts_self (type : ContextType) : type.accepts type := by
  simp [accepts]

end ContextType

/-- An object to render, of a type that is known. -/
structure Context where
  type : ContextType
  page : Script.Value

/-- Makes an object with the given attributes. -/
def Context.make (type : ContextType) (attributes : List (Text × Script.Value)) :
    Work Context := do
  let place ← Work.script (Script.Run.allocate (.page ⟨type.kind, attributes⟩))
  return ⟨type, .page place⟩

/-- Where a template's source comes from. -/
inductive Source where
  | text (text : Text)
  | stream (text : Text)
  | file (path : Path)
  /-- A file that is opened by the name that it is given. -/
  | opened (name : Text)
deriving DecidableEq, Repr

/-- The source's text and the name of what it comes from. -/
def Source.read (source : Source) : Work (Text × Text) := do
  match source with
  | text content => return (content, "<string>".toList)
  | stream content => return (content, "<stream>".toList)
  | file path => do
    if ← Work.inspect (FileTree.isFile · path) then
      return (← Work.readText path, path.display)
    else throw (.templateMissing path)
  | opened name => return (← Work.readText (.ofText name), name)

/-- Code that renders contexts of one type, loaded and ready to be called. -/
structure Template where
  name : Text
  contextType : ContextType
  code : Text
  entry : Script.Value

namespace Template

def entryName : Text := "render".toList

/-- Loads code by running it once; it has to define the function that renders. -/
def ofCode (name : Text) (type : ContextType) (code : Text) : Work Template := do
  if name.contains '\x00' then throw (.code .nul)
  let module ← Work.lift ((Script.loadModule code).mapError Fault.code)
  let globals ← Work.script (Script.runModule module)
  match Script.findName? entryName (← Work.script (Script.Run.bindings globals)) with
  | some entry => return ⟨name, type, code, entry⟩
  | none => throw (.value .keyMissing)

/-- Compiles a source. It is named after what it comes from unless it is given a name. -/
def compile (source : Source) (type : ContextType) (givenName : Text) : Work Template := do
  let (text, sourceName) ← source.read
  let name := if givenName.isEmpty then sourceName else givenName
  Work.detail ("Compiling template ".toList ++ name ++ " for ".toList ++ type.name)
  let tokens ← Work.lift ((Lexer.lex text).mapError Fault.source)
  Work.detail ("Lexed ".toList ++ Text.decimal tokens.length ++ " tokens".toList)
  let program ← Work.lift ((Program.ofTokens tokens type.name).mapError Fault.source)
  Work.detail ("Generated template code:\n".toList ++ program.code)
  ofCode name type program.code

/-- What a template makes of a context: a text, unless its code returns something else. -/
def render (template : Template) (context : Context) : Work Script.Value := do
  if !template.contextType.accepts context.type then
    throw (.contextMismatch template.name template.contextType.name context.type.name)
  Work.script do
    let bindings ← Script.Run.allocate (.dict [(.text "context".toList, context.page)])
    Script.callFunction template.entry [.dict bindings]

end Template

/-- Compiles a source for a context's own type and renders the context. -/
def renderSource (source : Source) (context : Context) : Work Script.Value := do
  let template ← Template.compile source context.type []
  template.render context

end Stencil

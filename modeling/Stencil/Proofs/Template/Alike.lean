import Stencil.Proofs.Module.Rendering
import Stencil.Proofs.Text.Endings

/-!
A text compiles alike from wherever it comes. Files are read with line feeds for all endings of
lines, which shows in the offsets of tokens and in nothing else.
-/

set_option autoImplicit false

namespace Stencil

def Fault.unplaced : Fault → Fault
  | source error => source error.unplaced
  | other => other

theorem Fault.message?_eq {one other : Fault} (same : one.unplaced = other.unplaced) :
    one.message? = other.message? := by
  have told (fault : Fault) : fault.unplaced.message? = fault.message? := by
    cases fault with
    | source error => exact error.message?_unplaced
    | _ => rfl
  rw [← told one, same, told other]

/-! ### Work done in two places -/

namespace Work

variable {α β γ δ : Type} {same : α → β → Prop} {last : γ → δ → Prop}

/-- Results with like values, or with faults that say the same of the same line and column. -/
inductive Alike (same : α → β → Prop) :
    EStateM.Result Fault Workspace α → EStateM.Result Fault Workspace β → Prop where
  | ok {value : α} {result : β} {first second : Workspace} (like : same value result)
      (stores : first.store = second.store) : Alike same (.ok value first) (.ok result second)
  | error {one other : Fault} {first second : Workspace} (like : one.unplaced = other.unplaced)
      (told : one.message? = other.message?) (stores : first.store = second.store) :
      Alike same (.error one first) (.error other second)

/-- Work that gives like results where code has made the same values. -/
def Parallel (same : α → β → Prop) (one : Work α) (other : Work β) : Prop :=
  ∀ first second : Workspace, first.store = second.store → Alike same (one first) (other second)

theorem Parallel.bind {one : Work α} {other : Work β} {next : α → Work γ} {after : β → Work δ}
    (here : Parallel same one other)
    (later : ∀ value result, same value result → Parallel last (next value) (after result)) :
    Parallel last (one >>= next) (other >>= after) := by
  intro first second stores
  have met := here first second stores
  rw [Outcome.bind_apply, Outcome.bind_apply]
  generalize one first = result at met ⊢
  generalize other second = outcome at met ⊢
  cases met with
  | ok like stores => exact later _ _ like _ _ stores
  | error like told stores => exact .error like told stores

theorem parallel_pure {value : α} {result : β} (like : same value result) :
    Parallel same (pure value) (pure result) := fun _ _ stores => .ok like stores

theorem parallel_throw {one other : Fault} (like : one.unplaced = other.unplaced) :
    Parallel same (throw one) (throw other) :=
  fun _ _ stores => .error like (Fault.message?_eq like) stores

theorem parallel_detail (message other : Text) :
    Parallel (fun _ _ => True) (detail message) (detail other) := by
  intro first second stores
  obtain ⟨later, done, kept⟩ := detail_apply message first
  obtain ⟨after, ended, stayed⟩ := detail_apply other second
  rw [done, ended]
  exact .ok trivial (by rw [kept, stayed, stores])

theorem parallel_script (run : Script.Run α) : Parallel Eq (script run) (script run) := by
  intro first second stores
  rw [script, script, stores]
  cases run second.store with
  | ok value store => exact .ok rfl rfl
  | error failure store => exact .error rfl rfl rfl

theorem parallel_lift (outcome : Except Fault α) : Parallel Eq (lift outcome) (lift outcome) := by
  cases outcome with
  | error fault => exact parallel_throw rfl
  | ok value => exact parallel_pure rfl

/-- Outcomes that are the same but for the offsets in them. -/
theorem parallel_source {change : α → γ} {one other : Except CompileError α}
    (like : (one.map change).mapError CompileError.unplaced =
      (other.map change).mapError CompileError.unplaced) :
    Parallel (fun value result => change value = change result)
      (lift (one.mapError Fault.source)) (lift (other.mapError Fault.source)) := by
  cases one with
  | error error =>
    cases other with
    | error wrong => exact parallel_throw (congrArg Fault.source (Except.error.inj like))
    | ok => cases like
  | ok value =>
    cases other with
    | error => cases like
    | ok result => exact parallel_pure (Except.ok.inj like)

end Work

/-! ### What a source holds -/

namespace Text

theorem mem_join {separator : Text} {parts : List Text} {c : Char}
    (member : c ∈ join separator parts) : c ∈ separator ∨ ∃ part ∈ parts, c ∈ part := by
  obtain ⟨part, listed, inside⟩ := List.mem_flatten.mp member
  clear member
  induction parts with
  | nil => cases listed
  | cons first rest ih =>
    cases rest with
    | nil => exact .inr ⟨part, listed, inside⟩
    | cons next others =>
      rw [List.intersperse_cons_cons, List.mem_cons, List.mem_cons] at listed
      rcases listed with rfl | rfl | behind
      · exact .inr ⟨part, by simp, inside⟩
      · exact .inl inside
      · rcases ih behind with between | ⟨one, there, within⟩
        · exact .inl between
        · exact .inr ⟨one, List.mem_cons_of_mem _ there, within⟩

theorem mem_splitAt {separator c : Char} {text : Text} (other : c ≠ separator) (member : c ∈ text) :
    ∃ part ∈ splitAt separator text, c ∈ part := by
  induction text with
  | nil => cases member
  | cons d rest ih =>
    rw [splitAt]
    split
    next empty => exact absurd empty (splitAt_ne_nil separator rest)
    next first others cut =>
      rw [cut] at ih
      rcases List.mem_cons.mp member with rfl | later
      · rw [if_neg other]
        exact ⟨c :: first, by simp, by simp⟩
      · obtain ⟨part, listed, inside⟩ := ih later
        split
        next => exact ⟨part, List.mem_cons_of_mem _ listed, inside⟩
        next =>
          rcases List.mem_cons.mp listed with rfl | behind
          · exact ⟨d :: part, by simp, List.mem_cons_of_mem _ inside⟩
          · exact ⟨part, List.mem_cons_of_mem _ behind, inside⟩

end Text

namespace Path

theorem hasNul_of_mem {path : Path} {name : Text} (listed : name ∈ path.names)
    (inside : '\x00' ∈ name) : path.hasNul = true :=
  List.any_eq_true.mpr ⟨name, listed, List.contains_iff_mem.mpr inside⟩

theorem hasNul_of_display {path : Path} (member : '\x00' ∈ path.display) : path.hasNul = true := by
  unfold display at member
  split at member
  next => exact absurd member (by decide)
  next =>
    rcases List.mem_append.mp member with slashes | names
    · exact absurd (List.eq_of_mem_replicate slashes) (by decide)
    · rcases Text.mem_join names with between | ⟨name, listed, inside⟩
      · exact absurd between (by decide)
      · exact hasNul_of_mem listed inside

theorem hasNul_ofText {text : Text} (member : '\x00' ∈ text) : (ofText text).hasNul = true := by
  have other : '\x00' ≠ '/' := by decide
  obtain ⟨name, listed, inside⟩ := Text.mem_splitAt other member
  refine hasNul_of_mem (List.mem_filter.mpr ⟨listed, ?_⟩) inside
  -- a name that is dropped has no character or a dot
  have kept : isDropped name = false := by
    rw [isDropped, Bool.or_eq_false_iff, List.isEmpty_eq_false_iff, beq_eq_false_iff_ne]
    constructor
    · rintro rfl
      cases inside
    · rintro rfl
      exact absurd inside (by decide)
  rw [kept]
  rfl

end Path

namespace FileTree

variable {tree : FileTree} {path : Path} {content : ByteArray}

theorem hasNul_of_read (read : tree.read path = .ok content) : path.hasNul = false := by
  obtain ⟨place, located, _⟩ := Outcome.bind_eq_ok.mp read
  rw [locate] at located
  split at located
  next => cases located
  next clean => simpa using clean

theorem isFile_of_read (read : tree.read path = .ok content) : tree.isFile path = .ok true := by
  obtain ⟨place, located, read⟩ := Outcome.bind_eq_ok.mp read
  split at read
  next _ found =>
    rw [isFile, find?, located]
    simp only [found, Outcome.ok_bind]
    rfl
  next => cases read
  next => cases read

end FileTree

namespace Work

theorem inspect_apply {α : Type} {question : FileTree → Except FileFault α} {answer : α}
    {workspace : Workspace} (asked : question workspace.tree = .ok answer) :
    inspect question workspace = .ok answer workspace := by
  simp only [inspect, Outcome.bind_apply, get, getThe, MonadStateOf.get, EStateM.get, asked]
  rfl

theorem readText_apply {content : Text} {path : Path} {workspace : Workspace}
    (read : workspace.tree.read path = .ok (Text.encode content)) :
    readText path workspace = .ok (Text.unifyEndings content) workspace := by
  rw [readText, Outcome.bind_apply, inspect_apply read]
  simp only [Text.decode?_encode]
  rfl

end Work

namespace Source

/-- The sources that hold a text: the text, a stream of it, and the files that encode it. -/
inductive Holds (workspace : Workspace) (content : Text) : Source → Prop where
  | text : Holds workspace content (.text content)
  | stream : Holds workspace content (.stream content)
  | file {path : Path} (read : workspace.tree.read path = .ok (Text.encode content)) :
      Holds workspace content (.file path)
  | opened {name : Text} (read : workspace.tree.read (.ofText name) = .ok (Text.encode content)) :
      Holds workspace content (.opened name)

/-- The tokens of what a source holds. -/
def tokens (source : Source) : Work (List Token) := do
  let (content, _) ← source.read
  Work.lift ((Lexer.lex content).mapError Fault.source)

variable {content : Text} {source : Source} {workspace : Workspace}

/-- What is read has the tokens of the text, and what it comes from has a name to load code by. -/
theorem Holds.read (holds : source.Holds workspace content) :
    ∃ text name, source.read workspace = .ok (text, name) workspace ∧ '\x00' ∉ name ∧
      (Lexer.lex text).map (List.map Token.unplaced) =
        (Lexer.lex content).map (List.map Token.unplaced) := by
  cases holds with
  | text => exact ⟨content, _, rfl, by decide, rfl⟩
  | stream => exact ⟨content, _, rfl, by decide, rfl⟩
  | @file path read =>
    refine ⟨_, path.display, ?_, fun member => ?_, Lexer.lex_unifyEndings content⟩
    · simp only [Source.read, Outcome.bind_apply]
      rw [Work.inspect_apply (FileTree.isFile_of_read read)]
      simp only [if_true, Outcome.bind_apply]
      rw [Work.readText_apply read]
      rfl
    · have clean := FileTree.hasNul_of_read read
      rw [Path.hasNul_of_display member] at clean
      cases clean
  | @opened name read =>
    refine ⟨_, name, ?_, fun member => ?_, Lexer.lex_unifyEndings content⟩
    · simp only [Source.read, Outcome.bind_apply]
      rw [Work.readText_apply read]
      rfl
    · have clean := FileTree.hasNul_of_read read
      rw [Path.hasNul_ofText member] at clean
      cases clean

end Source

/-! ### Templates -/

namespace Template

open Work

/-- Templates of the same code for the same type, whatever they are named. -/
def Twins (one other : Template) : Prop :=
  one.code = other.code ∧ one.contextType = other.contextType ∧ one.entry = other.entry

theorem ofCode_parallel {name other : Text} (clean : name.contains '\x00' = other.contains '\x00')
    (type : ContextType) (code : Text) :
    Parallel Twins (ofCode name type code) (ofCode other type code) := by
  rw [ofCode, ofCode, clean]
  split
  next => exact parallel_throw rfl
  next =>
    refine (parallel_lift _).bind fun module _ same => ?_
    subst same
    refine (parallel_script _).bind fun globals _ same => ?_
    subst same
    refine (parallel_script _).bind fun bindings _ same => ?_
    subst same
    split
    next => exact parallel_pure ⟨rfl, rfl, rfl⟩
    next => exact parallel_throw rfl

/-- A source compiles to the same code, or fails with the same error in the same place, whether it
is given as a text, as a stream or as a file. -/
theorem compile_alike {content : Text} {workspace : Workspace} {first second : Source}
    (one : first.Holds workspace content) (other : second.Holds workspace content)
    (type : ContextType) (name : Text) :
    Alike (fun tokens others => tokens.map Token.unplaced = others.map Token.unplaced)
        (first.tokens workspace) (second.tokens workspace) ∧
      Alike Twins (compile first type name workspace) (compile second type name workspace) := by
  obtain ⟨text, origin, read, clean, lexed⟩ := one.read
  obtain ⟨others, source, found, plain, cut⟩ := other.read
  have same := congrArg (Except.mapError CompileError.unplaced) (lexed.trans cut.symm)
  constructor
  next =>
    rw [Source.tokens, Source.tokens, Outcome.bind_apply, Outcome.bind_apply, read, found]
    exact parallel_source same workspace workspace rfl
  next =>
    have named : (if name.isEmpty then origin else name).contains '\x00' =
        (if name.isEmpty then source else name).contains '\x00' := by
      split
      next => simp [clean, plain]
      next => rfl
    rw [compile, compile, Outcome.bind_apply, Outcome.bind_apply, read, found]
    refine Parallel.bind (parallel_detail _ _) (fun _ _ _ => ?_) workspace workspace rfl
    refine (parallel_source same).bind fun tokens others same => ?_
    refine (parallel_detail _ _).bind fun _ _ _ => ?_
    have built := Program.ofTokens_eq_of_unplaced type.name same
    have whole : ((Program.ofTokens tokens type.name).map id).mapError CompileError.unplaced =
        ((Program.ofTokens others type.name).map id).mapError CompileError.unplaced := by
      simpa using built
    refine (parallel_source whole).bind fun program _ same => ?_
    cases same
    refine (parallel_detail _ _).bind fun _ _ _ => ?_
    exact ofCode_parallel named type program.code

/-- A text with each way of ending a line. -/
def unevenText : Text := "%p\r\n  a\r\n\r  %b x\x0b\n\r\r\n%c d".toList

def unevenPath : Path := ⟨1, ["pages".toList, "uneven".toList]⟩

def unevenWorkspace : Workspace :=
  .ofTree ((FileTree.ofHome ["pages".toList]).put unevenPath.names (.file (Text.encode unevenText)))

theorem compile_alike_uneven :
    (Source.text unevenText).Holds unevenWorkspace unevenText ∧
      (Source.file unevenPath).Holds unevenWorkspace unevenText ∧
      Alike (fun tokens others => tokens.map Token.unplaced = others.map Token.unplaced)
        ((Source.text unevenText).tokens unevenWorkspace)
        ((Source.file unevenPath).tokens unevenWorkspace) ∧
      Alike Twins (compile (.text unevenText) .namespaceType [] unevenWorkspace)
        (compile (.file unevenPath) .namespaceType [] unevenWorkspace) := by
  have read : unevenWorkspace.tree.read unevenPath = .ok (Text.encode unevenText) := rfl
  exact ⟨.text, .file read, compile_alike .text (.file read) .namespaceType []⟩

end Template

end Stencil

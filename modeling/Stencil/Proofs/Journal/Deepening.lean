import Mathlib.Data.List.Forall2
import Stencil.Proofs.Journal.Moving
import Stencil.Proofs.Turn.Place

/-!
The lines that are emitted for tokens, and what becomes of them when indentations get other widths
in the same order: they move to the new depths, and nothing else is changed.
-/

set_option autoImplicit false

namespace Stencil

/-- A line as it is emitted, with its level. -/
inductive Emitted where
  | plain (level : Nat) (line : Line)
  /-- What closes a block of code: in its statement the depth is written out. -/
  | handing (level depth : Nat) (code : Text) (number : Nat)

namespace Emitted

def level : Emitted → Nat
  | plain level _ => level
  | handing level _ _ _ => level

def line : Emitted → Line
  | plain _ line => line
  | handing _ depth code number => .control (Builder.callStatement depth code number) depth

def isHanding : Emitted → Bool
  | plain _ _ => false
  | handing _ _ _ _ => true

def codeLine (emitted : Emitted) : CodeLine := ⟨emitted.level, emitted.line.statementForm⟩

/-- A line that is there in every program. -/
def fixed (line : CodeLine) : Emitted := plain line.level (.control line.content 0)

end Emitted

/-! ### Other widths -/

section Widths

variable (widen : Nat → Nat)

/-- The line at its new depth. -/
def Line.deepened : Line → Line
  | control content depth => control content (widen depth.toNat)
  | output entry => output { entry with depth := widen entry.depth.toNat }

def Emitted.deepened : Emitted → Emitted
  | plain level line => plain level (line.deepened widen)
  | handing level depth code number => handing level (widen depth) code number

/-- A token that is the same but for the width of an indentation. -/
def Token.Widened (token other : Token) : Prop :=
  other = { token with content := other.content } ∧
    if token.kind = .whiteSpace then other.content.length = widen token.content.length
    else other.content = token.content

/-- The token with an indentation of spaces that is as wide as it gets. -/
def Token.spaced (token : Token) : Token :=
  if token.kind = .whiteSpace then
    { token with content := Text.spaces (widen token.content.length) }
  else token

end Widths

/-- The token without what an indentation says. -/
def Token.bare (token : Token) : Token :=
  if token.kind = .whiteSpace then { token with content := [] } else token

namespace Journal

/-- The line that is emitted when something comes down. -/
def Deferred.closing (level : Nat) : Deferred → Emitted
  | indent depth => .plain level (.control [] depth)
  | endTag depth body => .plain level (.output ⟨.safe, body, depth⟩)
  | block depth => .plain level (.control [] depth)
  | call depth code number => .handing level depth code number

/-- What a declaration says; it says nothing where there are no names. -/
def declarationOf (shared : List Text) : Text :=
  if shared.isEmpty then [] else "nonlocal ".toList ++ Text.join ", ".toList shared

/-- The line that an event emits, given the names that functions share. -/
def Event.emitted? (shared : Nat → List Text) (event : Event) : Option Emitted :=
  match event.entry with
  | .output output => some (.plain event.level (.output output))
  | .statement code => some (.plain event.level (.control code 0))
  | .header code => some (.plain event.level (.control code 0))
  | .define number => some (.plain event.level (.control (Statement.blockHeader number) 0))
  | .pass => some (.plain event.level (.control "pass".toList 0))
  | .declaration number => some (.plain event.level (.control (declarationOf (shared number)) 0))
  | .released one => some (one.closing event.level)
  | .absorbed _ output => some (.plain event.level (.output output))
  | .deferred _ => none
  | .shares _ _ => none

/-- All lines of a program, given the log of its body. -/
def emitted (contextType : Text) (log : List Event) : List Emitted :=
  (Program.opening contextType).map .fixed ++ log.filterMap (Event.emitted? (sharedOf log)) ++
    [.fixed Program.closing]

theorem visible_fixed (lines : List CodeLine) :
    (lines.map Emitted.fixed).map Emitted.codeLine = lines := by
  induction lines with
  | nil => rfl
  | cons line rest ih => rw [List.map_cons, List.map_cons, ih]; rfl

/-- Lines that say nothing apart, an event emits the code that it stands for. -/
theorem visible_emitted (shared : Nat → List Text) (log : List Event) :
    visible ((log.filterMap (Event.emitted? shared)).map Emitted.codeLine) =
      visible (log.flatMap (Event.lines shared)) := by
  induction log with
  | nil => rfl
  | cons event rest ih =>
    have first : visible ((event.emitted? shared).toList.map Emitted.codeLine) =
        visible (event.lines shared) := by
      unfold Event.emitted? Event.lines
      cases entry : event.entry with
      | declaration number =>
        by_cases empty : (shared number).isEmpty = true
        next => simp [declarationOf, Statement.sharing, empty, Emitted.codeLine, Emitted.line,
          Line.statementForm, visible, Text.allBlank]
        next => simp [declarationOf, Statement.sharing, empty, Emitted.codeLine, Emitted.line,
          Line.statementForm, Emitted.level]
      | released one => cases one <;> rfl
      | _ => rfl
    have split : (event :: rest).filterMap (Event.emitted? shared) =
        (event.emitted? shared).toList ++ rest.filterMap (Event.emitted? shared) := by
      cases said : event.emitted? shared <;> simp [said]
    rw [split, List.map_append, visible_append, first, ih, List.flatMap_cons, visible_append]

/-- A program for tokens, with all lines that are emitted. -/
structure Emits (tokens : List Token) (contextType : Text) (lines : List Emitted) : Prop where
  /-- The code is what these lines say. -/
  code : ∃ program, Program.ofTokens tokens contextType = .ok program ∧
    program.code = Text.join ['\n'] ((visible (lines.map Emitted.codeLine)).map CodeLine.text)
  log : ∃ turns, Program.turns tokens = .ok turns ∧
    lines = emitted contextType (Ledger.ofTurns turns).log

theorem contextType_ofTokens {tokens : List Token} {contextType : Text} {program : Program}
    (compiled : Program.ofTokens tokens contextType = .ok program) :
    program.contextType = contextType := by
  rw [Program.ofTokens_eq] at compiled
  obtain ⟨_, _, compiled⟩ := Outcome.bind_eq_ok.mp compiled
  obtain ⟨_, _, compiled⟩ := Outcome.bind_eq_ok.mp compiled
  cases compiled
  rfl

theorem emits_of_ok {tokens : List Token} {contextType : Text} {program : Program}
    (compiled : Program.ofTokens tokens contextType = .ok program) :
    ∃ lines, Emits tokens contextType lines := by
  obtain ⟨turns, last, read, taken, nested⟩ := nested_program compiled
  refine ⟨emitted contextType (Ledger.ofTurns turns).log, ⟨program, compiled, ?_⟩, turns, read, rfl⟩
  have body := nested.lines nested.filled
  have context := contextType_ofTokens compiled
  rw [Program.code, Program.codeLines, emitted, context]
  simp only [List.map_append, visible_append, visible_emitted, visible_fixed]
  rw [body]
  simp only [visible, List.filter_append, List.map_append, List.append_assoc]
  rfl

/-! ### The lines at the new depths -/

section Widths

variable {widen : Nat → Nat}

/-- The books at the new depths, with all entries but those that fill declarations. -/
def deepening (widen : Nat → Nat) : Moving := ⟨widen, 0, false⟩

theorem deepened_fixed (flush : widen 0 = 0) (level : Nat) (content : Text) :
    (Emitted.plain level (.control content 0)).deepened widen =
      .plain level (.control content 0) := by
  simp [Emitted.deepened, Line.deepened, flush]

theorem emitted?_deepening (flush : widen 0 = 0) (shared : Nat → List Text) (event : Event) :
    ((deepening widen).event event).emitted? shared =
      (event.emitted? shared).map (Emitted.deepened widen) := by
  obtain ⟨level, around, entry⟩ := event
  cases entry with
  | statement | header | define | pass | declaration =>
    exact congrArg some (deepened_fixed flush ..).symm
  | released one => cases one <;> rfl
  | _ => rfl

theorem emitted_deepening (contextType : Text) (flush : widen 0 = 0) {log other : List Event}
    (same : (deepening widen).told other =
      ((deepening widen).told log).map (deepening widen).event) :
    emitted contextType other = (emitted contextType log).map (Emitted.deepened widen) := by
  -- what fills declarations is emitted by none, and read off the rest
  have told (log : List Event) (shared : Nat → List Text) :
      log.filterMap (Event.emitted? shared) =
        ((deepening widen).told log).filterMap (Event.emitted? shared) := by
    rw [Moving.told, List.filterMap_filter]
    congr 1
    funext event
    obtain ⟨level, around, entry⟩ := event
    cases entry with
    | deferred one => cases one <;> rfl
    | released one => cases one <;> rfl
    | _ => rfl
  have shares : sharedOf other = sharedOf log := by
    rw [← sharedOf_told (deepening widen) other, same]
    funext number
    rw [← sharedOf_told (deepening widen) log]
    exact sharedOf_map (deepening widen) _ number
  have fixed (lines : List CodeLine) :
      (lines.map Emitted.fixed).map (Emitted.deepened widen) = lines.map Emitted.fixed := by
    rw [List.map_map]
    congr 1
    funext line
    exact deepened_fixed flush ..
  have inner : other.filterMap (Event.emitted? (sharedOf other)) =
      (log.filterMap (Event.emitted? (sharedOf log))).map (Emitted.deepened widen) := by
    rw [told other, told log, same, shares, List.filterMap_map, List.map_filterMap]
    congr 1
    funext event
    exact emitted?_deepening flush _ event
  rw [emitted, emitted, inner, List.map_append, List.map_append, fixed]
  exact congrArg _ (fixed [Program.closing]).symm

theorem log_deepened (grows : StrictMono widen) (flush : widen 0 = 0) (turns : List Builder.Turn) :
    (deepening widen).told (Ledger.ofTurns (turns.map (Builder.Turn.deepened widen))).log =
      ((deepening widen).told (Ledger.ofTurns turns).log).map (deepening widen).event := by
  have begun : Moves (deepening widen) [] Ledger.initial Ledger.initial :=
    ⟨rfl, ⟨[], by simp, rfl⟩, rfl, rfl⟩
  have closed := (begun.takeTurns flush grows turns).flush grows 0
  have bottom : (deepening widen).widen 0 = 0 := flush
  rw [bottom] at closed
  exact closed.log

end Widths

end Journal

open Builder

namespace Token

variable {widen : Nat → Nat}

theorem recasts_spaced (grows : StrictMono widen) (flush : widen 0 = 0) :
    Recasts widen (Token.spaced widen) where
  grows := grows
  flush := flush
  kind := fun token => by
    rw [spaced]
    split <;> rfl
  content := fun token other => by rw [spaced, if_neg other]
  width := fun token margin => by
    rw [spaced, if_pos margin]
    exact Text.length_spaces _

theorem bare_spaced (token : Token) : (token.spaced widen).bare = token.bare := by
  rw [spaced]
  by_cases margin : token.kind = .whiteSpace
  next => simp [bare, margin]
  next => rw [if_neg margin]

theorem spaced_widened {token other : Token} (widened : Widened widen token other) :
    other.spaced id = token.spaced widen := by
  obtain ⟨same, said⟩ := widened
  have kind : other.kind = token.kind := by rw [same]
  by_cases margin : token.kind = .whiteSpace
  next =>
    rw [if_pos margin] at said
    rw [spaced, spaced, if_pos margin, if_pos (kind.trans margin), said, same]
    rfl
  next =>
    rw [if_neg margin] at said
    rw [spaced, spaced, if_neg margin, if_neg (kind ▸ margin), same, said]

theorem map_spaced {tokens others : List Token}
    (widened : List.Forall₂ (Widened widen) tokens others) :
    others.map (spaced id) = tokens.map (spaced widen) := by
  induction widened with
  | nil => rfl
  | cons first _ ih => rw [List.map_cons, List.map_cons, ih, spaced_widened first]

theorem widened_numbered {tokens others : List Token}
    (widened : List.Forall₂ (Widened widen) tokens others) (start : Nat) :
    List.Forall₂ (Widened widen) (Program.numbered start tokens) (Program.numbered start others) := by
  induction widened generalizing start with
  | nil => exact .nil
  | cons first _ ih =>
    obtain ⟨same, said⟩ := first
    refine .cons ⟨?_, said⟩ (ih (start + 1))
    rw [same]

end Token

namespace Journal

variable {widen : Nat → Nat} {tokens others : List Token}

/-- Both fail with an error of the same kind, at the same line and token. -/
structure FailAlike (tokens others : List Token) (contextType : Text) : Prop where
  kind : ∃ error other, Program.ofTokens tokens contextType = .error error ∧
    Program.ofTokens others contextType = .error other ∧
    error.recast Token.bare = other.recast Token.bare
  token : Program.faultPlace? tokens contextType = Program.faultPlace? others contextType
  line : Program.stuck? tokens = Program.stuck? others

theorem recast_bare_spaced (error : CompileError) :
    (error.recast (Token.spaced widen)).recast Token.bare = error.recast Token.bare := by
  cases error <;> simp [CompileError.recast, Token.bare_spaced]

/-- Whether there is a program does not depend on the widths, nor does what the error says. -/
theorem verdict_widened (grows : StrictMono widen) (flush : widen 0 = 0)
    (widened : List.Forall₂ (Token.Widened widen) tokens others) (contextType : Text) :
    recast Token.bare (fun _ => ()) (Program.ofTokens tokens contextType) =
      recast Token.bare (fun _ => ()) (Program.ofTokens others contextType) := by
  have one := Program.verdict_recast (Token.recasts_spaced grows flush) tokens contextType
  have other := Program.verdict_recast (Token.recasts_spaced strictMono_id rfl) others contextType
  rw [Token.map_spaced widened, one] at other
  rcases Outcome.alike_of_map other with
    ⟨program, next, first, second, _⟩ | ⟨error, next, first, second, same⟩
  · rw [first, second]
    rfl
  · have bare := congrArg (CompileError.recast Token.bare) same
    rw [recast_bare_spaced, recast_bare_spaced] at bare
    rw [first, second]
    exact congrArg Except.error bare

theorem stuck?_widened (grows : StrictMono widen) (flush : widen 0 = 0)
    (widened : List.Forall₂ (Token.Widened widen) tokens others) :
    Program.stuck? tokens = Program.stuck? others := by
  have one := Program.stuck?_recast (Token.recasts_spaced grows flush) tokens
  have other := Program.stuck?_recast (Token.recasts_spaced strictMono_id rfl) others
  rw [← one, ← Token.map_spaced widened, other]

theorem faultPlace?_widened (grows : StrictMono widen) (flush : widen 0 = 0)
    (widened : List.Forall₂ (Token.Widened widen) tokens others) (contextType : Text) :
    Program.faultPlace? tokens contextType = Program.faultPlace? others contextType := by
  have same := verdict_widened grows flush (Token.widened_numbered widened 0) contextType
  have placed (error : CompileError) :
      (error.recast Token.bare).token?.map Token.offset = error.token?.map Token.offset := by
    have offset (token : Token) : token.bare.offset = token.offset := by
      rw [Token.bare]
      split <;> rfl
    cases error <;> simp [CompileError.recast, CompileError.token?, offset]
  rw [Program.faultPlace?, Program.faultPlace?]
  rcases Outcome.alike_of_map same with
    ⟨program, next, first, second, _⟩ | ⟨error, next, first, second, alike⟩
  · rw [first, second]
  · simp only [first, second]
    rw [← placed error, alike, placed]

theorem turns_widened (grows : StrictMono widen) (flush : widen 0 = 0)
    (widened : List.Forall₂ (Token.Widened widen) tokens others) {turns : List Turn}
    (read : Program.turns tokens = .ok turns) :
    Program.turns others = .ok (turns.map (Turn.deepened widen)) := by
  have one := Program.turns_recast (Token.recasts_spaced grows flush) tokens
  have other := Program.turns_recast (Token.recasts_spaced strictMono_id rfl) others
  rw [Token.map_spaced widened, one, read, map_deepened_id] at other
  cases found : Program.turns others with
  | ok next =>
    rw [found] at other
    exact congrArg Except.ok (Except.ok.inj other).symm
  | error error =>
    rw [found] at other
    cases other

/-- Of the widths of indentations only their order matters: at other widths in the same order there
are the same lines at the new depths, or the same error at the same place. -/
theorem widths_matter_by_their_order (grows : StrictMono widen) (flush : widen 0 = 0)
    (widened : List.Forall₂ (Token.Widened widen) tokens others) (contextType : Text) :
    (∃ lines, Emits tokens contextType lines ∧
      Emits others contextType (lines.map (Emitted.deepened widen))) ∨
    FailAlike tokens others contextType := by
  rcases Outcome.alike_of_map (verdict_widened grows flush widened contextType) with
    ⟨program, next, first, second, _⟩ | ⟨error, next, first, second, same⟩
  · obtain ⟨lines, emits⟩ := emits_of_ok first
    obtain ⟨found, changed⟩ := emits_of_ok second
    obtain ⟨turns, read, rfl⟩ := emits.log
    obtain ⟨others, later, rfl⟩ := changed.log
    rw [turns_widened grows flush widened read] at later
    cases later
    refine .inl ⟨_, emits, ?_⟩
    rw [← emitted_deepening contextType flush (log_deepened grows flush turns)]
    exact changed
  · exact .inr {
      kind := ⟨error, next, first, second, same⟩
      token := faultPlace?_widened grows flush widened contextType
      line := stuck?_widened grows flush widened }

/-- A tag around a silent block and a block of code with a function of its own. -/
def layeredTokens : List Token :=
  (Lexer.lex (Text.join ['\n'] ["%ul".toList, "  - for x in self.y".toList, "    = self.form".toList,
    "      %p a".toList, "  b".toList])).toOption.getD []

/-- Two tabs for each character of an indentation. -/
def tabbed (token : Token) : Token :=
  if token.kind = .whiteSpace then
    { token with content := List.replicate (2 * token.content.length) '\t' }
  else token

theorem widths_matter_by_their_order_tabs :
    ∃ lines, Emits layeredTokens "Page".toList lines ∧
      Emits (layeredTokens.map tabbed) "Page".toList (lines.map (Emitted.deepened (2 * ·))) ∧
      lines.countP Emitted.isHanding = 1 := by
  have compiles : (Program.ofTokens layeredTokens "Page".toList).toOption.isSome = true := by
    decide +kernel
  have counted : (Program.turns layeredTokens).toOption.map (fun turns =>
      (emitted "Page".toList (Ledger.ofTurns turns).log).countP Emitted.isHanding) = some 1 := by
    decide +kernel
  have grows : StrictMono fun width : Nat => 2 * width := fun one other less => by
    show 2 * one < 2 * other
    omega
  have widened : List.Forall₂ (Token.Widened (2 * ·)) layeredTokens (layeredTokens.map tabbed) := by
    rw [List.forall₂_map_right_iff, List.forall₂_same]
    intro token _
    by_cases margin : token.kind = .whiteSpace <;> simp [Token.Widened, tabbed, margin]
  rcases widths_matter_by_their_order grows rfl widened "Page".toList with ⟨lines, emits, others⟩ | fails
  · obtain ⟨turns, read, rfl⟩ := emits.log
    rw [read] at counted
    exact ⟨_, emits, others, Option.some.inj counted⟩
  · obtain ⟨error, _, failed, _⟩ := fails.kind
    rw [failed] at compiles
    cases compiles

end Journal

end Stencil

import Stencil.Proofs.Builder.Forest
import Stencil.Script.Check

/-!
The functions that blocks of code become, and the names that each of them shares with the code
around it: those that are bound in it and were bound around it before.
-/

set_option autoImplicit false

namespace Stencil

open Markup

namespace Markup

/-- The names that a statement is taken to bind. -/
def boundNames (code : Text) : List Text :=
  match Script.assignedNames code with
  | .ok names => names
  | .error _ => []

/-- The names that silent code is taken to bind. -/
def Matter.ownNames (deeper : Bool) : Matter → List Text
  | silent _ statement =>
    boundNames (if deeper then Builder.headerOf statement.val.content else statement.val.content)
  | _ => []

/-- Whether it is handed the lines below it as a function. -/
def Matter.calls (deeper : Bool) : Matter → Bool
  | code _ _ => deeper
  | _ => false

namespace Line

def ownNames (line : Markup.Line) (deeper : Bool) : List Text :=
  match line.form with
  | .docType _ _ => []
  | .entry _ matter => matter.ownNames deeper

def calls (line : Markup.Line) (deeper : Bool) : Bool :=
  match line.form with
  | .docType _ _ => false
  | .entry _ matter => matter.calls deeper

end Line

/-- A block that becomes a function: the names bound in it, and those bound around it before. -/
structure CodeBlock where
  recorded : List Text
  known : List Text

def CodeBlock.shared (block : CodeBlock) : List Text :=
  Builder.sharedNames block.recorded block.known

namespace Forest

/-- The names bound by silent code that does not stand in a block of code. -/
def recorded : Forest → List Text
  | empty => []
  | node line below behind =>
    line.ownNames (!below.isEmpty) ++ (if line.calls (!below.isEmpty) then [] else below.recorded) ++
      behind.recorded

/-- The blocks of code in order, given the names that are bound before and around them. -/
def codeBlocks (known : List Text) : Forest → List CodeBlock
  | empty => []
  | node line below behind =>
    let now := known ++ line.ownNames (!below.isEmpty)
    if line.calls (!below.isEmpty) then
      ⟨below.recorded, now⟩ :: below.codeBlocks now ++ behind.codeBlocks now
    else below.codeBlocks now ++ behind.codeBlocks (now ++ below.recorded)

end Forest

end Markup

/-- A generated function, and where in the code it stands. -/
structure BlockFunction where
  number : Nat
  shared : List Text
  place : Script.Check.Place

namespace Statement

def textOf (lines : List CodeLine) : Text :=
  Text.join ['\n'] ((lines.filter fun line => !Text.allBlank line.content).map CodeLine.text)

/-- The place of what stands in a piece of code. -/
def placeIn (place : Script.Check.Place) (lines : List CodeLine) : Script.Check.Place :=
  match Script.readModule (textOf lines) with
  | .ok [.functionDef _ parameters _ body _ async] =>
    Script.Check.inside place parameters.names body async
  | .ok [.classDef _ _ _ _] =>
    { place with
      inFunction := false, inAsync := false, inClass := true, inLoop := false, blocks := 0,
      iterated := [] }
  | _ => place

mutual

/-- The generated functions in a statement, in the order of their headers. -/
def functions (place : Script.Check.Place) : Statement → List BlockFunction
  | line _ => []
  | block header body => functionsOf (placeIn place (codeLines 0 (block header body))) body
  | function number shared body =>
    ⟨number, shared, place⟩ ::
      functionsOf (placeIn place (codeLines 0 (function number shared body))) body

def functionsOf (place : Script.Check.Place) : List Statement → List BlockFunction
  | [] => []
  | first :: rest => functions place first ++ functionsOf place rest

end

theorem functionsOf_append (place : Script.Check.Place) (left right : List Statement) :
    functionsOf place (left ++ right) = functionsOf place left ++ functionsOf place right := by
  induction left with
  | nil => rfl
  | cons first rest ih => rw [List.cons_append, functionsOf, functionsOf, ih, List.append_assoc]

/-- Whether the functions in statements are those of blocks, numbered from the given number. -/
def Matches (number : Nat) (blocks : List CodeBlock) (statements : List Statement) : Prop :=
  ∀ place, (functionsOf place statements).map (fun one => (one.shared, one.number)) =
    (blocks.map CodeBlock.shared).zipIdx number

theorem matches_nil (number : Nat) : Matches number [] [] := fun _ => rfl

theorem matches_line (number : Nat) (one : Line) : Matches number [] [.line one] := fun _ => rfl

theorem Matches.append {number : Nat} {first second : List CodeBlock}
    {left right : List Statement} (before : Matches number first left)
    (after : Matches (number + first.length) second right) :
    Matches number (first ++ second) (left ++ right) := by
  intro place
  rw [functionsOf_append, List.map_append, before place, after place, List.map_append,
    List.zipIdx_append, List.length_map]

theorem Matches.block {number : Nat} {blocks : List CodeBlock} {body : List Statement}
    (inside : Matches number blocks body) (header : Text) :
    Matches number blocks [.block header body] := by
  intro place
  simpa [functionsOf, functions] using inside _

theorem Matches.function {number : Nat} {blocks : List CodeBlock} {body : List Statement}
    (inside : Matches (number + 1) blocks body) (block : CodeBlock) :
    Matches number (block :: blocks) [.function number block.shared body] := by
  intro place
  simpa [functionsOf, functions, List.zipIdx_cons] using inside _

end Statement

namespace Builder

/-- What a builder adds: statements, with the blocks of code in them, and names. -/
structure Adds (builder next : Builder) (blocks : List CodeBlock) (names : List Text) : Prop where
  body : ∃ statements, next.body = statements.reverse ++ builder.body ∧
    Statement.Matches builder.calls blocks statements
  names : next.names = builder.names ++ names
  calls : next.calls = builder.calls + blocks.length

theorem Adds.refl (builder : Builder) : Adds builder builder [] [] :=
  ⟨⟨[], rfl, Statement.matches_nil _⟩, (List.append_nil _).symm, rfl⟩

theorem Adds.trans {builder next last : Builder} {first second : List CodeBlock}
    {few more : List Text} (one : Adds builder next first few) (two : Adds next last second more) :
    Adds builder last (first ++ second) (few ++ more) := by
  obtain ⟨left, body, before⟩ := one.body
  obtain ⟨right, also, after⟩ := two.body
  refine ⟨⟨left ++ right, ?_, ?_⟩, ?_, ?_⟩
  · rw [also, body, List.reverse_append, List.append_assoc]
  · rw [one.calls] at after
    exact before.append after
  · rw [two.names, one.names, List.append_assoc]
  · rw [two.calls, one.calls, List.length_append, Nat.add_assoc]

theorem adds_line {builder next : Builder} {line : Line}
    (body : next.body = .line line :: builder.body) (names : next.names = builder.names)
    (calls : next.calls = builder.calls) : Adds builder next [] [] :=
  ⟨⟨[.line line], body, Statement.matches_line _ _⟩, by rw [names, List.append_nil], calls⟩

/-- A builder that differs in its stack only. -/
theorem adds_nothing {builder next : Builder} (body : next.body = builder.body)
    (names : next.names = builder.names) (calls : next.calls = builder.calls) :
    Adds builder next [] [] :=
  ⟨⟨[], body, Statement.matches_nil _⟩, by rw [names, List.append_nil], calls⟩

/-! ### Content -/

/-- What the names of a block are compared with, up to the names that count. -/
def Knows (builder : Builder) (known : List Text) : Prop :=
  ∀ name, name ∈ known ↔ name ∈ builder.names ∨ name ∈ builder.pending.flatMap Pending.names

theorem sharedNames_congr {inner outer other : List Text}
    (same : ∀ name, name ∈ outer ↔ name ∈ other) :
    sharedNames inner outer = sharedNames inner other := by
  have contains : outer.contains = other.contains := by
    funext name
    rw [Bool.eq_iff_iff, List.contains_iff_mem, List.contains_iff_mem, same]
  rw [sharedNames, sharedNames, contains]

theorem closeTo_cons {builder : Builder} {top : Pending} {rest : List Pending} {downTo : Nat}
    (pending : builder.pending = top :: rest) (closes : downTo ≤ top.depth) :
    builder.closeTo downTo = (builder.closeTop rest top).closeTo downTo ∧
      (builder.closeTop rest top).pending = rest := by
  have left : (builder.closeTop rest top).pending = rest := by cases top <;> rfl
  refine ⟨?_, left⟩
  rw [closeTo, pending, closeStack, if_pos closes, closeTo, left]

theorem boundNames_eq {code : Text} {names : List Text}
    (bound : Script.assignedNames code = .ok names) : boundNames code = names := by
  rw [boundNames, bound]

/-- The names known behind something that binds names and leaves nothing around it. -/
theorem Knows.more {builder next : Builder} {known more : List Text} (knows : builder.Knows known)
    (names : next.names = builder.names ++ more)
    (pending : next.pending.flatMap Pending.names = builder.pending.flatMap Pending.names) :
    next.Knows (known ++ more) := by
  intro name
  rw [List.mem_append, knows, names, pending, List.mem_append]
  exact or_right_comm

/-- What a content adds once the lines below it are done. -/
theorem content_adds {builder next : Builder} {matter : Matter} {deeper : Bool}
    (added : builder.add (matter.content deeper) = .ok next) {known : List Text}
    (knows : builder.Knows known) :
    next.Knows (known ++ matter.ownNames deeper) ∧
      ∀ {inner : Builder} {blocks : List CodeBlock} {names : List Text},
        Adds next inner blocks names → inner.pending = next.pending →
          ∃ closed, inner.closeTo builder.depth = closed.closeTo builder.depth ∧
            closed.pending = builder.pending ∧
            Adds builder closed
              (if matter.calls deeper then ⟨names, known ++ matter.ownNames deeper⟩ :: blocks
                else blocks)
              (matter.ownNames deeper ++ if matter.calls deeper then [] else names) := by
  -- Without a block of its own a content is done before the lines below it.
  have alone {own : List Text} (adds : Adds builder next [] own)
      (same : next.pending = builder.pending) :
      next.Knows (known ++ own) ∧
        ∀ {inner : Builder} {blocks : List CodeBlock} {names : List Text},
          Adds next inner blocks names → inner.pending = next.pending →
            ∃ closed, inner.closeTo builder.depth = closed.closeTo builder.depth ∧
              closed.pending = builder.pending ∧ Adds builder closed blocks (own ++ names) :=
    ⟨knows.more adds.names (by rw [same]),
      fun inside kept => ⟨_, rfl, kept.trans same, adds.trans inside⟩⟩
  cases matter with
  | absent =>
    cases added
    exact alone (Adds.refl builder) rfl
  | text words =>
    cases added
    exact alone (adds_line rfl rfl rfl) rfl
  | comment sign note =>
    cases added
    exact alone (adds_line rfl rfl rfl) rfl
  | code sign expression =>
    cases deeper with
    | false =>
      cases added
      exact alone (adds_line rfl rfl rfl) rfl
    | true =>
      cases added
      refine ⟨?_, fun {inner blocks names} inside kept => ?_⟩
      · intro name
        simp [Matter.ownNames, knows name, Pending.names]
      · obtain ⟨closed, pending⟩ := closeTo_cons kept (Nat.le_refl _)
        refine ⟨_, closed, pending, ?_⟩
        obtain ⟨statements, body, blocksMatch⟩ := inside.body
        have named : inner.names = names := inside.names
        have shared : sharedNames inner.names
            (builder.names ++ builder.pending.flatMap Pending.names) =
              CodeBlock.shared ⟨names, known ++ []⟩ := by
          rw [named, CodeBlock.shared, List.append_nil]
          exact (sharedNames_congr fun name => (knows name).trans List.mem_append.symm).symm
        have counted : inner.calls = builder.calls + 1 + blocks.length := inside.calls
        have turned : inner.body.reverse = statements := by
          rw [body, List.append_nil, List.reverse_reverse]
        let block : CodeBlock := ⟨names, known ++ []⟩
        let handed := callStatement builder.depth expression.val.content builder.calls
        refine ⟨⟨[.function builder.calls block.shared statements, .control handed], ?_, ?_⟩, ?_, ?_⟩
        · simp only [closeTop, turned, shared]
          rfl
        · have function := blocksMatch.function block
          have both := function.append (Statement.matches_line _ (.control handed 0))
          rwa [List.append_nil] at both
        · exact (List.append_nil _).symm
        · exact counted.trans (Nat.add_right_comm ..)
  | silent sign statement =>
    cases deeper with
    | false =>
      obtain ⟨names, bound, rfl⟩ := add_statement added
      have own : Matter.ownNames false (.silent sign statement) = names := boundNames_eq bound
      rw [own]
      refine alone ⟨⟨[_], rfl, Statement.matches_line _ _⟩, rfl, rfl⟩ rfl
    | true =>
      obtain ⟨names, bound, rfl⟩ := add_block added
      have own : Matter.ownNames true (.silent sign statement) = names := boundNames_eq bound
      rw [own]
      refine ⟨knows.more rfl rfl, fun {inner blocks others} inside kept => ?_⟩
      obtain ⟨closed, pending⟩ := closeTo_cons kept (Nat.le_refl _)
      obtain ⟨statements, body, blocksMatch⟩ := inside.body
      have turned : inner.body.reverse = statements := by
        rw [body, List.append_nil, List.reverse_reverse]
      refine ⟨_, closed, pending, ⟨[.block (headerOf statement.val.content) statements], ?_, ?_⟩,
        ?_, inside.calls⟩
      · simp only [closeTop, turned]
        rfl
      · exact blocksMatch.block _
      · exact inside.names.trans (List.append_assoc ..)

/-- What is added between a line's indentation and its being closed, the line adds. -/
theorem enter_adds {builder : Builder} {line : Markup.Line}
    (low : ∀ one ∈ builder.pending, one.depth < line.depth) {known : List Text}
    (knows : builder.Knows known) :
    (builder.enter line).Knows known ∧
      ∀ {closed : Builder} {blocks : List CodeBlock} {names : List Text},
        Adds (builder.enter line) closed blocks names →
          closed.pending = (builder.enter line).pending →
          (closed.closeTo line.depth).pending = builder.pending ∧
            Adds builder (closed.closeTo line.depth) blocks names := by
  cases same : line.indent with
  | none =>
    have entered : builder.enter line = builder := by simp [enter, same]
    rw [entered]
    refine ⟨knows, fun {closed blocks names} adds kept => ?_⟩
    rw [closeTo_below fun one member => low one (kept ▸ member)]
    exact ⟨kept, adds⟩
  | some token =>
    have level : line.depth = token.val.content.length := by simp [Markup.Line.depth, same]
    rw [level] at low ⊢
    have entered : builder.enter line = builder.push (.indent token.val.content.length) := by
      simp only [enter, same, closeTo_below low]
    rw [entered]
    refine ⟨fun name => knows name, fun {closed blocks names} adds kept => ?_⟩
    have closes : token.val.content.length ≤ (Pending.indent token.val.content.length).depth :=
      Nat.le_refl _
    obtain ⟨same, left⟩ := closeTo_cons kept closes
    rw [same, closeTo_below fun one member => low one (left ▸ member)]
    exact ⟨left, ⟨adds.body, adds.names, adds.calls⟩⟩

theorem openTag_adds {builder : Builder} (text : TagText) {known : List Text}
    (knows : builder.Knows known) :
    (builder.openTag text).Knows known ∧
      ∀ {closed : Builder} {blocks : List CodeBlock} {names : List Text},
        Adds (builder.openTag text) closed blocks names →
          closed.pending = (builder.openTag text).pending →
          ∃ last, closed.closeTo builder.depth = last.closeTo builder.depth ∧
            last.pending = builder.pending ∧ Adds builder last blocks names := by
  refine ⟨fun name => knows name, fun {closed blocks names} adds kept => ?_⟩
  obtain ⟨same, left⟩ := closeTo_cons kept (Nat.le_refl _)
  have opened : Adds builder (builder.openTag text) [] [] := adds_line rfl rfl rfl
  have ended : Adds closed (closed.closeTop builder.pending (.endTag builder.depth text.stop)) [] [] :=
    adds_line rfl rfl rfl
  have all := (opened.trans adds).trans ended
  rw [List.append_nil, List.append_nil] at all
  exact ⟨_, same, left, all⟩

/-- What a line adds once the lines below it are done. -/
theorem writeLine_adds {builder next : Builder} {line : Markup.Line} {deeper : Bool}
    (fits : builder.Fits line) (low : ∀ one ∈ builder.pending, one.depth < line.depth)
    (loud : Loud [line]) (written : builder.writeLine deeper line = .ok next) {known : List Text}
    (knows : builder.Knows known) :
    next.Knows (known ++ line.ownNames deeper) ∧
      ∀ {inner : Builder} {blocks : List CodeBlock} {names : List Text},
        Adds next inner blocks names → inner.pending = next.pending →
          (inner.closeTo line.depth).pending = builder.pending ∧
            Adds builder (inner.closeTo line.depth)
              (if line.calls deeper then ⟨names, known ++ line.ownNames deeper⟩ :: blocks
                else blocks)
              (line.ownNames deeper ++ if line.calls deeper then [] else names) := by
  obtain ⟨entered, leave⟩ := enter_adds low knows
  have depth := depth_enter fits
  cases form : line.form with
  | docType sign type =>
    rw [writeLine, form] at written
    cases written
  | entry head matter =>
    rw [writeLine, form] at written
    have own : line.ownNames deeper = matter.ownNames deeper := by simp [Markup.Line.ownNames, form]
    have calls : line.calls deeper = matter.calls deeper := by simp [Markup.Line.calls, form]
    rw [own, calls]
    cases head with
    | none =>
      obtain ⟨inside, behind⟩ := content_adds written entered
      refine ⟨inside, fun {inner blocks names} adds kept => ?_⟩
      obtain ⟨closed, same, pending, more⟩ := behind adds kept
      rw [depth] at same
      rw [same]
      exact leave more pending
    | some head =>
      cases deeper with
      | true =>
        have opened : ((builder.enter line).openTag head.text).add (matter.content true) =
            .ok next := by
          cases matter <;> exact written
        obtain ⟨tagged, finish⟩ := openTag_adds head.text entered
        obtain ⟨inside, behind⟩ := content_adds opened tagged
        refine ⟨inside, fun {inner blocks names} adds kept => ?_⟩
        obtain ⟨closed, same, pending, more⟩ := behind adds kept
        obtain ⟨last, ends, back, all⟩ := finish more pending
        have level : ((builder.enter line).openTag head.text).depth = line.depth := depth
        rw [level] at same
        rw [depth] at ends
        rw [same, ends]
        exact leave all back
      | false =>
        have quiet := loud line (List.mem_cons_self ..) head matter form
        have single : Adds (builder.enter line) next [] [] ∧
            next.pending = (builder.enter line).pending ∧ matter.ownNames false = [] ∧
            matter.calls false = false := by
          cases matter with
          | silent sign statement => cases quiet
          | _ =>
            cases written
            exact ⟨adds_line rfl rfl rfl, rfl, rfl, rfl⟩
        obtain ⟨one, same, noNames, noCall⟩ := single
        rw [noNames, noCall]
        refine ⟨entered.more one.names (by rw [same]), fun {inner blocks names} adds kept => ?_⟩
        exact leave (one.trans adds) (kept.trans same)

/-- What a forest adds: the functions of its blocks of code, and the names bound outside them. -/
theorem Emitted.adds {builder last : Builder} {forest : Forest}
    (emitted : Emitted builder forest last) {known : List Text} (knows : builder.Knows known) :
    Adds builder last (forest.codeBlocks known) forest.recorded := by
  induction emitted generalizing known with
  | empty builder => exact Adds.refl builder
  | node fits low loud written inside kept outside insideIh outsideIh =>
    obtain ⟨deeper, behind⟩ := writeLine_adds fits low loud written knows
    obtain ⟨back, adds⟩ := behind (insideIh deeper) kept
    have after := outsideIh (knows.more adds.names (by rw [back]))
    rename_i line below forest
    rw [Forest.codeBlocks, Forest.recorded]
    by_cases handed : line.calls (!below.isEmpty) = true
    next =>
      simp only [handed, if_true, List.append_nil] at adds after ⊢
      exact adds.trans after
    next =>
      simp only [handed, Bool.false_eq_true, if_false, ← List.append_assoc] at adds after ⊢
      exact adds.trans after

end Builder

end Stencil

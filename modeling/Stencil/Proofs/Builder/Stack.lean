import Stencil.Proofs.Builder.Program

/-!
The stack of the builder. What is on it when a line begins was put there by the lines above that
this line is still below: those that every line since is deeper than.
-/

set_option autoImplicit false

namespace Stencil

open Markup

namespace Pending

def isEndTag : Pending → Bool
  | endTag _ _ => true
  | _ => false

/-- Whether the end of a block waits, be it called or not. -/
def isBlock : Pending → Bool
  | block _ _ _ => true
  | call _ _ _ _ _ => true
  | _ => false

def isCloser (pending : Pending) : Bool := pending.isEndTag || pending.isBlock

end Pending

namespace Builder

/-- What waits to be closed, the lowest first, without the marks of indentations. -/
def closers (builder : Builder) : List Pending := (builder.pending.filter Pending.isCloser).reverse

/-- What a line leaves on the stack. -/
def Passage.pushed (passage : Passage) : List Pending :=
  passage.left.closers.drop passage.entered.closers.length

end Builder

/-- The lines of a source as the builder passes them, a document type at the top being one. -/
def Program.passages (source : Text) : Except CompileError (List Builder.Passage) := do
  let tokens ← Lexer.lex source
  let (builder, rest) ← Builder.initial.docType tokens
  let later ← builder.passages rest
  return if rest.length < tokens.length then ⟨.initial, builder⟩ :: later else later

namespace Builder

/-! ### Closing -/

theorem pending_closeStack (downTo : Nat) (pending : List Pending) (builder : Builder) :
    (closeStack downTo pending builder).pending =
      pending.dropWhile fun top => downTo ≤ top.depth := by
  induction pending generalizing builder with
  | nil => rfl
  | cons top rest ih =>
    rw [closeStack]
    by_cases closes : downTo ≤ top.depth
    next => simp only [closes, if_true, List.dropWhile_cons, decide_true, ih]
    next => simp only [closes, if_false, List.dropWhile_cons, decide_false, Bool.false_eq_true]

/-- A stack on which nothing is deeper than what is above it. -/
def Rises (pending : List Pending) : Prop :=
  pending.Pairwise fun top below => below.depth ≤ top.depth

theorem dropWhile_of_rises {pending : List Pending} (rises : Rises pending) (downTo : Nat) :
    (pending.dropWhile fun top => downTo ≤ top.depth) =
      pending.filter fun one => one.depth < downTo := by
  induction pending with
  | nil => rfl
  | cons top rest ih =>
    have below := List.pairwise_cons.mp rises
    by_cases closes : downTo ≤ top.depth
    next =>
      have kept : ¬top.depth < downTo := Nat.not_lt.mpr closes
      simp only [List.dropWhile_cons, closes, decide_true, if_true, List.filter_cons, kept,
        decide_false, Bool.false_eq_true, if_false, ih below.2]
    next =>
      have all : ∀ one ∈ rest, one.depth < downTo := fun one member =>
        Nat.lt_of_le_of_lt (below.1 one member) (Nat.lt_of_not_le closes)
      simp only [List.dropWhile_cons, closes, decide_false, Bool.false_eq_true, if_false]
      exact (List.filter_eq_self.mpr fun one member => by
        rcases List.mem_cons.mp member with rfl | later
        · exact decide_eq_true (Nat.lt_of_not_le closes)
        · exact decide_eq_true (all one later)).symm

theorem pending_closeTo {builder : Builder} (rises : Rises builder.pending) (downTo : Nat) :
    (builder.closeTo downTo).pending =
      builder.pending.filter fun one => one.depth < downTo := by
  rw [closeTo, pending_closeStack, dropWhile_of_rises rises]

/-! ### What a line leaves -/

/-- What a line leaves on the stack: the end of its tag, and above it the end of its block. -/
structure Leaves (depth : Nat) (mayOpen deeper : Bool) (pushed : List Pending) : Prop where
  depths : ∀ one ∈ pushed, one.depth = depth
  closers : ∀ one ∈ pushed, one.isCloser = true
  order : ∃ blocks tags, pushed = blocks ++ tags ∧ blocks.length ≤ 1 ∧ tags.length ≤ 1 ∧
    (∀ one ∈ blocks, one.isBlock = true) ∧ ∀ one ∈ tags, one.isEndTag = true
  present : pushed ≠ [] ↔ (mayOpen && deeper) = true

theorem leaves_nothing {depth : Nat} {mayOpen deeper : Bool} (closed : (mayOpen && deeper) = false) :
    Leaves depth mayOpen deeper [] :=
  ⟨by simp, by simp, ⟨[], [], rfl, by simp, by simp, by simp, by simp⟩, by simp [closed]⟩

theorem leaves_tag (depth : Nat) (body : Text) : Leaves depth true true [.endTag depth body] :=
  ⟨by simp [Pending.depth], by simp [Pending.isCloser, Pending.isEndTag],
    ⟨[], [.endTag depth body], rfl, by simp, by simp, by simp, by simp [Pending.isEndTag]⟩, by simp⟩

theorem leaves_block {block : Pending} (isBlock : block.isBlock = true) :
    Leaves block.depth true true [block] :=
  ⟨by simp, by simp [Pending.isCloser, isBlock],
    ⟨[block], [], rfl, by simp, by simp, by simp [isBlock], by simp⟩, by simp⟩

theorem leaves_both {block : Pending} (isBlock : block.isBlock = true) (body : Text) :
    Leaves block.depth true true [block, .endTag block.depth body] :=
  ⟨by simp [Pending.depth], by simp [Pending.isCloser, isBlock, Pending.isEndTag],
    ⟨[block], [.endTag block.depth body], rfl, by simp, by simp, by simp [isBlock],
      by simp [Pending.isEndTag]⟩, by simp⟩

/-- What content adds to the stack, given whether deeper lines follow. -/
theorem add_leaves {builder next : Builder} {matter : Matter} {deeper : Bool}
    (added : builder.add (matter.content deeper) = .ok next) :
    next.pending = builder.pending ∧ (matter.isCode && deeper) = false ∨
      ∃ block : Pending, block.isBlock = true ∧ block.depth = builder.depth ∧
        next.pending = block :: builder.pending ∧ (matter.isCode && deeper) = true := by
  cases matter with
  | absent =>
    cases added
    exact .inl ⟨rfl, rfl⟩
  | text words =>
    cases added
    exact .inl ⟨rfl, rfl⟩
  | comment sign note =>
    cases added
    exact .inl ⟨rfl, rfl⟩
  | code sign expression =>
    cases deeper with
    | false =>
      cases added
      exact .inl ⟨rfl, rfl⟩
    | true =>
      cases added
      exact .inr ⟨_, rfl, rfl, rfl, rfl⟩
  | silent sign statement =>
    cases deeper with
    | false =>
      obtain ⟨names, _, rfl⟩ := add_statement added
      exact .inl ⟨rfl, rfl⟩
    | true =>
      obtain ⟨names, _, rfl⟩ := add_block added
      exact .inr ⟨_, rfl, rfl, rfl, rfl⟩

theorem write_leaves {builder next : Builder} {deeper : Bool} {head : Option Head}
    {matter : Matter} (loud : head.isSome = true → matter.silent? = none)
    (written : builder.write deeper head matter = .ok next) :
    ∃ pushed, next.pending = pushed ++ builder.pending ∧
      Leaves builder.depth (Form.entry head matter).mayOpen deeper pushed := by
  cases head with
  | none =>
    rcases add_leaves written with ⟨same, closed⟩ | ⟨block, isBlock, depth, same, opened⟩
    · exact ⟨[], same, leaves_nothing closed⟩
    · obtain ⟨code, rfl⟩ := Bool.and_eq_true_iff.mp opened
      refine ⟨[block], same, ?_⟩
      simpa [Form.mayOpen, code, depth] using leaves_block isBlock
  | some head =>
    have quiet := loud rfl
    cases deeper with
    | false =>
      refine ⟨[], ?_, leaves_nothing (by simp)⟩
      cases matter with
      | silent sign statement => cases quiet
      | _ =>
        cases written
        rfl
    | true =>
      have opened : (builder.openTag head.text).add (matter.content true) = .ok next := by
        cases matter <;> exact written
      have tagged : (builder.openTag head.text).pending =
          .endTag builder.depth head.text.stop :: builder.pending := rfl
      rcases add_leaves opened with ⟨same, _⟩ | ⟨block, isBlock, depth, same, _⟩
      · refine ⟨[.endTag builder.depth head.text.stop], by rw [same, tagged]; rfl, ?_⟩
        simpa [Form.mayOpen] using leaves_tag builder.depth head.text.stop
      · have level : block.depth = builder.depth := depth
        refine ⟨[block, .endTag builder.depth head.text.stop], by rw [same, tagged]; rfl, ?_⟩
        simpa [Form.mayOpen, level] using leaves_both isBlock head.text.stop

/-! ### Lines in a row -/

/-- Lines and how they are passed: what a line is below stays on the stack, and what it leaves
comes on top. -/
inductive Passed : Builder → List Markup.Line → List Passage → Prop where
  | nil (builder : Builder) : Passed builder [] []
  | cons {builder : Builder} {line : Markup.Line} {passage : Passage} {lines : List Markup.Line}
      {passages : List Passage} {pushed : List Pending}
      (entered : passage.entered.closers =
        builder.closers.filter fun one => one.depth < line.depth)
      (leaves : Leaves line.depth line.form.mayOpen (line.opens lines) pushed)
      (left : passage.left.closers = passage.entered.closers ++ pushed.reverse)
      (others : Passed passage.left lines passages) :
      Passed builder (line :: lines) (passage :: passages)

theorem closers_enter {builder : Builder} {line : Markup.Line} (rises : Rises builder.pending)
    (fits : builder.Fits line) :
    (builder.enter line).closers = builder.closers.filter fun one => one.depth < line.depth := by
  cases same : line.indent with
  | none =>
    rcases fits with indented | ⟨empty, _⟩
    · simp [same] at indented
    · simp [enter, same, closers, empty]
  | some token =>
    simp [enter, same, closers, push, Pending.isCloser, Pending.isEndTag, Pending.isBlock,
      pending_closeTo rises, Markup.Line.depth, List.filter_reverse, Bool.and_comm]

theorem rises_enter {builder : Builder} {line : Markup.Line} (rises : Rises builder.pending)
    (fits : builder.Fits line) :
    Rises (builder.enter line).pending ∧
      ∀ one ∈ (builder.enter line).pending, one.depth ≤ line.depth := by
  cases same : line.indent with
  | none =>
    rcases fits with indented | ⟨empty, _⟩
    · simp [same] at indented
    · simp [enter, same, empty, Rises]
  | some token =>
    have kept : ∀ one ∈ (builder.closeTo token.val.content.length).pending,
        one.depth < token.val.content.length := by
      intro one member
      rw [pending_closeTo rises] at member
      simpa using (List.mem_filter.mp member).2
    have inner : Rises (builder.closeTo token.val.content.length).pending := by
      rw [pending_closeTo rises]
      exact rises.filter _
    simp only [enter, same, push, Rises, List.pairwise_cons, List.mem_cons, Markup.Line.depth,
      Option.map_some, Option.getD_some]
    refine ⟨⟨fun one member => Nat.le_of_lt (kept one member), inner⟩, ?_⟩
    rintro one (rfl | member)
    · exact Nat.le_refl _
    · exact Nat.le_of_lt (kept one member)

/-- Silent code never stands behind a tag. -/
def Loud (lines : List Markup.Line) : Prop :=
  ∀ line ∈ lines, ∀ head matter, line.form = .entry (some head) matter → matter.silent? = none

theorem Loud.tail {line : Markup.Line} {rest : List Markup.Line} (loud : Loud (line :: rest)) :
    Loud rest :=
  fun other member => loud other (List.mem_cons_of_mem _ member)

theorem writeLine_leaves {builder next : Builder} {line : Markup.Line} {rest : List Markup.Line}
    {deeper : Bool} (rises : Rises builder.pending) (fits : builder.Fits line)
    (loud : Loud (line :: rest)) (written : builder.writeLine deeper line = .ok next) :
    Rises next.pending ∧ ∃ pushed, next.pending = pushed ++ (builder.enter line).pending ∧
      Leaves line.depth line.form.mayOpen deeper pushed := by
  cases form : line.form with
  | docType sign type =>
    rw [writeLine, form] at written
    cases written
  | entry head matter =>
    rw [writeLine, form] at written
    have quiet : head.isSome = true → matter.silent? = none := by
      intro present
      obtain ⟨head, rfl⟩ := Option.isSome_iff_exists.mp present
      exact loud line (List.mem_cons_self ..) head matter form
    obtain ⟨pushed, pending, leaves⟩ := write_leaves quiet written
    rw [depth_enter fits] at leaves
    refine ⟨?_, pushed, pending, leaves⟩
    have level := rises_enter rises fits
    rw [pending, Rises, List.pairwise_append]
    refine ⟨?_, level.1, fun one member below inside => ?_⟩
    · exact List.pairwise_of_forall_mem_list fun one first other second =>
        Nat.le_of_eq ((leaves.depths other second).trans (leaves.depths one first).symm)
    · rw [leaves.depths one member]
      exact level.2 below inside

theorem passed_of_passLines {builder : Builder} {lines : List Markup.Line}
    {passages : List Passage} (rises : Rises builder.pending)
    (starts : ∀ line ∈ lines.head?, builder.Fits line) (indented : Indented lines.tail)
    (loud : Loud lines) (passed : builder.passLines lines = .ok passages) :
    Passed builder lines passages := by
  induction lines generalizing builder passages with
  | nil =>
    cases passed
    exact .nil builder
  | cons line rest ih =>
    obtain ⟨next, written, passed⟩ := Outcome.bind_eq_ok.mp passed
    obtain ⟨later, others, passed⟩ := Outcome.bind_eq_ok.mp passed
    cases passed
    have fits := starts line rfl
    have indented : Indented rest := indented
    obtain ⟨higher, pushed, pending, leaves⟩ := writeLine_leaves rises fits loud written
    refine .cons (closers_enter rises fits) leaves ?_ (ih higher ?_ ?_ loud.tail others)
    · have kept : pushed.filter Pending.isCloser = pushed :=
        List.filter_eq_self.mpr leaves.closers
      simp only [closers, pending, List.filter_append, kept, List.reverse_append]
    · exact fun first same => .inl (indented first (List.mem_of_mem_head? same))
    · exact fun other member => indented other (List.mem_of_mem_tail member)

end Builder

end Stencil

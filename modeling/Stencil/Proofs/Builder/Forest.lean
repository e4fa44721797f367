import Stencil.Proofs.Builder.Stack

/-!
Lines as a forest: below each line stand the deeper ones that follow it. Running over the lines is
running over the forest, where a line closes what it left once what stands below it is done.
-/

set_option autoImplicit false

namespace Stencil

open Markup

namespace Markup

inductive Forest where
  | empty
  | node (line : Markup.Line) (below behind : Forest)

namespace Forest

def isEmpty : Forest → Bool
  | empty => true
  | node _ _ _ => false

def ofLines : List Markup.Line → Forest
  | [] => empty
  | line :: rest =>
    node line (ofLines (rest.takeWhile fun other => line.depth < other.depth))
      (ofLines (rest.dropWhile fun other => line.depth < other.depth))
termination_by lines => lines.length
decreasing_by
  all_goals simp only [List.length_cons]
  · exact Nat.lt_succ_of_le (List.takeWhile_sublist _).length_le
  · exact Nat.lt_succ_of_le (List.dropWhile_sublist _).length_le

def lines : Forest → List Markup.Line
  | empty => []
  | node line below behind => line :: (below.lines ++ behind.lines)

theorem lines_ofLines (all : List Markup.Line) : (ofLines all).lines = all := by
  induction all using ofLines.induct with
  | case1 => rw [ofLines, lines]
  | case2 line rest below behind =>
    rw [ofLines, lines, below, behind, List.takeWhile_append_dropWhile]

theorem isEmpty_ofLines (all : List Markup.Line) : (ofLines all).isEmpty = all.isEmpty := by
  cases all with
  | nil => rw [ofLines]; rfl
  | cons line rest => rw [ofLines]; rfl

theorem opens_eq (line : Markup.Line) (rest : List Markup.Line) :
    line.opens rest =
      !(ofLines (rest.takeWhile fun other => line.depth < other.depth)).isEmpty := by
  rw [isEmpty_ofLines]
  cases rest with
  | nil => rfl
  | cons next others =>
    by_cases deeper : line.depth < next.depth <;> simp [Markup.Line.opens, deeper]

end Forest

end Markup

namespace Builder

/-! ### Closing twice -/

theorem closeStack_closeStack {few many : Nat} (order : few ≤ many) (pending : List Pending)
    (builder : Builder) :
    (closeStack many pending builder).closeTo few = closeStack few pending builder := by
  induction pending generalizing builder with
  | nil => rfl
  | cons top rest ih =>
    rw [closeStack, closeStack]
    by_cases closes : many ≤ top.depth
    next =>
      rw [if_pos closes, if_pos (Nat.le_trans order closes), ih]
    next =>
      rw [if_neg closes, closeTo, closeStack]
      rfl

theorem closeTo_closeTo {few many : Nat} (order : few ≤ many) (builder : Builder) :
    (builder.closeTo many).closeTo few = builder.closeTo few :=
  closeStack_closeStack order builder.pending builder

theorem closeTo_below {builder : Builder} {downTo : Nat}
    (below : ∀ one ∈ builder.pending, one.depth < downTo) : builder.closeTo downTo = builder := by
  obtain ⟨body, names, pending, calls⟩ := builder
  cases pending with
  | nil => rfl
  | cons top rest =>
    have open_ : ¬downTo ≤ top.depth := Nat.not_le.mpr (below top (List.mem_cons_self ..))
    rw [closeTo, closeStack, if_neg open_]

/-! ### Running -/

theorem runLines_append (builder : Builder) {first second : List Markup.Line}
    (calm : ∀ line ∈ first, ∀ next ∈ second.head?, next.depth ≤ line.depth) :
    builder.runLines (first ++ second) = (do
      let between ← builder.runLines first
      between.runLines second) := by
  induction first generalizing builder with
  | nil => rfl
  | cons line rest ih =>
    have opens : line.opens (rest ++ second) = line.opens rest := by
      cases rest with
      | cons next others => rfl
      | nil =>
        cases second with
        | nil => rfl
        | cons next others =>
          have level := calm line (List.mem_cons_self ..) next rfl
          simp [Markup.Line.opens, Nat.not_lt.mpr level]
    rw [List.cons_append, runLines, runLines, opens]
    cases builder.writeLine (line.opens rest) line with
    | error fault => rfl
    | ok next =>
      simp only [Outcome.ok_bind]
      exact ih next fun other member => calm other (List.mem_cons_of_mem _ member)

/-- What the next line closes anyway can be closed before it. -/
theorem runLines_closeTo (builder : Builder) {lines : List Markup.Line} {depth downTo : Nat}
    (order : downTo ≤ depth)
    (closes : ∀ line ∈ lines.head?, line.indent.isSome = true ∧ line.depth ≤ depth) :
    ((builder.closeTo depth).runLines lines).map (closeTo · downTo) =
      (builder.runLines lines).map (closeTo · downTo) := by
  cases lines with
  | nil => exact congrArg Except.ok (closeTo_closeTo order builder)
  | cons line rest =>
    obtain ⟨indented, level⟩ := closes line rfl
    obtain ⟨token, same⟩ := Option.isSome_iff_exists.mp indented
    have bound : token.val.content.length ≤ depth := by
      simpa [Markup.Line.depth, same] using level
    have entered : (builder.closeTo depth).enter line = builder.enter line := by
      simp only [enter, same, closeTo_closeTo bound]
    simp only [runLines, writeLine, entered]

/-- Closing what a line itself put on the stack. -/
theorem enter_filter {builder : Builder} {line : Markup.Line} (fits : builder.Fits line)
    (below : ∀ one ∈ builder.pending, one.depth < line.depth) :
    ((builder.enter line).pending.filter fun one => one.depth < line.depth) = builder.pending := by
  have kept : (builder.pending.filter fun one => one.depth < line.depth) = builder.pending :=
    List.filter_eq_self.mpr fun one member => decide_eq_true (below one member)
  cases same : line.indent with
  | none =>
    rcases fits with indented | ⟨empty, _⟩
    · simp [same] at indented
    · simp [enter, same, empty]
  | some token =>
    have level : line.depth = token.val.content.length := by simp [Markup.Line.depth, same]
    rw [level] at below kept ⊢
    have mark : ¬(Pending.indent token.val.content.length).depth < token.val.content.length :=
      Nat.lt_irrefl _
    simp only [enter, same, push, closeTo_below below, List.filter_cons, mark, decide_false,
      Bool.false_eq_true, if_false, kept]

/-- A run over a forest. Once what stands below a line is done, the line closes what it left. -/
inductive Emitted : Builder → Forest → Builder → Prop where
  | empty (builder : Builder) : Emitted builder .empty builder
  | node {builder next inner last : Builder} {line : Markup.Line} {below behind : Forest}
      (fits : builder.Fits line) (low : ∀ one ∈ builder.pending, one.depth < line.depth)
      (loud : Loud [line]) (written : builder.writeLine (!below.isEmpty) line = .ok next)
      (inside : Emitted next below inner) (kept : inner.pending = next.pending)
      (outside : Emitted (inner.closeTo line.depth) behind last) :
      Emitted builder (.node line below behind) last

/-- What a line left on the stack is closed with it. -/
theorem restored_filter {builder next : Builder} {line : Markup.Line} {pushed : List Pending}
    (fits : builder.Fits line) (low : ∀ one ∈ builder.pending, one.depth < line.depth)
    (pending : next.pending = pushed ++ (builder.enter line).pending)
    (depths : ∀ one ∈ pushed, one.depth = line.depth) :
    (next.pending.filter fun one => one.depth < line.depth) = builder.pending := by
  have gone : (pushed.filter fun one => one.depth < line.depth) = [] :=
    List.filter_eq_nil_iff.mpr fun one left => by simp [depths one left]
  rw [pending, List.filter_append, enter_filter fits low, gone, List.nil_append]

/-- A run over lines is one over their forest, and leaves the stack as it was. -/
theorem emitted_of_runLines {builder last : Builder} {lines : List Markup.Line} {downTo : Nat}
    (rises : Rises builder.pending) (above : ∀ one ∈ builder.pending, one.depth < downTo)
    (starts : ∀ line ∈ lines.head?, builder.Fits line) (indented : Indented lines.tail)
    (loud : Loud lines) (bound : ∀ line ∈ lines, downTo ≤ line.depth)
    (ran : builder.runLines lines = .ok last) :
    Emitted builder (.ofLines lines) (last.closeTo downTo) ∧
      (last.closeTo downTo).pending = builder.pending := by
  induction lines using Forest.ofLines.induct generalizing builder last downTo with
  | case1 =>
    cases ran
    rw [Forest.ofLines, closeTo_below above]
    exact ⟨.empty builder, rfl⟩
  | case2 line rest insideIh outsideIh =>
    have fits := starts line rfl
    have indented : Indented rest := indented
    have level := bound line (List.mem_cons_self ..)
    generalize within : (rest.takeWhile fun other => line.depth < other.depth) = inside at insideIh
    generalize beyond : (rest.dropWhile fun other => line.depth < other.depth) = outside
      at outsideIh
    have whole : rest = inside ++ outside := by
      rw [← within, ← beyond, List.takeWhile_append_dropWhile]
    have member {other : Markup.Line} (found : other ∈ inside ∨ other ∈ outside) : other ∈ rest := by
      rw [whole]
      exact List.mem_append.mpr found
    have deeper : ∀ other ∈ inside, line.depth < other.depth := by
      have all := List.all_takeWhile (p := fun other => decide (line.depth < other.depth)) (l := rest)
      rw [within, List.all_eq_true] at all
      exact fun other found => of_decide_eq_true (all other found)
    have returns : ∀ next ∈ outside.head?, next.depth ≤ line.depth := by
      intro next first
      have stops := List.head?_dropWhile_not (fun other => decide (line.depth < other.depth)) rest
      rw [beyond, Option.mem_def.mp first] at stops
      exact Nat.not_lt.mp (of_decide_eq_false stops)
    have opens : line.opens rest = !(Forest.ofLines inside).isEmpty := by
      rw [Forest.opens_eq, within]
    have calm : ∀ other ∈ inside, ∀ following ∈ outside.head?, following.depth ≤ other.depth :=
      fun other found following same =>
        Nat.le_trans (returns following same) (Nat.le_of_lt (deeper other found))
    obtain ⟨next, written, ran⟩ := Outcome.bind_eq_ok.mp ran
    rw [whole, runLines_append next calm] at ran
    obtain ⟨mid, first, ran⟩ := Outcome.bind_eq_ok.mp ran
    rw [opens] at written
    obtain ⟨higher, pushed, pending, leaves⟩ := writeLine_leaves rises fits loud written
    have under : ∀ one ∈ builder.pending, one.depth < line.depth := fun one found =>
      Nat.lt_of_lt_of_le (above one found) level
    have low : ∀ one ∈ next.pending, one.depth < line.depth + 1 := by
      intro one found
      rw [pending] at found
      rcases List.mem_append.mp found with left | entered
      · exact Nat.lt_succ_of_le (Nat.le_of_eq (leaves.depths one left))
      · exact Nat.lt_succ_of_le ((rises_enter rises fits).2 one entered)
    obtain ⟨below, kept⟩ := insideIh higher low
      (fun other same => .inl (indented other (member (.inl (List.mem_of_mem_head? same)))))
      (fun other found => indented other (member (.inl (List.mem_of_mem_tail found))))
      (fun other found => loud.tail other (member (.inl found)))
      (fun other found => deeper other found) first
    have twice : (mid.closeTo (line.depth + 1)).closeTo line.depth = mid.closeTo line.depth :=
      closeTo_closeTo (Nat.le_succ _) mid
    have closed : (mid.closeTo line.depth).pending = builder.pending := by
      rw [← twice, pending_closeTo (kept ▸ higher), kept,
        restored_filter fits under pending leaves.depths]
    -- The lines behind run as well where this line is closed already.
    have early : ∃ last', (mid.closeTo line.depth).runLines outside = .ok last' ∧
        last'.closeTo downTo = last.closeTo downTo := by
      have same := runLines_closeTo mid level fun other same =>
        ⟨indented other (member (.inr (List.mem_of_mem_head? same))), returns other same⟩
      rw [ran] at same
      cases again : (mid.closeTo line.depth).runLines outside with
      | error fault =>
        rw [again] at same
        cases same
      | ok last' =>
        rw [again] at same
        exact ⟨last', rfl, Except.ok.inj same⟩
    obtain ⟨last', ran, same⟩ := early
    obtain ⟨behind, back⟩ := outsideIh (closed ▸ rises) (closed ▸ above)
      (fun other same => .inl (indented other (member (.inr (List.mem_of_mem_head? same)))))
      (fun other found => indented other (member (.inr (List.mem_of_mem_tail found))))
      (fun other found => loud.tail other (member (.inr found)))
      (fun other found => bound other (List.mem_cons_of_mem _ (member (.inr found)))) ran
    rw [Forest.ofLines, within, beyond, ← same]
    refine ⟨.node fits under ?_ written below kept (twice ▸ behind), back.trans closed⟩
    exact fun other found => loud other (List.mem_singleton.mp found ▸ List.mem_cons_self ..)

end Builder

end Stencil

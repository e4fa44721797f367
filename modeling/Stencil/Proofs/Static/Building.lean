import Stencil.Proofs.Static.Entries

/-!
Building the program of a template without code, line by line along its document.
-/

set_option autoImplicit false

namespace Stencil

open Markup Script.Static

namespace Builder

/-- A stack on which indentations and the ends of elements wait above others. -/
inductive Waits (base : List Pending) : List Pending → List Element → Prop where
  | base : Waits base base []
  | indent {pending : List Pending} {opened : List Element} (depth : Nat)
      (below : Waits base pending opened) : Waits base (.indent depth :: pending) opened
  | element {pending : List Pending} {opened : List Element} (one : Element)
      (below : Waits base pending opened) :
      Waits base (.endTag one.depth (Fragment.literalBody one.stop) :: pending) (one :: opened)

structure Builds (base : List Pending) (names : List Text) (builder : Builder)
    (opened : List Element) (texts : List Text) : Prop where
  puts : Puts builder.body.reverse texts
  waits : Waits base builder.pending opened
  rises : Rises builder.pending
  names : builder.names = names

variable {base pending : List Pending} {names : List Text} {builder next : Builder}
  {opened : List Element} {texts : List Text}

/-! ### Closing -/

theorem Waits.depths (waits : Waits base pending opened) :
    ∀ one ∈ opened, ∃ top ∈ pending, top.depth = one.depth := by
  induction waits with
  | base => simp
  | indent depth below ih =>
    intro one member
    obtain ⟨top, inside, same⟩ := ih one member
    exact ⟨top, List.mem_cons_of_mem _ inside, same⟩
  | element first below ih =>
    intro one member
    rcases List.mem_cons.mp member with rfl | member
    · exact ⟨_, List.mem_cons_self .., rfl⟩
    · obtain ⟨top, inside, same⟩ := ih one member
      exact ⟨top, List.mem_cons_of_mem _ inside, same⟩

theorem Waits.above {top : Pending} {downTo : Nat} (waits : Waits base (top :: pending) opened)
    (rises : Rises (top :: pending)) (shallow : top.depth < downTo) :
    ∀ one ∈ opened, one.depth < downTo := by
  intro one member
  obtain ⟨other, inside, same⟩ := waits.depths one member
  rcases List.mem_cons.mp inside with rfl | inside
  · omega
  · have order := (List.pairwise_cons.mp rises).1 other inside
    omega

/-- Nothing is closed where everything lies less deep. -/
theorem builds_below {downTo : Nat} (waits : Waits base pending opened) (rises : Rises pending)
    (puts : Puts builder.body.reverse texts) (same : builder.names = names)
    (shallow : ∀ one ∈ opened, one.depth < downTo) :
    Builds base names { builder with pending := pending }
      (opened.filter fun element => element.depth < downTo)
      (texts ++ (opened.filter fun element => downTo ≤ element.depth).map Element.closing) := by
  have kept : (opened.filter fun element => element.depth < downTo) = opened :=
    List.filter_eq_self.mpr fun one member => decide_eq_true (shallow one member)
  have closed : (opened.filter fun element => downTo ≤ element.depth) = [] :=
    List.filter_eq_nil_iff.mpr fun one member => by
      have bound := shallow one member
      simp only [decide_eq_true_eq]
      omega
  rw [kept, closed, List.map_nil, List.append_nil]
  exact ⟨puts, waits, rises, same⟩

theorem closeStack_shallow {downTo : Nat} (shallow : ∀ top ∈ pending, top.depth < downTo)
    (builder : Builder) :
    closeStack downTo pending builder = { builder with pending := pending } := by
  cases pending with
  | nil => rfl
  | cons top rest =>
    have above := Nat.not_le.mpr (shallow top (List.mem_cons_self ..))
    rw [closeStack, if_neg above]

theorem puts_endTag (one : Element) (puts : Puts builder.body.reverse texts) :
    Puts (builder.closeTop pending (.endTag one.depth (Fragment.literalBody one.stop))).body.reverse
      (texts ++ [one.closing]) := by
  rw [closeTop, List.reverse_cons]
  exact puts.append (Puts.piece ⟨false, one.stop⟩ one.depth)

/-- Elements are closed from the innermost on, as far as they are so deep. -/
theorem closeStack_builds {downTo : Nat} (waits : Waits base pending opened) (rises : Rises pending)
    (shallow : ∀ top ∈ base, top.depth < downTo) (puts : Puts builder.body.reverse texts)
    (same : builder.names = names) :
    Builds base names (closeStack downTo pending builder)
      (opened.filter fun element => element.depth < downTo)
      (texts ++ (opened.filter fun element => downTo ≤ element.depth).map Element.closing) := by
  induction waits generalizing builder texts with
  | base =>
    rw [closeStack_shallow shallow, List.filter_nil, List.filter_nil, List.map_nil, List.append_nil]
    exact ⟨puts, .base, rises, same⟩
  | indent depth below ih =>
    rw [closeStack]
    by_cases deep : downTo ≤ depth
    next =>
      simp only [Pending.depth, deep, if_true, closeTop]
      exact ih (List.pairwise_cons.mp rises).2 puts same
    next =>
      have waits := Waits.indent depth below
      simp only [Pending.depth, deep, if_false]
      exact builds_below waits rises puts same (waits.above rises (Nat.lt_of_not_le deep))
  | @element pending opened one below ih =>
    rw [closeStack]
    by_cases deep : downTo ≤ one.depth
    next =>
      have kept : ¬ one.depth < downTo := by omega
      simp only [Pending.depth, deep, if_true, List.filter_cons, kept, decide_false, decide_true,
        Bool.false_eq_true, if_false, List.map_cons]
      rw [List.append_cons]
      exact ih (List.pairwise_cons.mp rises).2 (puts_endTag one puts) same
    next =>
      have waits := Waits.element one below
      simp only [Pending.depth, deep, if_false]
      exact builds_below waits rises puts same (waits.above rises (Nat.lt_of_not_le deep))

theorem Builds.closeTo (builds : Builds base names builder opened texts) {downTo : Nat}
    (shallow : ∀ top ∈ base, top.depth < downTo) :
    Builds base names (builder.closeTo downTo)
      (opened.filter fun element => element.depth < downTo)
      (texts ++ (opened.filter fun element => downTo ≤ element.depth).map Element.closing) :=
  closeStack_builds builds.waits builds.rises shallow builds.puts builds.names

/-- At the end everything is closed, and then what it stands on. -/
theorem Builds.closeAll (builds : Builds base names builder opened texts) :
    ∃ last, builder.closeTo 0 = closeStack 0 base last ∧ last.names = names ∧
      Puts last.body.reverse (texts ++ opened.map Element.closing) := by
  have all : ∀ {pending : List Pending} {opened : List Element} {builder : Builder}
      {texts : List Text}, Waits base pending opened → Puts builder.body.reverse texts →
        builder.names = names →
      ∃ last, closeStack 0 pending builder = closeStack 0 base last ∧ last.names = names ∧
        Puts last.body.reverse (texts ++ opened.map Element.closing) := by
    intro pending opened builder texts waits puts same
    induction waits generalizing builder texts with
    | base => exact ⟨builder, rfl, same, by rwa [List.map_nil, List.append_nil]⟩
    | indent depth below ih =>
      rw [closeStack, if_pos (Nat.zero_le _)]
      exact ih puts same
    | element one below ih =>
      rw [closeStack, if_pos (Nat.zero_le _), List.map_cons, List.append_cons]
      exact ih (puts_endTag one puts) same
  exact all builds.waits builds.puts builds.names

/-! ### Lines -/

variable {line : Markup.Line}

theorem Builds.enter (builds : Builds base names builder opened texts) (fits : builder.Fits line)
    (deep : ∀ top ∈ base, top.depth < line.depth) :
    Builds base names (builder.enter line) (opened.filter fun element => element.depth < line.depth)
      (texts ++ (opened.filter fun element => line.depth ≤ element.depth).map
        Element.closing) := by
  have rises := (rises_enter builds.rises fits).1
  cases same : line.indent with
  | none =>
    rcases fits with indented | ⟨empty, _⟩
    · simp [same] at indented
    · have waits := builds.waits
      rw [empty] at waits
      cases waits
      rw [Builder.enter, same]
      rw [List.filter_nil, List.filter_nil, List.map_nil, List.append_nil]
      exact builds
  | some token =>
    have depth : line.depth = token.val.content.length := by simp [Markup.Line.depth, same]
    rw [Builder.enter, same] at rises ⊢
    rw [depth]
    have closed := builds.closeTo (depth ▸ deep)
    exact ⟨closed.puts, .indent _ closed.waits, rises, closed.names⟩

variable {head : Head} {matter : Matter} {deeper : Bool}

theorem comment_literal (note : Token) :
    comment note = .output .safe
      (Fragment.literalBody ("<!-- ".toList ++ note.content ++ " -->".toList)) := by
  have start : Fragment.literalBody "<!-- ".toList = "<!-- ".toList := rfl
  have stop : Fragment.literalBody " -->".toList = " -->".toList := rfl
  rw [comment, Fragment.literalBody_append, Fragment.literalBody_append, start, stop]

theorem content_static (plain : ∀ token ∈ matter.tokens, Plain token) (deeper : Bool) :
    matter.content deeper =
      (matter.piece?.map fun piece => Content.output piece.kind piece.body).getD .absent := by
  cases matter with
  | absent => rfl
  | text words => rfl
  | code sign expression =>
    exact absurd expression.kind_eq (plain _ (by simp [Matter.tokens])).noCode
  | silent sign statement =>
    exact absurd statement.kind_eq (plain _ (by simp [Matter.tokens])).noCode
  | comment sign note => exact comment_literal note.val

theorem Builds.emit (builds : Builds base names builder opened texts) {statement : Statement}
    {text : Text} (puts : Puts [statement] [text]) :
    Builds base names (builder.emit statement) opened (texts ++ [text]) := by
  refine ⟨?_, builds.waits, builds.rises, builds.names⟩
  rw [Builder.emit, List.reverse_cons]
  exact builds.puts.append puts

theorem Builds.add (builds : Builds base names builder opened texts)
    (plain : ∀ token ∈ matter.tokens, Plain token)
    (added : builder.add (matter.content deeper) = .ok next) :
    Builds base names next opened
      (texts ++ matter.shown?.toList.map (Text.spaces builder.depth ++ ·)) := by
  rw [content_static plain] at added
  rw [matter.shown?_eq]
  cases same : matter.piece? with
  | none =>
    rw [same] at added
    cases added
    simpa using builds
  | some piece =>
    rw [same] at added
    cases added
    exact builds.emit (Puts.piece piece builder.depth)

theorem Builds.openTag (builds : Builds base names builder opened texts)
    (plain : ∀ token ∈ head.tokens, Plain token)
    (shallow : ∀ one ∈ builder.pending, one.depth ≤ builder.depth) :
    Builds base names (builder.openTag head.text) (⟨builder.depth, head.stop⟩ :: opened)
      (texts ++ [Text.spaces builder.depth ++ head.start]) := by
  have started := builds.emit (Puts.piece ⟨false, head.start⟩ builder.depth)
  refine ⟨?_, ?_, List.pairwise_cons.mpr ⟨shallow, builds.rises⟩, builds.names⟩
  · rw [Builder.openTag, emitLine, Head.text_start plain]
    exact started.puts
  · rw [Builder.openTag, Head.text_stop plain]
    exact .element ⟨builder.depth, head.stop⟩ builds.waits

/-- A tag with nothing open behind it is one entry with its content. -/
theorem Builds.closed (builds : Builds base names builder opened texts)
    (tag : ∀ token ∈ head.tokens, Plain token) (plain : ∀ token ∈ matter.tokens, Plain token)
    (written : builder.write false (some head) matter = .ok next) :
    Builds base names next opened (texts ++
      [Text.spaces builder.depth ++ head.start ++ matter.shown?.getD [] ++ head.stop]) := by
  unfold Builder.write at written
  rw [content_static plain] at written
  rw [matter.shown?_eq]
  cases same : matter.piece? with
  | none =>
    rw [same] at written
    cases written
    rw [Head.text_start tag, Head.text_stop tag, ← Fragment.literalBody_append]
    have puts := Puts.piece ⟨false, head.start ++ head.stop⟩ builder.depth
    have shape : Text.spaces builder.depth ++ head.start ++ ((none : Option Piece).map
        Piece.shown).getD [] ++ head.stop =
          Text.spaces builder.depth ++ (Piece.mk false (head.start ++ head.stop)).shown := by
      simp [Piece.shown]
    rw [shape]
    exact builds.emit puts
  | some piece =>
    rw [same] at written
    cases written
    exact builds.emit (Puts.fused piece builder.depth (Head.text_start tag) (Head.text_stop tag))

theorem write_deeper (builder : Builder) (head : Head) (matter : Matter) :
    builder.write true (some head) matter =
      (builder.openTag head.text).add (matter.content true) := by
  unfold write
  cases matter.content true <;> rfl

theorem Builds.write {head : Option Head} (builds : Builds base names builder opened texts)
    (plain : ∀ token ∈ (Form.entry head matter).tokens, Plain token)
    (shallow : ∀ one ∈ builder.pending, one.depth ≤ builder.depth)
    (depth : builder.depth = line.depth) (form : line.form = .entry head matter)
    (written : builder.write deeper head matter = .ok next) :
    Builds base names next (line.left deeper ++ opened) (texts ++ line.texts deeper) := by
  rw [Markup.Line.left, Markup.Line.texts, form, ← depth]
  simp only [Form.tokens, List.mem_append] at plain
  have content : ∀ token ∈ matter.tokens, Plain token := fun token member =>
    plain token (.inr member)
  cases head with
  | none => exact builds.add content written
  | some head =>
    have tag : ∀ token ∈ head.tokens, Plain token := fun token member =>
      plain token (.inl (by simpa using member))
    cases deeper with
    | false => exact builds.closed tag content written
    | true =>
      rw [write_deeper] at written
      have added := (builds.openTag tag shallow).add content written
      simp only [if_true]
      rw [List.append_cons]
      exact added

theorem Builds.writeLine (builds : Builds base names builder opened texts) (fits : builder.Fits line)
    (deep : ∀ top ∈ base, top.depth < line.depth) (plain : ∀ token ∈ line.tokens, Plain token)
    (written : builder.writeLine deeper line = .ok next) :
    Builds base names next
      (line.left deeper ++ opened.filter fun element => element.depth < line.depth)
      (texts ++ (opened.filter fun element => line.depth ≤ element.depth).map Element.closing ++
        line.texts deeper) := by
  have entered := builds.enter fits deep
  have shallow := (rises_enter builds.rises fits).2
  have depth := depth_enter fits
  rw [← depth] at shallow
  rw [Builder.writeLine] at written
  split at written
  next => cases written
  next head matter form =>
    have inside : ∀ token ∈ (Form.entry head matter).tokens, Plain token := fun token member =>
      plain token (List.mem_append_right _ (form ▸ member))
    exact entered.write inside shallow depth form written

/-- Lines put out their document, once everything is closed behind them. -/
theorem Builds.runLines {last : Builder} {lines : List Markup.Line}
    (builds : Builds base names builder opened texts)
    (starts : ∀ line ∈ lines.head?, builder.Starts line) (indented : Indented lines.tail)
    (deep : ∀ line ∈ lines, ∀ top ∈ base, top.depth < line.depth)
    (plain : ∀ token ∈ lines.flatMap Markup.Line.tokens, Plain token)
    (ran : builder.runLines lines = .ok last) :
    ∃ closed, last.closeTo 0 = closeStack 0 base closed ∧ closed.names = names ∧
      Puts closed.body.reverse (texts ++ document opened lines) := by
  induction lines generalizing builder opened texts with
  | nil =>
    cases ran
    exact builds.closeAll
  | cons line rest ih =>
    obtain ⟨next, written, ran⟩ := Outcome.bind_eq_ok.mp ran
    rw [List.flatMap_cons] at plain
    have added := builds.writeLine (starts line rfl).1 (deep line (List.mem_cons_self ..))
      (fun token member => plain token (List.mem_append_left _ member)) written
    have finished := ih added
      (fun first same => starts_of_indented next (indented first (List.mem_of_mem_head? same)))
      (fun other member => indented other (List.mem_of_mem_tail member))
      (fun other member => deep other (List.mem_cons_of_mem _ member))
      (fun token member => plain token (List.mem_append_right _ member)) ran
    rw [document, ← List.append_assoc, ← List.append_assoc]
    exact finished

end Builder

end Stencil

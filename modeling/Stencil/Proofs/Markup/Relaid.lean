import Mathlib.Data.List.Forall2
import Stencil.Proofs.Builder.Program
import Stencil.Proofs.Turn.Recast
import Stencil.Proofs.Markup.Trailing

/-!
Sources that are laid out with other blanks: blank lines between lines, and spaces and tabs at the
ends of lines. Such sources compile to the same program, or fail alike but for the number of the line.
-/

set_option autoImplicit false

namespace Stencil

/-! ### Lines -/

namespace Text

def trimIndent (text : Text) : Text := dropRightWhile isIndent text

theorem trimIndent_split (text : Text) : ∃ tail, text = trimIndent text ++ tail ∧ Indents tail := by
  refine ⟨(text.reverse.takeWhile isIndent).reverse, ?_, fun c member => ?_⟩
  · rw [trimIndent, dropRightWhile, ← List.reverse_append, List.takeWhile_append_dropWhile,
      List.reverse_reverse]
  · exact List.all_eq_true.mp List.all_takeWhile c (List.mem_reverse.mp member)

theorem allBlank_trailed {tail : Text} (indents : Indents tail) (text : Text) :
    allBlank (text ++ tail) = allBlank text := by
  have blank : tail.all isBlank = true :=
    List.all_eq_true.mpr fun c member => isBlank_of_isIndent (indents c member)
  rw [allBlank, List.all_append, blank, Bool.and_true, allBlank]

theorem allBlank_trimIndent (text : Text) : allBlank (trimIndent text) = allBlank text := by
  obtain ⟨tail, same, indents⟩ := trimIndent_split text
  conv => rhs; rw [same, allBlank_trailed indents]

theorem allBlank_of_indents {text : Text} (indents : Indents text) : allBlank text = true :=
  List.all_eq_true.mpr fun c member => isBlank_of_isIndent (indents c member)

/-- Lines of which some have other blanks at their ends, and between which blank lines are put in and
left out. -/
inductive Relaid : List Line → List Line → Prop where
  | nil : Relaid [] []
  | keep {line other : Line} {lines others : List Line}
      (same : trimIndent line.body = trimIndent other.body) (rest : Relaid lines others) :
      Relaid (line :: lines) (other :: others)
  | insert {blank : Line} {lines others : List Line} (indents : Indents blank.body)
      (rest : Relaid lines others) : Relaid lines (blank :: others)
  | delete {blank : Line} {lines others : List Line} (indents : Indents blank.body)
      (rest : Relaid lines others) : Relaid (blank :: lines) others

/-- What lines say, blank lines and the blanks at the ends of lines apart. -/
def bodies (found : List Line) : List Text :=
  (found.map fun line => trimIndent line.body).filter (!List.isEmpty ·)

theorem indents_iff {text : Text} : Indents text ↔ trimIndent text = [] := by
  constructor
  · intro indents
    have dropped : (text.reverse.dropWhile isIndent) = [] :=
      List.dropWhile_eq_nil_iff.mpr fun c member => indents c (List.mem_reverse.mp member)
    rw [trimIndent, dropRightWhile, dropped, List.reverse_nil]
  · intro empty
    obtain ⟨tail, same, indents⟩ := trimIndent_split text
    rw [same, empty]
    exact indents

theorem bodies_blank {line : Line} (blank : Indents line.body) (rest : List Line) :
    bodies (line :: rest) = bodies rest := by
  simp [bodies, indents_iff.mp blank]

theorem bodies_present {line : Line} (present : ¬Indents line.body) (rest : List Line) :
    bodies (line :: rest) = trimIndent line.body :: bodies rest := by
  have more : trimIndent line.body ≠ [] := fun empty => present (indents_iff.mpr empty)
  simp [bodies, more]

theorem Relaid.bodies_eq {lines others : List Line} (relaid : Relaid lines others) :
    bodies lines = bodies others := by
  induction relaid with
  | nil => rfl
  | @keep line other lines others same rest ih =>
    by_cases blank : Indents line.body
    next =>
      have also : Indents other.body := indents_iff.mpr (same ▸ indents_iff.mp blank)
      rw [bodies_blank blank, bodies_blank also, ih]
    next =>
      have also : ¬Indents other.body := fun empty =>
        blank (indents_iff.mpr (same.trans (indents_iff.mp empty)))
      rw [bodies_present blank, bodies_present also, same, ih]
  | insert indents rest ih => rw [bodies_blank indents, ih]
  | delete indents rest ih => rw [bodies_blank indents, ih]

/-- Lines are laid out with other blanks if and only if they say the same. -/
theorem relaid_iff {found others : List Line} : Relaid found others ↔ bodies found = bodies others := by
  refine ⟨Relaid.bodies_eq, fun same => ?_⟩
  induction found generalizing others with
  | nil =>
    induction others with
    | nil => exact .nil
    | cons other others ih =>
      by_cases blank : Indents other.body
      next => exact .insert blank (ih (bodies_blank blank others ▸ same))
      next =>
        rw [bodies_present blank] at same
        cases same
  | cons line found ih =>
    by_cases empty : Indents line.body
    next => exact .delete empty (ih (bodies_blank empty found ▸ same))
    next =>
      rw [bodies_present empty] at same
      induction others with
      | nil => cases same
      | cons other others later =>
        by_cases blank : Indents other.body
        next => exact .insert blank (later (bodies_blank blank others ▸ same))
        next =>
          rw [bodies_present blank] at same
          obtain ⟨first, rest⟩ := List.cons.inj same
          exact .keep first (ih rest)

instance (found others : List Line) : Decidable (Relaid found others) :=
  decidable_of_iff _ relaid_iff.symm

/-- Whether every boundary in the text is a line feed, a carriage return or both in a row. -/
def Feeds (text : Text) : Prop :=
  ∀ line ∈ lines text, line.ending.all (fun c => c == '\n' || c == '\r') = true

instance (text : Text) : Decidable (Feeds text) :=
  List.decidableBAll _ (lines text)

end Text

open Text (Relaid Feeds Indents trimIndent)

namespace Markup

/-- Rows that are the same but for where they stand and the blanks at their ends. -/
structure Row.Like (row other : Row) : Prop where
  text : trimIndent row.text = trimIndent other.text
  present : Text.allBlank row.text = false

theorem rowsFrom_relaid {lines others : List Text.Line} (relaid : Relaid lines others)
    (feeds : ∀ line ∈ lines, line.ending.all (fun c => c == '\n' || c == '\r') = true)
    (also : ∀ line ∈ others, line.ending.all (fun c => c == '\n' || c == '\r') = true)
    (number offset count place : Nat) :
    List.Forall₂ Row.Like (rowsFrom number offset lines) (rowsFrom count place others) := by
  induction relaid generalizing number offset count place with
  | nil => exact .nil
  | @keep line other lines others same rest ih =>
    obtain ⟨here, feeds⟩ := List.forall_mem_cons.mp feeds
    obtain ⟨there, also⟩ := List.forall_mem_cons.mp also
    have later := ih feeds also (number + 1) (offset + line.whole.length) (count + 1)
      (place + other.whole.length)
    have blank : Text.allBlank line.body = Text.allBlank other.body := by
      rw [← Text.allBlank_trimIndent, same, Text.allBlank_trimIndent]
    rw [rowsFrom, rowsFrom, Lexer.content, Lexer.content, if_pos here, if_pos there, ← blank]
    cases present : Text.allBlank line.body with
    | true => exact later
    | false => exact .cons ⟨same, present⟩ later
  | @insert line lines others indents rest ih =>
    obtain ⟨there, also⟩ := List.forall_mem_cons.mp also
    rw [rowsFrom, Lexer.content, if_pos there, Text.allBlank_of_indents indents]
    exact ih feeds also ..
  | @delete line lines others indents rest ih =>
    obtain ⟨here, feeds⟩ := List.forall_mem_cons.mp feeds
    rw [rowsFrom, Lexer.content, if_pos here, Text.allBlank_of_indents indents]
    exact ih feeds also ..

end Markup

/-! ### Tokens -/

/-- The token without its line and its offset and, where it is the rest of a line and there is none,
without its column. -/
def Token.settled (token : Token) : Token :=
  { token with
    line := 0
    offset := 0
    column :=
      if (token.kind = .expression ∨ token.kind = .comment) ∧ token.content = [] then 0
      else token.column }

/-- The error in another line. -/
def CompileError.onLine (line : Nat) : CompileError → CompileError
  | invalidSyntax fault _ column => invalidSyntax fault line column
  | unexpectedDocType token => unexpectedDocType { token with line := line }
  | unexpectedToken token => unexpectedToken { token with line := line }
  | expectedOther token expected => expectedOther { token with line := line } expected
  | other => other

/-- Errors that are told in the same words, but for the number of the line. -/
structure CompileError.Alike (error other : CompileError) : Prop where
  same : ∀ line, (error.onLine line).unplaced = (other.onLine line).unplaced
  message : ∀ line, (error.onLine line).message? = (other.onLine line).message?

namespace CompileError

theorem Alike.of_zero {error other : CompileError}
    (same : (error.onLine 0).unplaced = (other.onLine 0).unplaced) : error.Alike other := by
  have moved (error : CompileError) (line : Nat) :
      ((error.onLine 0).unplaced).onLine line = (error.onLine line).unplaced := by
    cases error <;> rfl
  have every (line : Nat) : (error.onLine line).unplaced = (other.onLine line).unplaced := by
    rw [← moved error, same, moved]
  refine ⟨every, fun line => ?_⟩
  rw [← message?_unplaced, every, message?_unplaced]

/-- What is settled in a document type is its line and its offset. -/
theorem onLine_recast {error : CompileError} (blames : ∀ token, error.token? = some token →
    token.kind = .docTypeIdentifier ∨ token.kind = .docType) :
    (error.recast Token.settled).onLine 0 = (error.onLine 0).unplaced := by
  have placed {token : Token} (told : error.token? = some token) :
      token.settled = { token with line := 0, offset := 0 } := by
    rcases blames token told with kind | kind <;> simp [Token.settled, kind]
  cases error with
  | unexpectedDocType token => simp [recast, onLine, unplaced, Token.unplaced, placed rfl]
  | unexpectedToken token => simp [recast, onLine, unplaced, Token.unplaced, placed rfl]
  | expectedOther token expected => simp [recast, onLine, unplaced, Token.unplaced, placed rfl]
  | _ => rfl

end CompileError

namespace Lexer

def settledTokens (outcome : Except CompileError (List Token)) : Except CompileError (List Token) :=
  (outcome.map (List.map Token.settled)).mapError (CompileError.onLine 0)

theorem settled_at (piece : Piece) (number offset count place : Nat) :
    (piece.at number offset).settled = (piece.settled.at count place).settled := by
  by_cases bare : (piece.kind = .expression ∨ piece.kind = .comment) ∧ piece.content = []
  next => simp [Piece.settled, Piece.at, Token.settled, bare]
  next => rw [Piece.settled, if_neg bare, Piece.at, Piece.at, Token.settled, Token.settled]

/-- What is left out of the first line does not depend on places. -/
theorem shown_settled (first : Bool) (found : List Piece) :
    shown first (found.map Piece.settled) = (shown first found).map Piece.settled := by
  cases found with
  | nil => rfl
  | cons indent more =>
    have content : indent.settled.content = indent.content := by
      rw [Piece.settled]
      split <;> rfl
    rw [List.map_cons, shown, shown, content]
    split <;> rfl

/-- Settled pieces have settled tokens. -/
theorem settledTokens_place (number offset : Nat) (first : Bool) (text : Text) :
    settledTokens (place number offset first text) =
      match settledAll (pieces text) with
      | .ok found => .ok ((shown first found).map fun piece => (piece.at 0 0).settled)
      | .error fault => .error (.invalidSyntax fault.cause 0 (fault.column + 1)) := by
  rw [place]
  cases pieces text with
  | error fault => rfl
  | ok found =>
    have each : (shown first found).map (fun piece => (piece.at number offset).settled) =
        (shown first (found.map Piece.settled)).map fun piece => (piece.at 0 0).settled := by
      rw [shown_settled, List.map_map]
      exact List.map_congr_left fun piece _ => settled_at piece number offset 0 0
    simp only [settledTokens, settledAll, Except.map, Except.mapError, List.map_map, ← each]
    rfl

theorem pieces_trimIndent {text : Text} (present : Text.allBlank text = false) :
    settledAll (pieces text) = settledAll (pieces (trimIndent text)) := by
  obtain ⟨tail, same, indents⟩ := Text.trimIndent_split text
  have more : ¬Indents (trimIndent text) := by
    intro blank
    rw [← Text.allBlank_trimIndent, Text.allBlank_of_indents blank] at present
    cases present
  conv => lhs; rw [same, pieces_trailed indents more]

theorem place_like {row other : Markup.Row} (like : row.Like other) (first : Bool) :
    settledTokens (place row.number row.offset first row.text) =
      settledTokens (place other.number other.offset first other.text) := by
  have present : Text.allBlank other.text = false := by
    rw [← Text.allBlank_trimIndent, ← like.text, Text.allBlank_trimIndent, like.present]
  rw [settledTokens_place, settledTokens_place, pieces_trimIndent like.present,
    pieces_trimIndent present, like.text]

theorem settledTokens_append (first others : Except CompileError (List Token)) :
    settledTokens (do return (← first) ++ (← others)) =
      (do return (← settledTokens first) ++ (← settledTokens others)) := by
  cases first with
  | error error => rfl
  | ok tokens =>
    cases others with
    | error error => rfl
    | ok more => exact congrArg Except.ok List.map_append

theorem lexRows_like {rows others : List Markup.Row} (like : List.Forall₂ Markup.Row.Like rows others)
    (first : Bool) :
    settledTokens (Markup.lexRows first rows) = settledTokens (Markup.lexRows first others) := by
  induction like generalizing first with
  | nil => rfl
  | cons one _ ih =>
    rw [Markup.lexRows, Markup.lexRows]
    simp only [settledTokens_append, place_like one first, ih false]

theorem lex_relaid {source other : Text} (feeds : Feeds source) (also : Feeds other)
    (relaid : Relaid (Text.lines source) (Text.lines other)) :
    settledTokens (lex source) = settledTokens (lex other) := by
  rw [Markup.lex_eq, Markup.lex_eq]
  exact lexRows_like (Markup.rowsFrom_relaid relaid feeds also 1 0 1 0) true

end Lexer

/-! ### Programs -/

namespace Builder

theorem untold_of_add {builder : Builder} {content : Content} {error : CompileError}
    (failed : builder.add content = .error error) : error.token? = none := by
  have same := add_alongside (deepens_refl builder) rfl content
  rw [failed] at same
  cases same with
  | error untold => exact untold

theorem untold_of_write {builder : Builder} {deeper : Bool} {head : Option Markup.Head}
    {matter : Markup.Matter} {error : CompileError}
    (failed : builder.write deeper head matter = .error error) : error.token? = none := by
  unfold write at failed
  split at failed
  next => exact untold_of_add failed
  next =>
    split at failed
    next => cases failed
    next => cases failed
    next => exact untold_of_add failed

end Builder

namespace Program

/-- Of the lines of a source only a document type is ever to blame. -/
theorem blames_docType {lines : List Markup.Line} {contextType : Text} {error : CompileError}
    {token : Token} (failed : ofLines lines contextType = .error error)
    (told : error.token? = some token) :
    token.kind = .docTypeIdentifier ∨ token.kind = .docType := by
  have run : ∀ (lines : List Markup.Line) (builder : Builder),
      builder.runLines lines = .error error → token.kind = .docTypeIdentifier := by
    intro lines
    induction lines with
    | nil => exact fun builder failed => nomatch failed
    | cons line rest ih =>
      intro builder failed
      rcases Outcome.bind_eq_error.mp failed with here | ⟨next, _, later⟩
      · unfold Builder.writeLine at here
        split at here
        next sign _ _ =>
          cases here
          cases told
          exact sign.kind_eq
        next =>
          rw [Builder.untold_of_write here] at told
          cases told
      · exact ih next later
  rcases Outcome.bind_eq_error.mp failed with opening | ⟨⟨builder, rest⟩, _, failed⟩
  · unfold Builder.opening at opening
    split at opening
    next sign type _ =>
      split at opening
      next => cases opening
      next =>
        cases opening
        cases told
        cases type with
        | none => exact .inl sign.kind_eq
        | some type => exact .inr type.kind_eq
    next => cases opening
  · rcases Outcome.bind_eq_error.mp failed with failed | ⟨_, _, failed⟩
    · exact .inl (run rest builder failed)
    · cases failed

theorem blames_of_lexed {source contextType : Text} {tokens : List Token} {error : CompileError}
    (lexed : Lexer.lex source = .ok tokens)
    (failed : ofTokens tokens contextType = .error error) :
    ∀ token, error.token? = some token → token.kind = .docTypeIdentifier ∨ token.kind = .docType := by
  obtain ⟨lines, _, _, built⟩ := ofSource_lines lexed contextType
  rw [ofSource, lexed, Outcome.ok_bind, failed] at built
  exact fun token => blames_docType built.symm

/-- Blank lines and the blanks at the ends of lines do not matter: the program is the same, or the
error is but for its line. -/
theorem blank_layout_is_insignificant {source other : Text} (feeds : Feeds source)
    (also : Feeds other) (relaid : Relaid (Text.lines source) (Text.lines other))
    (contextType : Text) :
    (∃ program, ofSource source contextType = .ok program ∧
      ofSource other contextType = .ok program) ∨
    ∃ error fault, ofSource source contextType = .error error ∧
      ofSource other contextType = .error fault ∧ error.Alike fault := by
  rcases Outcome.alike_of_map (Lexer.lex_relaid feeds also relaid) with
    ⟨tokens, others, lexed, read, same⟩ | ⟨error, fault, lexed, read, same⟩
  · have recasts : Builder.Recasts id Token.settled :=
      Builder.recasts_places (fun _ => rfl) fun _ => rfl
    have one := ofTokens_recast recasts tokens contextType
    rw [same, ofTokens_recast recasts others contextType] at one
    rw [ofSource, ofSource, lexed, read, Outcome.ok_bind, Outcome.ok_bind]
    rcases Outcome.alike_of_map one.symm with
      ⟨program, next, first, second, rfl⟩ | ⟨error, fault, first, second, told⟩
    · exact .inl ⟨program, first, second⟩
    · have blames := CompileError.onLine_recast (blames_of_lexed lexed first)
      rw [told, CompileError.onLine_recast (blames_of_lexed read second)] at blames
      exact .inr ⟨error, fault, first, second, .of_zero blames.symm⟩
  · refine .inr ⟨error, fault, ?_, ?_, .of_zero (congrArg CompileError.unplaced same)⟩
    · rw [ofSource, lexed, Outcome.error_bind]
    · rw [ofSource, read, Outcome.error_bind]

/-- A tag with an item, and code behind it. -/
def laidSource : Text := "%ul\n  %li a\n= self.x".toList

def relaidSource : Text := " \n%ul\t\n\n  %li a  \r\n\t\n= self.x \n ".toList

/-- A document type that is not known. -/
def refusedSource : Text := "!!! 7\n%p".toList

def relaidRefusedSource : Text := "\n\t\n!!! 7 \r%p".toList

theorem blank_layout_is_insignificant_lines :
    (∃ program, ofSource laidSource "T".toList = .ok program ∧
      ofSource relaidSource "T".toList = .ok program) ∧
    ∃ error fault, ofSource refusedSource "T".toList = .error error ∧
      ofSource relaidRefusedSource "T".toList = .error fault ∧ error.Alike fault := by
  have compiles : (ofSource laidSource "T".toList).toOption.isSome = true := by decide +kernel
  have fails : (ofSource refusedSource "T".toList).toOption.isSome = false := by decide +kernel
  constructor
  · rcases blank_layout_is_insignificant (by decide +kernel : Feeds laidSource)
      (by decide +kernel : Feeds relaidSource) (by decide +kernel) "T".toList with
      found | ⟨error, _, failed, _⟩
    · exact found
    · rw [failed] at compiles
      cases compiles
  · rcases blank_layout_is_insignificant (by decide +kernel : Feeds refusedSource)
      (by decide +kernel : Feeds relaidRefusedSource) (by decide +kernel) "T".toList with
      ⟨program, found, _⟩ | failed
    · rw [found] at fails
      cases fails
    · exact failed

end Program

end Stencil

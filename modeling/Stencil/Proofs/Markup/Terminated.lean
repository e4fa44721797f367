import Stencil.Proofs.Markup.Boundary
import Stencil.Proofs.Markup.Tiling
import Stencil.Proofs.Text.Endings

/-!
Sources whose lines end in different boundaries. With a line feed for every boundary a source has
the same lines, and each line but a tag without content is read as before.
-/

set_option autoImplicit false

namespace Stencil

namespace Text

/-- Turns every boundary into a line feed. -/
def fed : Text → Text
  | [] => []
  | '\r' :: '\n' :: rest => '\n' :: fed rest
  | c :: rest => (if isBoundary c then '\n' else c) :: fed rest

def Line.fed (line : Line) : Line := ⟨line.body, if line.ending = [] then [] else ['\n']⟩

theorem extend_fed (c : Char) (found : List Line) :
    (Line.extend c found).map Line.fed = Line.extend c (found.map Line.fed) := by
  cases found <;> rfl

theorem lines_fed (text : Text) : lines (fed text) = (lines text).map Line.fed := by
  fun_induction lines text with
  | case1 => rfl
  | case2 rest ih =>
    rw [fed, lines_boundary (by decide) (by decide), ih]
    rfl
  | case3 c rest single boundary ih =>
    rw [fed, if_pos boundary, lines_boundary (by decide) (by decide), ih]
    · rfl
    · exact single
  | case4 c rest single inside ih =>
    rw [fed, if_neg inside, lines_inside inside, ih, extend_fed]
    exact single

end Text

namespace Lexer

open Markup (Closes)

variable {line : Text.Line} {lines : List Text.Line} {found : List Piece}

/-! ### Lines -/

/-- A tag without content whose boundary stays in the line. -/
def Spoils (line : Text.Line) : Prop :=
  (∃ c ∈ line.ending, c ≠ '\n' ∧ c ≠ '\r') ∧ (bare? (pieces line.body)).isSome = true

/-- A tag without content that has blanks behind it. -/
def Loose (line : Text.Line) : Prop :=
  ∃ last, bare? (pieces line.body) = some last ∧ last.reach ≠ line.body.length

/-- No boundary is to blame if the line cannot be read. -/
def Fails (line : Text.Line) : Prop := ∃ fault, pieces line.body = .error fault

theorem Spoils.reads (spoils : Spoils line) : ∃ found, pieces line.body = .ok found := by
  cases read : pieces line.body with
  | error fault =>
    have bare := spoils.2
    rw [read] at bare
    cases bare
  | ok found => exact ⟨found, rfl⟩

theorem Spoils.not_fails (spoils : Spoils line) : ¬Fails line := by
  rintro ⟨fault, failed⟩
  obtain ⟨found, read⟩ := spoils.reads
  rw [read] at failed
  cases failed

theorem content_fed (line : Text.Line) : content line.fed = line.body := by
  rw [content]
  split
  next => rfl
  next other =>
    refine absurd ?_ other
    unfold Text.Line.fed
    split <;> rfl

theorem allBlank_content (closes : Closes line.ending) :
    Text.allBlank (content line) = Text.allBlank line.body := by
  obtain ⟨ending, shape, closed⟩ := Markup.content_keeps closes
  have blank : ending.all Text.isBlank = true := List.all_eq_true.mpr closed.blanks
  rw [shape, Text.allBlank, List.all_append, blank, Bool.and_true, Text.allBlank]

/-- The text of a line, as its boundary has it. -/
theorem content_cases (line : Text.Line) :
    content line = line.body ∧ (¬∃ c ∈ line.ending, c ≠ '\n' ∧ c ≠ '\r') ∨
      content line = line.whole ∧ ∃ c ∈ line.ending, c ≠ '\n' ∧ c ≠ '\r' := by
  rw [content]
  split
  next feeds => exact .inl ⟨rfl, by simpa [or_iff_not_imp_left] using feeds⟩
  next other => exact .inr ⟨rfl, by simpa [not_or] using other⟩

theorem pieces_content (closes : Closes line.ending) (kept : ¬Spoils line) :
    pieces (content line) = pieces line.body := by
  rcases content_cases line with ⟨same, _⟩ | ⟨same, stays⟩
  · rw [same]
  rw [same, Text.Line.whole]
  cases ending : line.ending with
  | nil => rw [List.append_nil]
  | cons c more =>
    rw [pieces_boundary (ending ▸ closes)]
    apply spoiled_of_none
    rw [← Option.not_isSome_iff_eq_none]
    exact fun bare => kept ⟨stays, bare⟩

/-- A boundary in the line is an error or, where blanks are in front of it, a text. -/
theorem pieces_spoiled (closes : Closes line.ending) (spoils : Spoils line)
    (read : pieces line.body = .ok found) :
    Loose line ∧
        pieces (content line) = .ok (found ++ [⟨.text, [], line.body.length⟩]) ∨
      ¬Loose line ∧ ∃ c, pieces (content line) =
        .error ⟨.unexpectedCharacter c, line.body.length⟩ := by
  rcases content_cases line with ⟨_, none⟩ | ⟨same, stays⟩
  · exact absurd spoils.1 none
  obtain ⟨last, bare⟩ := Option.isSome_iff_exists.mp spoils.2
  rw [same, Text.Line.whole]
  cases ending : line.ending with
  | nil => simp [ending] at stays
  | cons c more =>
    rw [pieces_boundary (ending ▸ closes), spoiled, bare, read]
    by_cases flush : last.reach = line.body.length
    next =>
      refine .inr ⟨?_, c, if_pos flush⟩
      rintro ⟨other, again, apart⟩
      cases bare.symm.trans again
      exact apart flush
    next => exact .inl ⟨⟨last, bare, flush⟩, if_neg flush⟩

theorem pieces_content_iff (closes : Closes line.ending) :
    pieces (content line) = pieces line.body ↔ ¬Spoils line := by
  refine ⟨fun same spoils => ?_, pieces_content closes⟩
  obtain ⟨found, read⟩ := spoils.reads
  rcases pieces_spoiled closes spoils read with ⟨_, longer⟩ | ⟨_, c, failed⟩
  · rw [longer, read, Except.ok.injEq] at same
    exact absurd same (by simp)
  · rw [failed, read] at same
    cases same

/-- A blank line is read as text, and never in vain. -/
theorem pieces_blank {text : Text} (blank : Text.allBlank text = true) :
    ∃ first last, pieces text = .ok [first, last] ∧ last.kind = .text := by
  let start : Cursor := ⟨0, text⟩
  let cursor := start.skipIndent
  have left : Text.Blanks cursor.rest := fun c member =>
    List.all_eq_true.mp blank c ((List.drop_sublist ..).mem member)
  have words : construct cursor = .ok [cursor.remainder .text] := by
    rw [construct_eq]
    cases shape : cursor.rest with
    | nil => rfl
    | cons c rest =>
      have here : Text.isBlank c = true := (shape ▸ left).of_cons.1
      have plain : ¬"!!!".toList.isPrefixOf (c :: rest) = true := by
        intro starts
        have first := ((isDocType_iff _).mp starts).1
        rw [List.head?_cons, Option.some.injEq] at first
        subst first
        cases here
      rw [if_neg plain, List.head?_cons, signed_blank here]
  refine ⟨start.piece .whiteSpace (text.takeWhile Text.isIndent).length,
    cursor.remainder .text, ?_, rfl⟩
  exact congrArg (· >>= fun found => pure (_ :: found)) words

theorem not_spoils_of_blank (blank : Text.allBlank line.body = true) : ¬Spoils line := by
  obtain ⟨first, last, read, kind⟩ := pieces_blank blank
  rintro ⟨_, bare⟩
  rw [read] at bare
  simp [bare?, Option.filter_some, kind, Builder.attributeValueKinds] at bare

theorem not_fails_of_blank (blank : Text.allBlank line.body = true) : ¬Fails line := by
  obtain ⟨first, last, read, _⟩ := pieces_blank blank
  rintro ⟨fault, failed⟩
  rw [read] at failed
  cases failed

/-! ### Sources -/

/-- Boundaries do no harm: a tag without content whose boundary stays in its line comes after a
line that cannot be read, or it has blanks behind it and such a line comes later. -/
def Harmless (lines : List Text.Line) : Prop :=
  ∀ earlier line later, lines = earlier ++ line :: later → Spoils line →
    (∃ one ∈ earlier, Fails one) ∨ Loose line ∧ ∃ one ∈ later, Fails one

theorem harmless_cons (line : Text.Line) (rest : List Text.Line) :
    Harmless (line :: rest) ↔
      (Spoils line → Loose line ∧ ∃ one ∈ rest, Fails one) ∧ (Fails line ∨ Harmless rest) := by
  constructor
  next =>
    intro harmless
    refine ⟨fun spoils => ?_, ?_⟩
    next => exact (harmless [] line rest rfl spoils).resolve_left (by simp)
    next =>
      refine or_iff_not_imp_left.mpr fun reads earlier one later same spoils => ?_
      have here := harmless (line :: earlier) one later (by rw [same, List.cons_append]) spoils
      simpa [reads] using here
  next =>
    rintro ⟨here, behind⟩ earlier one later same spoils
    cases earlier with
    | nil =>
      cases same
      exact .inr (here spoils)
    | cons first earlier =>
      cases same
      rcases behind with fails | harmless
      · exact .inl ⟨line, List.mem_cons_self .., fails⟩
      · refine (harmless earlier one later rfl spoils).imp_left ?_
        rintro ⟨early, member, fails⟩
        exact ⟨early, List.mem_cons_of_mem _ member, fails⟩

section Steps

variable {number offset : Nat} {first : Bool} {rest : List Text.Line}

theorem lexLines_blank (blank : Text.allBlank (content line) = true) :
    lexLines number offset first (line :: rest) =
      lexLines (number + 1) (offset + line.whole.length) first rest := by
  rw [lexLines, if_pos blank]

theorem lexLines_error {fault : Fault} (present : ¬Text.allBlank (content line) = true)
    (read : pieces (content line) = .error fault) :
    lexLines number offset first (line :: rest) =
      .error (.invalidSyntax fault.cause number (fault.column + 1)) := by
  rw [lexLines, if_neg present, place, read]
  rfl

theorem lexLines_ok (present : ¬Text.allBlank (content line) = true)
    (read : pieces (content line) = .ok found) :
    lexLines number offset first (line :: rest) =
      (lexLines (number + 1) (offset + line.whole.length) false rest).map
        (((shown first found).map fun piece => piece.at number offset) ++ ·) := by
  rw [lexLines, if_neg present, place, read]
  simp only [Outcome.ok_bind]
  cases lexLines (number + 1) (offset + line.whole.length) false rest <;> rfl

end Steps

/-- Where lexing fails, it is at one of the lines. -/
theorem lexLines_fault {number offset : Nat} {first : Bool} {error : CompileError}
    (failed : lexLines number offset first lines = .error error) :
    ∃ cause line column, error = .invalidSyntax cause line column ∧ number ≤ line := by
  induction lines generalizing number offset first with
  | nil => cases failed
  | cons line rest ih =>
    have behind {first : Bool} {offset : Nat}
        (later : lexLines (number + 1) offset first rest = .error error) :
        ∃ cause line column, error = .invalidSyntax cause line column ∧ number ≤ line := by
      obtain ⟨cause, line, column, same, bound⟩ := ih later
      exact ⟨cause, line, column, same, by omega⟩
    by_cases blank : Text.allBlank (content line) = true
    next =>
      rw [lexLines_blank blank] at failed
      exact behind failed
    next =>
      cases read : pieces (content line) with
      | error fault =>
        rw [lexLines_error blank read] at failed
        cases failed
        exact ⟨_, _, _, rfl, Nat.le_refl _⟩
      | ok found =>
        rw [lexLines_ok blank read] at failed
        cases later : lexLines (number + 1) (offset + line.whole.length) false rest with
        | ok tokens =>
          rw [later] at failed
          cases failed
        | error fault =>
          rw [later] at failed
          cases failed
          exact behind later

/-- With line feeds alone, lexing fails on account of a line that cannot be read by itself. -/
theorem lexLines_fed_error (number offset : Nat) (first : Bool) (lines : List Text.Line) :
    (∃ error, lexLines number offset first (lines.map Text.Line.fed) = .error error) ↔
      ∃ line ∈ lines, Fails line := by
  induction lines generalizing number offset first with
  | nil => simp [lexLines]
  | cons line rest ih =>
    rw [List.map_cons]
    simp only [List.mem_cons, exists_eq_or_imp]
    by_cases blank : Text.allBlank line.body = true
    next =>
      rw [lexLines_blank (by rwa [content_fed]), ih]
      simp [not_fails_of_blank blank]
    next =>
      cases read : pieces line.body with
      | error fault =>
        have fails : Fails line := ⟨fault, read⟩
        rw [lexLines_error (by rwa [content_fed]) (by rw [content_fed, read])]
        simp [fails]
      | ok found =>
        have reads : ¬Fails line := by simp [Fails, read]
        rw [lexLines_ok (by rwa [content_fed]) (by rw [content_fed, read]), ← ih (number + 1)
          (offset + line.fed.whole.length) false]
        cases lexLines (number + 1) (offset + line.fed.whole.length) false
          (rest.map Text.Line.fed) <;> simp [Except.map, reads]

/-- Pieces of a line that go on with one more. -/
theorem length_shown_append {text : Text} (read : pieces text = .ok found) (first : Bool)
    (last : Piece) : (shown first (found ++ [last])).length = (shown first found).length + 1 := by
  obtain ⟨others, _, read⟩ := Outcome.bind_eq_ok.mp read
  cases read
  rw [List.cons_append, shown, shown]
  split <;> simp

theorem length_shown_le {many : List Piece} (closes : Closes line.ending)
    (read : pieces line.body = .ok found) (more : pieces (content line) = .ok many)
    (first : Bool) : (shown first found).length ≤ (shown first many).length := by
  by_cases spoils : Spoils line
  next =>
    rcases pieces_spoiled closes spoils read with ⟨_, longer⟩ | ⟨_, c, failed⟩
    · cases longer.symm.trans more
      rw [length_shown_append read]
      exact Nat.le_succ _
    · cases failed.symm.trans more
  next =>
    rw [pieces_content closes spoils, read] at more
    cases more
    exact Nat.le_refl _

/-- No boundary takes a token away. -/
theorem length_lexLines_fed {tokens all : List Token} (closes : ∀ line ∈ lines, Closes line.ending)
    {number offset other : Nat} {first : Bool}
    (fed : lexLines number offset first (lines.map Text.Line.fed) = .ok tokens)
    (lexed : lexLines number other first lines = .ok all) : tokens.length ≤ all.length := by
  induction lines generalizing number offset other first tokens all with
  | nil =>
    cases fed
    exact Nat.zero_le _
  | cons line rest ih =>
    obtain ⟨here, later⟩ := List.forall_mem_cons.mp closes
    rw [List.map_cons] at fed
    by_cases blank : Text.allBlank line.body = true
    next =>
      rw [lexLines_blank (by rwa [content_fed])] at fed
      rw [lexLines_blank (by rwa [allBlank_content here])] at lexed
      exact ih later fed lexed
    next =>
      have present : ¬Text.allBlank (content line) = true := by rwa [allBlank_content here]
      cases read : pieces line.body with
      | error fault =>
        rw [lexLines_error (by rwa [content_fed]) (by rw [content_fed, read])] at fed
        cases fed
      | ok found =>
        cases more : pieces (content line) with
        | error fault =>
          rw [lexLines_error present more] at lexed
          cases lexed
        | ok many =>
          rw [lexLines_ok (by rwa [content_fed]) (by rw [content_fed, read])] at fed
          rw [lexLines_ok present more] at lexed
          obtain ⟨some_, one, rfl⟩ := Outcome.map_eq_ok.mp fed
          obtain ⟨others, two, rfl⟩ := Outcome.map_eq_ok.mp lexed
          have bound := ih later one two
          have pieces := length_shown_le here read more first
          simp only [List.length_append, List.length_map]
          omega

section Readings

variable {Seen : Type} {look : Token → Seen}

/-- What does not show in a token without its offset is the same wherever a line begins. -/
theorem look_at (blind : ∀ token, look token.unplaced = look token) (found : List Piece)
    (number offset other : Nat) :
    (found.map fun piece => piece.at number offset).map look =
      (found.map fun piece => piece.at number other).map look := by
  rw [List.map_map, List.map_map]
  refine List.map_congr_left fun piece _ => ?_
  exact (blind (piece.at number offset)).symm.trans (blind (piece.at number other))

/-- Tokens in front of others, as they look. -/
theorem look_append (look : Token → Seen) (front : List Token)
    (outcome : Except CompileError (List Token)) :
    (outcome.map (front ++ ·)).map (List.map look) =
      (outcome.map (List.map look)).map (front.map look ++ ·) := by
  cases outcome with
  | error error => rfl
  | ok tokens => exact congrArg Except.ok List.map_append

theorem map_append_inj (front : List Seen) {one other : Except CompileError (List Seen)} :
    one.map (front ++ ·) = other.map (front ++ ·) ↔ one = other := by
  cases one <;> cases other <;> simp [Except.map]

/-- One token more can be told from none, unless what comes behind cannot be read. -/
theorem longer_iff {front longer : List Token} (more : longer.length = front.length + 1)
    {fed lexed : Except CompileError (List Token)}
    (bound : ∀ tokens all, fed = .ok tokens → lexed = .ok all → tokens.length ≤ all.length) :
    (fed.map (front ++ ·)).map (List.map look) = (lexed.map (longer ++ ·)).map (List.map look) ↔
      (∃ error, fed = .error error) ∧
        fed.map (List.map look) = lexed.map (List.map look) := by
  cases fed with
  | error error => cases lexed <;> simp [Except.map]
  | ok tokens =>
    cases lexed with
    | error error => simp [Except.map]
    | ok all =>
      have fewer := bound tokens all rfl rfl
      simp only [Except.map, Except.ok.injEq, reduceCtorEq, exists_false, false_and, iff_false]
      intro same
      have lengths := congrArg List.length same
      simp only [List.length_map, List.length_append] at lengths
      omega

/-- Nothing that later lines give is a fault of this line. -/
theorem later_ne_fault {number offset column : Nat} {first : Bool} {cause : LexicalFault}
    (look : Token → Seen) (front : List Token) :
    ((lexLines (number + 1) offset first lines).map (front ++ ·)).map (List.map look) ≠
      .error (.invalidSyntax cause number column) := by
  intro same
  cases behind : lexLines (number + 1) offset first lines with
  | ok tokens =>
    rw [behind] at same
    cases same
  | error error =>
    obtain ⟨_, place, _, rfl, bound⟩ := lexLines_fault behind
    rw [behind] at same
    cases same
    omega

theorem lexLines_fed_iff (blind : ∀ token, look token.unplaced = look token)
    (closes : ∀ line ∈ lines, Closes line.ending) (number offset other : Nat) (first : Bool) :
    (lexLines number offset first (lines.map Text.Line.fed)).map (List.map look) =
        (lexLines number other first lines).map (List.map look) ↔ Harmless lines := by
  induction lines generalizing number offset other first with
  | nil => simp [lexLines, Harmless]
  | cons line rest ih =>
    obtain ⟨here, later⟩ := List.forall_mem_cons.mp closes
    rw [List.map_cons, harmless_cons]
    by_cases blank : Text.allBlank line.body = true
    next =>
      rw [lexLines_blank (by rwa [content_fed]), lexLines_blank (by rwa [allBlank_content here]),
        ih later]
      simp [not_spoils_of_blank blank, not_fails_of_blank blank]
    next =>
      have alone : ¬Text.allBlank (content line.fed) = true := by rwa [content_fed]
      have present : ¬Text.allBlank (content line) = true := by rwa [allBlank_content here]
      cases read : pieces line.body with
      | error fault =>
        -- the line cannot be read, whatever ends it
        have fails : Fails line := ⟨fault, read⟩
        have kept : ¬Spoils line := fun spoils => spoils.not_fails fails
        rw [lexLines_error alone (by rw [content_fed, read]),
          lexLines_error present (by rw [pieces_content here kept, read])]
        simp [fails, kept, Except.map]
      | ok found =>
        have reads : ¬Fails line := by simp [Fails, read]
        rw [lexLines_ok alone (by rw [content_fed, read])]
        by_cases spoils : Spoils line
        next =>
          rcases pieces_spoiled here spoils read with ⟨loose, longer⟩ | ⟨tight, c, failed⟩
          · rw [lexLines_ok present longer, longer_iff, lexLines_fed_error, ih later]
            · simp [spoils, loose, reads]
            · simp only [List.length_map]
              exact length_shown_append read first _
            · exact fun tokens all => length_lexLines_fed later
          · rw [lexLines_error present failed]
            simp only [spoils, tight, false_and, imp_false, not_true_eq_false, iff_false]
            exact later_ne_fault _ _
        next =>
          rw [lexLines_ok present (by rw [pieces_content here spoils, read]), look_append,
            look_append, look_at blind _ number offset other, map_append_inj, ih later]
          simp [spoils, reads]

end Readings

/-- Which boundary ends a line does not matter, but for a tag without content, which takes a boundary
that stays in the line for its content. So a source has the tokens that it has with line feeds
alone, by kind and content as well as by line and column, if and only if no boundary does harm. -/
theorem lex_fed_iff (source : Text) :
    (∀ line ∈ Text.lines source,
      Text.allBlank (content line) = Text.allBlank line.body ∧
        (pieces (content line) = pieces line.body ↔ ¬Spoils line)) ∧
    ((lex (Text.fed source)).map (List.map fun token => (token.kind, token.content)) =
        (lex source).map (List.map fun token => (token.kind, token.content)) ↔
      Harmless (Text.lines source)) ∧
    ((lex (Text.fed source)).map (List.map Token.unplaced) =
        (lex source).map (List.map Token.unplaced) ↔ Harmless (Text.lines source)) := by
  have closes := Text.boundary_lines source
  refine ⟨fun line member => ?_, ?_, ?_⟩
  · exact ⟨allBlank_content (closes line member), pieces_content_iff (closes line member)⟩
  · rw [lex, lex, Text.lines_fed]
    exact lexLines_fed_iff (fun _ => rfl) closes 1 0 0 true
  · rw [lex, lex, Text.lines_fed]
    exact lexLines_fed_iff (fun _ => rfl) closes 1 0 0 true

/-- Behind a tag a vertical tab is an error, a line feed is not. -/
theorem lex_vertical_tab :
    (lex (Text.fed "%p\x0b".toList)).toOption.map
        (List.map fun token => (token.kind, token.content)) =
      some [(.elementIdentifier, ['%']), (.string, ['p'])] ∧
    Outcome.fault? (lex "%p\x0b".toList) =
      some (.invalidSyntax (.unexpectedCharacter '\x0b') 1 3) := by
  decide +kernel

/-- With a blank in between, a boundary is a text without characters. -/
example : (lex "%p \u2028".toList).toOption.map
    (List.map fun token => (token.kind, token.content)) =
      some [(.elementIdentifier, ['%']), (.string, ['p']), (.text, [])] := by decide +kernel

end Lexer

end Stencil

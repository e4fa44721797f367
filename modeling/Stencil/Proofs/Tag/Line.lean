import Stencil.Proofs.Block.Rendering
import Stencil.Proofs.Static.Building
import Stencil.Proofs.Tag.Value

/-!
The line of a tag. What it puts out is the sum of its parts: those of the start tag and, where the tag
ends on its line, those of what stands behind it and of the end tag.
-/

set_option autoImplicit false

namespace Stencil

open Script.Spliced

namespace Markup

/-- A name or a value as a part of its line. -/
def partOf (token : Token) : Part :=
  match token.kind with
  | .bracketExpression => .value (Fragment.inside token.content)
  | .expression => .value token.content
  | _ => .text (said token)

/-- What stands behind a tag as a part of its line. -/
def inlinePart (token : Token) : Part :=
  match token.kind with
  | .text => .escaped token.content
  | .comment => .text ("<!-- ".toList ++ token.content ++ " -->".toList)
  | _ => partOf token

/-- Whether what a token puts out can stand in code. -/
structure Placeable (token : Token) : Prop where
  legible : (partOf token).Legible
  noSurrogates : token.kind = .quotedString → hasSurrogates token.content = false

end Markup

open Markup

namespace Builder

/-! ### Tags -/

def attributeParts (name value : Part) : List Part :=
  [.text [' '], name, .text "=\"".toList, value, .text ['"']]

def fixedParts (name : Text) (value : Option Token) : List Part :=
  value.toList.flatMap fun value => attributeParts (.text name) (partOf value)

namespace Tag

def tokens (tag : Tag) : List Token :=
  tag.element.toList ++ tag.id.toList ++ tag.classes.toList ++
    tag.attributes.flatMap fun pair => [pair.1, pair.2]

def namePart (tag : Tag) : Part := (tag.element.map partOf).getD (.text "div".toList)

def pairParts (tag : Tag) : List Part :=
  fixedParts "id".toList tag.id ++ fixedParts "class".toList tag.classes ++
    tag.attributes.flatMap fun pair => attributeParts (partOf pair.1) (partOf pair.2)

def startParts (tag : Tag) : List Part :=
  [.text ['<'], tag.namePart] ++ tag.pairParts ++ [.text ['>']]

def stopParts (tag : Tag) : List Part := [.text "</".toList, tag.namePart, .text ['>']]

end Tag

theorem quotedText_of_value {content value : Text} (known : Fragment.quotedValue content = .ok value) :
    quotedText content = value := by
  unfold Fragment.quotedValue at known
  unfold quotedText
  cases read : Script.literal content with
  | ok datum =>
    rw [read] at known
    exact Except.ok.inj known
  | error fault =>
    rw [read] at known
    cases fault with
    | malformed => exact Except.ok.inj known
    | unhashable => cases known

theorem body_partOf {token : Token} {body : Text} (written : Fragment.ofToken token true = .ok body) :
    (partOf token).body = body := by
  unfold Fragment.ofToken at written
  split at written
  next kind =>
    cases written
    simp [partOf, kind, Part.body, Part.code, Fragment.ofExpression]
  next kind =>
    cases written
    simp [partOf, kind, Part.body, Part.code, Fragment.ofExpression]
  next kind =>
    obtain ⟨value, known, rfl⟩ := Outcome.map_eq_ok.mp written
    simp [partOf, kind, Part.text, Part.body, said, quotedText_of_value known]
  next kind =>
    cases written
    simp [partOf, kind, Part.text, Part.body, said, Fragment.ofText]
  next kind =>
    cases written
    simp [partOf, kind, Part.text, Part.body, said, Fragment.ofText]
  next => cases written

theorem body_attributeParts (name value : Part) :
    (attributeParts name value).flatMap Part.body = attributeText name.body value.body := by
  have plain : ∀ text ∈ [[' '], "=\"".toList, ['"']], (Part.text text).body = text := by
    decide
  simp [attributeParts, attributeText, plain]

theorem body_fixedParts {name text : Text} {value : Option Token}
    (fixed : Fragment.literalBody name = name) (written : fixedAttribute name value = .ok text) :
    (fixedParts name value).flatMap Part.body = text := by
  cases value with
  | none =>
    cases written
    rfl
  | some token =>
    obtain ⟨body, given, rfl⟩ := Outcome.map_eq_ok.mp written
    have known : (Part.text name).body = name := fixed
    simp [fixedParts, body_attributeParts, body_partOf given, known]

theorem body_freeParts {pairs : List (Token × Token)} {texts : List Text}
    (written : pairs.mapM freeAttribute = .ok texts) :
    (pairs.flatMap fun pair => attributeParts (partOf pair.1) (partOf pair.2)).flatMap Part.body =
      texts.flatten := by
  induction pairs generalizing texts with
  | nil =>
    cases written
    rfl
  | cons pair pairs ih =>
    rw [List.mapM_cons] at written
    obtain ⟨text, first, written⟩ := Outcome.bind_eq_ok.mp written
    obtain ⟨others, later, written⟩ := Outcome.bind_eq_ok.mp written
    obtain ⟨name, named, first⟩ := Outcome.bind_eq_ok.mp first
    obtain ⟨value, given, first⟩ := Outcome.bind_eq_ok.mp first
    cases written
    cases first
    rw [List.flatMap_cons, List.flatMap_append, ih later, body_attributeParts, body_partOf named,
      body_partOf given, List.flatten_cons]

/-- The literals for a tag are those with its parts. -/
theorem tagText_parts {tag : Tag} {text : TagText} (written : tagText tag = .ok text) :
    tag.startParts.flatMap Part.body = text.start ∧ tag.stopParts.flatMap Part.body = text.stop := by
  obtain ⟨name, called, written⟩ : ∃ name, tag.namePart.body = name ∧ (do
      let id ← fixedAttribute "id".toList tag.id
      let classes ← fixedAttribute "class".toList tag.classes
      let others ← tag.attributes.mapM freeAttribute
      return (⟨name, id ++ classes ++ others.flatten⟩ : TagText)) = .ok text := by
    rw [tagText] at written
    rw [Tag.namePart]
    cases element : tag.element with
    | none =>
      rw [element] at written
      exact ⟨"div".toList, rfl, written⟩
    | some token =>
      rw [element] at written
      obtain ⟨name, named, others⟩ := Outcome.bind_eq_ok.mp written
      exact ⟨name, body_partOf named, others⟩
  obtain ⟨id, first, written⟩ := Outcome.bind_eq_ok.mp written
  obtain ⟨classes, second, written⟩ := Outcome.bind_eq_ok.mp written
  obtain ⟨others, third, written⟩ := Outcome.bind_eq_ok.mp written
  cases written
  have plain : ∀ text ∈ [['<'], "</".toList, ['>']], (Part.text text).body = text := by decide
  have pairs : tag.pairParts.flatMap Part.body = id ++ classes ++ others.flatten := by
    rw [Tag.pairParts, List.flatMap_append, List.flatMap_append, body_freeParts third,
      body_fixedParts (by decide) first, body_fixedParts (by decide) second]
  constructor
  · simp [Tag.startParts, TagText.start, plain, called, pairs]
  · simp [Tag.stopParts, TagText.stop, plain, called]

/-! ### Entries -/

/-- Literals of one line, with its indentation. -/
theorem isSumOf_safe (depth : Nat) (parts : List Part) :
    IsSumOf (.text (Text.spaces depth) :: parts)
      (Output.expression ⟨.safe, parts.flatMap Part.body, depth⟩) := by
  have sum := isSumOf_literal (Text.spaces depth) parts
  rw [Fragment.literalBody_spaces] at sum
  exact sum

/-- A start tag and an end tag with what stands between them. The indentation is a literal of its own. -/
theorem isSumOf_fused (depth : Nat) {start stop : List Part} {text : TagText} {kind : OutputKind}
    {body : Text} {inline : Part} (starts : start.flatMap Part.body = text.start)
    (stops : stop.flatMap Part.body = text.stop)
    (same : Output.expression ⟨kind, body, 0⟩ = inline.code) :
    IsSumOf (.text (Text.spaces depth) :: (start ++ inline :: stop))
      (Output.expression ⟨.expression, fused text kind body, depth⟩) := by
  have literal (parts : List Part) : IsSumOf parts (literalOf (parts.flatMap Part.body)) :=
    isSumOf_empty.mp (isSumOf_literal [] parts)
  have code : fused text kind body =
      literalOf text.start ++ " + ".toList ++ (inline.code ++ " + ".toList ++ literalOf text.stop) := by
    rw [← same]
    simp [fused, Text.join, List.intercalate, Output.expression, Output.indentation, Text.spaces]
  have whole : IsSumOf (start ++ inline :: stop) (fused text kind body) := by
    rw [code, ← starts, ← stops]
    exact (literal start).append ((isSumOf_code inline).append (literal stop))
  -- at the margin there is no literal for the indentation
  by_cases flush : depth = 0
  next =>
    subst flush
    exact isSumOf_empty.mpr whole
  next =>
    have positive : (0 : Int) < depth := by omega
    have margin := isSumOf_safe depth []
    simp only [Output.expression, if_pos positive, Output.indentation, Int.toNat_natCast] at margin ⊢
    rw [List.flatMap_nil, List.append_nil] at margin
    exact margin.append whole

/-! ### Lines -/

variable {builder next : Builder} {tag : Tag} {tokens words rest last : List Token}

/-- The token of content that is put out. -/
def outputToken? : List Token → Option Token
  | [] => none
  | token :: rest =>
    match token.kind with
    | .codeIdentifier => rest.head?
    | .commentIdentifier => rest.head?
    | .comment => some token
    | .text => some token
    | _ => none

/-- What is put out together with the tag before it: content with no deeper lines below it. -/
def inline? (builder : Builder) (tokens : List Token) : Option Token :=
  match builder.content tokens with
  | .ok (.output _ _, after) => if builder.endsHere after then outputToken? tokens else none
  | _ => none

/-- The tokens that the line of a tag puts out, given those behind the tag. -/
def lineTokens (builder : Builder) (tag : Tag) (rest : List Token) : List Token :=
  tag.tokens ++ (builder.inline? rest).toList

/-- The parts of the line of a tag, given the tokens behind it. -/
def lineParts (builder : Builder) (tag : Tag) (rest : List Token) : List Part :=
  .text (Text.spaces builder.depth) ::
    if builder.endsHere rest then tag.startParts ++ tag.stopParts
    else match builder.inline? rest with
      | some token => tag.startParts ++ inlinePart token :: tag.stopParts
      | none => tag.startParts

/-- A line puts out an entry. If its tag stays open, the end of that waits below its content. -/
inductive Writes (builder : Builder) (tag : Tag) (rest : List Token) (output : Output) : Builder → Prop where
  | closed (ends : (builder.endsHere rest || (builder.inline? rest).isSome) = true) :
      Writes builder tag rest output (builder.emit (.line (.output output)))
  | opened {next : Builder} {content : Content}
      (stays : (builder.endsHere rest || (builder.inline? rest).isSome) = false)
      (added : ((builder.emit (.line (.output output))).push
        (.endTag builder.depth (tag.stopParts.flatMap Part.body))).add content = .ok next) :
      Writes builder tag rest output next

theorem expect_ok {kinds : List TokenKind} {token : Token}
    (taken : expect kinds tokens = .ok (token, rest)) : tokens = token :: rest ∧ token.kind ∈ kinds := by
  cases tokens with
  | nil => cases taken
  | cons first others =>
    rw [expect] at taken
    split at taken
    next known =>
      cases taken
      exact ⟨rfl, List.contains_iff_mem.mp known⟩
    next => cases taken

theorem content_output {kind : OutputKind} {body : Text}
    (found : builder.content tokens = .ok (.output kind body, rest)) :
    ∃ token, outputToken? tokens = some token ∧
      Output.expression ⟨kind, body, 0⟩ = (inlinePart token).code := by
  have note {token : Token} (known : token.kind = .comment)
      (same : comment token = .output kind body) :
      Output.expression ⟨kind, body, 0⟩ = (inlinePart token).code := by
    rw [comment_literal] at same
    cases same
    simp only [inlinePart, known]
    rfl
  cases tokens with
  | nil => cases found
  | cons token others =>
    simp only [content] at found
    split at found
    next sign =>
      obtain ⟨⟨code, behind⟩, taken, made⟩ := Outcome.bind_eq_ok.mp found
      obtain ⟨rfl, known⟩ := expect_ok taken
      refine ⟨code, by simp [outputToken?, sign], ?_⟩
      split at made
      next => cases made
      next =>
        cases made
        simp [Output.expression, inlinePart, partOf, List.mem_singleton.mp known, Part.code,
          Fragment.ofExpression]
    next sign =>
      -- silent code puts nothing out
      obtain ⟨⟨code, behind⟩, taken, made⟩ := Outcome.bind_eq_ok.mp found
      split at made
      next => cases made
      next => cases made
    next sign =>
      obtain ⟨⟨text, behind⟩, taken, made⟩ := Outcome.bind_eq_ok.mp found
      obtain ⟨rfl, known⟩ := expect_ok taken
      cases made
      exact ⟨text, by simp [outputToken?, sign], note (List.mem_singleton.mp known) rfl⟩
    next sign =>
      cases found
      exact ⟨token, by simp [outputToken?, sign], note sign rfl⟩
    next sign =>
      cases found
      refine ⟨token, by simp [outputToken?, sign], ?_⟩
      simp only [inlinePart, sign]
      rfl
    next => cases found

/-- What a step does with the line of a tag. -/
theorem writes_of_step {entered : Builder} (indented : builder.indented tokens = (entered, words))
    (tagged : tag? words = .ok (some tag, rest)) (stepped : builder.step tokens = .ok (next, last)) :
    ∃ output, entered.Writes tag rest output next ∧
      IsSumOf (entered.lineParts tag rest) output.expression := by
  rw [step, indented] at stepped
  simp only [tagged, Outcome.ok_bind] at stepped
  obtain ⟨text, written, stepped⟩ := Outcome.bind_eq_ok.mp stepped
  obtain ⟨starts, stops⟩ := tagText_parts written
  split at stepped
  next ends =>
    cases stepped
    refine ⟨⟨.safe, text.start ++ text.stop, entered.depth⟩, .closed (by simp [ends]), ?_⟩
    rw [lineParts, if_pos ends, ← starts, ← stops, ← List.flatMap_append]
    exact isSumOf_safe entered.depth _
  next stays =>
    obtain ⟨⟨content, after⟩, found, stepped⟩ := Outcome.bind_eq_ok.mp stepped
    obtain ⟨_, added, stepped⟩ := Outcome.bind_eq_ok.mp stepped
    cases stepped
    rw [lineParts, if_neg stays]
    -- content that is not put out with the tag comes behind it, and the end of the tag waits
    have opens (alone : entered.inline? rest = none)
        (added : (entered.openTag text).add content = .ok next) :
        ∃ output, entered.Writes tag rest output next ∧
          IsSumOf (.text (Text.spaces entered.depth) :: tag.startParts) output.expression := by
      have sum := isSumOf_safe entered.depth tag.startParts
      rw [starts] at sum
      rw [openTag, emitLine, ← stops] at added
      exact ⟨_, .opened (by simp [stays, alone]) added, sum⟩
    cases content with
    | output kind body =>
      obtain ⟨token, known, same⟩ := content_output found
      by_cases ends : entered.endsHere after = true
      next =>
        have inline : entered.inline? rest = some token := by
          simp only [inline?, found, if_pos ends, known]
        simp only [addTagged, if_pos ends] at added
        cases added
        rw [inline]
        exact ⟨⟨.expression, fused text kind body, entered.depth⟩, .closed (by simp [inline]),
          isSumOf_fused entered.depth starts stops same⟩
      next =>
        have alone : entered.inline? rest = none := by
          simp only [inline?, found, if_neg ends]
        simp only [addTagged, if_neg ends] at added
        rw [alone]
        exact opens alone added
    | _ =>
      have alone : entered.inline? rest = none := by
        simp only [inline?, found]
      rw [alone]
      exact opens alone added

/-! ### What can stand in code -/

theorem legible_text {content : Text} : (Part.text content).Legible ↔ '\x00' ∉ content := Iff.rfl

theorem legible_attributeParts {name value : Part} (one : name.Legible) (other : value.Legible) :
    ∀ part ∈ attributeParts name value, part.Legible := by
  simp [attributeParts, legible_text, one, other]

theorem legible_inlinePart {token : Token} (placeable : Placeable token) : (inlinePart token).Legible := by
  have legible := placeable.legible
  unfold inlinePart
  split
  next known =>
    simp only [partOf, known, said] at legible
    exact legible
  next known =>
    simp only [partOf, known, said] at legible
    have readable := legible_text.mp legible
    simpa [legible_text] using readable
  next => exact legible

theorem legible_fixedParts {name : Text} {value : Option Token} (readable : '\x00' ∉ name)
    (placeable : ∀ token ∈ value.toList, Placeable token) :
    ∀ part ∈ fixedParts name value, part.Legible := by
  intro part member
  obtain ⟨token, known, inside⟩ := List.mem_flatMap.mp member
  exact legible_attributeParts (legible_text.mpr readable) (placeable token known).legible part inside

theorem legible_tag (placeable : ∀ token ∈ tag.tokens, Placeable token) :
    (∀ part ∈ tag.startParts, part.Legible) ∧ ∀ part ∈ tag.stopParts, part.Legible := by
  simp only [Tag.tokens, List.mem_append] at placeable
  have name : tag.namePart.Legible := by
    cases element : tag.element with
    | none =>
      simp only [Tag.namePart, element]
      exact legible_text.mpr (by decide)
    | some token =>
      simp only [Tag.namePart, element]
      exact (placeable token (by simp [element])).legible
  have pairs : ∀ part ∈ tag.pairParts, part.Legible := by
    refine List.forall_mem_append.mpr ⟨List.forall_mem_append.mpr ⟨?_, ?_⟩, fun part member => ?_⟩
    · exact legible_fixedParts (by decide) fun token member => placeable token (by simp [member])
    · exact legible_fixedParts (by decide) fun token member => placeable token (by simp [member])
    · obtain ⟨pair, known, inside⟩ := List.mem_flatMap.mp member
      have both (token : Token) (either : token = pair.1 ∨ token = pair.2) : Placeable token :=
        placeable token (.inr (List.mem_flatMap.mpr ⟨pair, known, by simpa using either⟩))
      exact legible_attributeParts (both _ (.inl rfl)).legible (both _ (.inr rfl)).legible part inside
  constructor
  · simp only [Tag.startParts, List.forall_mem_append]
    exact ⟨⟨by simp [legible_text, name], pairs⟩, by simp [legible_text]⟩
  · simp [Tag.stopParts, legible_text, name]

theorem legible_lineParts (placeable : ∀ token ∈ builder.lineTokens tag rest, Placeable token) :
    ∀ part ∈ builder.lineParts tag rest, part.Legible := by
  obtain ⟨ofTag, inline⟩ := List.forall_mem_append.mp placeable
  obtain ⟨start, stop⟩ := legible_tag ofTag
  refine List.forall_mem_cons.mpr ⟨legible_text.mpr (by simp [Text.spaces]), ?_⟩
  split
  next => exact List.forall_mem_append.mpr ⟨start, stop⟩
  next =>
    split
    next token known =>
      have legible := legible_inlinePart (inline token (by simp [known]))
      exact List.forall_mem_append.mpr ⟨start, List.forall_mem_cons.mpr ⟨legible, stop⟩⟩
    next => exact start

/-- The line of a tag puts out the sum of its parts, which are made one after the other. -/
theorem step_tag {entered : Builder} (indented : builder.indented tokens = (entered, words))
    (tagged : tag? words = .ok (some tag, rest)) (stepped : builder.step tokens = .ok (next, last))
    (placeable : ∀ token ∈ entered.lineTokens tag rest, Placeable token) :
    ∃ output tree, entered.Writes tag rest output next ∧
      Script.readModule (Line.output output).statementForm =
        .ok [.expression (Script.appendCall tree)] ∧
      ∀ env store result, Shows env (entered.lineParts tag rest) store result →
        Script.Comes (fun fuel => Script.eval fuel env tree) store result.value := by
  obtain ⟨output, writes, sum⟩ := writes_of_step indented tagged stepped
  obtain ⟨tree, read, comes⟩ := sum.gives (legible_lineParts placeable)
  exact ⟨output, tree, writes, read, comes⟩

/-! ### A line with two sums in it -/

-- A literal is decoded wherever its characters are looked at, so they are put in its place first.
open String (toList_ofList)

def sumsSource : Text := "  %p.\x7b'a' + 'b'\x7d title=\"a&b\" = 'c' + 'd'".toList

def sumsShown : Text := "  <p class=\"ab\" title=\"a&b\">cd</p>".toList

def sumsTag : Tag where
  element := some ⟨.string, ['p'], 1, 4, 3⟩
  id := none
  classes := some ⟨.bracketExpression, "\x7b'a' + 'b'\x7d".toList, 1, 6, 5⟩
  attributes := [(⟨.string, "title".toList, 1, 18, 17⟩, ⟨.quotedString, "\"a&b\"".toList, 1, 24, 23⟩)]

def sumsContent : List Token :=
  [⟨.codeIdentifier, ['='], 1, 30, 29⟩, ⟨.expression, "'c' + 'd'".toList, 1, 32, 31⟩]

def sumsTokens : List Token :=
  [⟨.whiteSpace, "  ".toList, 1, 1, 0⟩, ⟨.elementIdentifier, ['%'], 1, 3, 2⟩, ⟨.string, ['p'], 1, 4, 3⟩,
    ⟨.elementClassIdentifier, ['.'], 1, 5, 4⟩, ⟨.bracketExpression, "\x7b'a' + 'b'\x7d".toList, 1, 6, 5⟩,
    ⟨.string, "title".toList, 1, 18, 17⟩, ⟨.attributeConnector, ['='], 1, 23, 22⟩,
    ⟨.quotedString, "\"a&b\"".toList, 1, 24, 23⟩] ++ sumsContent

/-- A store with nothing but the variables of a module. -/
def moduleStore : Script.Store := Script.Store.empty.push (.bindings [])

theorem sums_placeable :
    ∀ token ∈ (initial.indented sumsTokens).1.lineTokens sumsTag sumsContent, Placeable token := by
  have first : ∃ tree, Script.Encloses "'a' + 'b'".toList tree := by
    rw [show "'a' + 'b'".toList = _ from toList_ofList]
    exact ⟨_, by decide, rfl, by decide +kernel⟩
  have second : ∃ tree, Script.Encloses "'c' + 'd'".toList tree := by
    rw [show "'c' + 'd'".toList = _ from toList_ofList]
    exact ⟨_, by decide, rfl, by decide +kernel⟩
  have unquoted {token : Token} (other : (token.kind == .quotedString) = false)
      (quoted : token.kind = .quotedString) : hasSurrogates token.content = false := by
    rw [quoted] at other
    cases other
  have all : (initial.indented sumsTokens).1.lineTokens sumsTag sumsContent =
      sumsTag.tokens ++ [⟨.expression, "'c' + 'd'".toList, 1, 32, 31⟩] := rfl
  rw [all]
  refine List.forall_mem_append.mpr ⟨?_, List.forall_mem_singleton.mpr ⟨second, unquoted rfl⟩⟩
  refine List.forall_mem_cons.mpr ⟨⟨legible_text.mpr (by decide), unquoted rfl⟩, ?_⟩
  refine List.forall_mem_cons.mpr ⟨⟨first, unquoted rfl⟩, ?_⟩
  refine List.forall_mem_cons.mpr ⟨⟨legible_text.mpr (by decide), unquoted rfl⟩, ?_⟩
  exact List.forall_mem_singleton.mpr ⟨legible_text.mpr (by decide +kernel), fun _ => by decide +kernel⟩

/-- The parts of the line with what they give. -/
def sumsParts : List (Part × Text) :=
  let text (content : Text) : Part × Text := (.text content, content)
  [text "  ".toList, text ['<'], text ['p'], text [' '], text "class".toList, text "=\"".toList,
    (.value "'a' + 'b'".toList, "ab".toList), text ['"'], text [' '], text "title".toList,
    text "=\"".toList, text "a&b".toList, text ['"'], text ['>'],
    (.value "'c' + 'd'".toList, "cd".toList), text "</".toList, text ['p'], text ['>']]

theorem sums_shows : Shows ⟨[], 0, 0⟩
    ((initial.indented sumsTokens).1.lineParts sumsTag sumsContent) moduleStore
      (.ok (Points.ofText sumsShown) moduleStore) := by
  have value {code text : Text} {tree : Script.Expr} (read : Script.readExpression code = some tree)
      (same : ∀ fuel, shown (fuel + 2) ⟨[], 0, 0⟩ tree moduleStore =
        .ok (Points.ofText text) moduleStore) :
      Part.Shows ⟨[], 0, 0⟩ moduleStore (.ok (Points.ofText text) moduleStore) (.value code) := by
    refine ⟨tree, read, rfl, 2, fun fuel enough => ?_⟩
    obtain ⟨less, rfl⟩ := Nat.exists_eq_add_of_le' enough
    exact same less
  have first : Part.Shows ⟨[], 0, 0⟩ moduleStore (.ok (Points.ofText "ab".toList) moduleStore)
      (.value "'a' + 'b'".toList) :=
    value (by rw [show "'a' + 'b'".toList = _ from toList_ofList]; rfl) fun fuel => rfl
  have second : Part.Shows ⟨[], 0, 0⟩ moduleStore (.ok (Points.ofText "cd".toList) moduleStore)
      (.value "'c' + 'd'".toList) :=
    value (by rw [show "'c' + 'd'".toList = _ from toList_ofList]; rfl) fun fuel => rfl
  have quoted : said ⟨.quotedString, "\"a&b\"".toList, 1, 24, 23⟩ = "a&b".toList := by decide +kernel
  have parts : (initial.indented sumsTokens).1.lineParts sumsTag sumsContent =
      sumsParts.map (·.1) := by
    rw [sumsParts, ← quoted]
    rfl
  rw [parts]
  refine shows_texts ?_
  have text (content : Text) : Part.Shows ⟨[], 0, 0⟩ moduleStore
      (.ok (Points.ofText content) moduleStore) (.text content) := rfl
  simp only [sumsParts, List.forall_mem_cons, text, first, second, true_and]
  exact List.forall_mem_nil _

theorem step_tag_sums : ∃ next output tree,
    Lexer.lex sumsSource = .ok sumsTokens ∧ initial.step sumsTokens = .ok (next, []) ∧
      (initial.indented sumsTokens).1.Writes sumsTag sumsContent output next ∧
      Script.readModule (Line.output output).statementForm =
        .ok [.expression (Script.appendCall tree)] ∧
      Script.Comes (fun fuel => Script.eval fuel ⟨[], 0, 0⟩ tree) moduleStore
        (.ok (.text sumsShown) moduleStore) := by
  have stepped : (initial.step sumsTokens).toOption.map Prod.snd = some [] := by decide +kernel
  obtain ⟨⟨next, last⟩, stepped, rfl⟩ := Outcome.ok_of_map stepped
  obtain ⟨output, tree, writes, read, comes⟩ := step_tag rfl rfl stepped sums_placeable
  exact ⟨next, output, tree, by decide +kernel, stepped, writes, read, comes _ _ _ sums_shows⟩

/-! ### Expressions that are not put out -/

/-- An expression within brackets. -/
def bracketed (count : Nat) : Text := List.replicate count '(' ++ '1' :: List.replicate count ')'

/-- A tag that is named after what code gives. -/
def namedAfter (code : Text) : Text := "%\x7b".toList ++ code ++ ['}']

theorem fails_of_fault {source : Text} {fault : Fault}
    (fails : (match renderSource (.text source) pageContext pageWorkspace with
      | .ok _ _ => none
      | .error fault _ => some fault) = some fault) :
    ∃ later, renderSource (.text source) pageContext pageWorkspace = .error fault later := by
  split at fails
  next => cases fails
  next found later ran =>
    cases fails
    exact ⟨later, ran⟩

set_option maxRecDepth 2000 in
/-- Code may bind the name of what makes texts, and it may leave no room for brackets around it. -/
theorem rebinding_is_refused :
    Script.readExpression "(str := 1)".toList =
        some (.named "str".toList (.constant (.integer 1))) ∧
      (∃ later, renderSource (.text (namedAfter "(str := 1)".toList)) pageContext pageWorkspace =
        .error (.value .localUnbound) later) ∧
      (Script.readExpression (bracketed 199)).isSome = true ∧
      ∃ later, renderSource (.text (namedAfter (bracketed 199))) pageContext pageWorkspace =
        .error (.code .malformed) later := by
  have opened (contextType : Text) := Program.opening_of_chars contextType toList_ofList toList_ofList
    toList_ofList toList_ofList
  have room : (Script.readExpression (bracketed 199)).isSome = true :=
    congrArg Option.isSome (Script.readExpression_brackets 198 (by decide))
  refine ⟨?_, fails_of_fault ?_, room, fails_of_fault ?_⟩
  · rw [show "(str := 1)".toList = _ from toList_ofList]
    rfl
  · rw [renderSource_quiet rfl, show "(str := 1)".toList = _ from toList_ofList]
    simp only [Program.code, Program.codeLines, opened]
    decide +kernel
  · rw [renderSource_quiet rfl]
    simp only [Program.code, Program.codeLines, opened]
    decide +kernel

end Builder

end Stencil

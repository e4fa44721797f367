import Stencil.Proofs.Tag.Line

/-!
The end tag of an element that is left open. It is written with the code of the name that its start tag
has, which is run once more where the element is closed.
-/

set_option autoImplicit false

namespace Stencil

open Markup Script.Spliced

namespace Builder

variable {builder next entered : Builder} {tag : Tag} {tokens words rest last : List Token}
  {env : Script.Env} {store middle : Script.Store} {called : Points} {result : Result Points}

/-- What stands behind the name in a start tag. -/
def Tag.endParts (tag : Tag) : List Part := tag.pairParts ++ [.text ['>']]

theorem shows_start (depth : Nat) (name : tag.namePart.Shows env store (.ok called middle))
    (others : Shows env tag.endParts middle result) :
    Shows env (.text (Text.spaces depth) :: tag.startParts) store
      (Result.behind (Points.ofText (Text.spaces depth ++ ['<']) ++ called) result) := by
  have shape : tag.startParts = .text ['<'] :: tag.namePart :: tag.endParts := by
    simp [Tag.startParts, Tag.endParts]
  have together : Points.ofText (Text.spaces depth ++ ['<']) =
      Points.ofText (Text.spaces depth) ++ Points.ofText ['<'] := by
    simp [Points.ofText]
  rw [shape, together, Result.behind_append, Result.behind_append]
  exact .next rfl (.next rfl (.next name others))

theorem shows_stop (depth : Nat) (name : tag.namePart.Shows env store (.ok called middle)) :
    Shows env (.text (Text.spaces depth) :: tag.stopParts) store
      (.ok (Points.ofText (Text.spaces depth ++ "</".toList) ++ called ++ Points.ofText ['>'])
        middle) := by
  have whole : (.ok (Points.ofText (Text.spaces depth ++ "</".toList) ++ called ++
      Points.ofText ['>']) middle : Result Points) =
        Result.behind (Points.ofText (Text.spaces depth)) (Result.behind (Points.ofText "</".toList)
          (Result.behind called (Result.behind (Points.ofText ['>']) (.ok [] middle)))) := by
    simp [Result.behind, Points.ofText]
  rw [whole, Tag.stopParts]
  exact .next rfl (.next rfl (.next name (.next rfl (.nil middle))))

/-- An element that a line leaves open is closed by the name that it was opened with if the code of the
name gives that where it is run again, and else by what it gives there. -/
theorem closing_name (indented : builder.indented tokens = (entered, words))
    (tagged : tag? words = .ok (some tag, rest)) (stepped : builder.step tokens = .ok (next, last))
    (stays : (entered.endsHere rest || (entered.inline? rest).isSome) = false)
    (placeable : ∀ token ∈ tag.tokens, Placeable token) :
    ∃ output body content start stop,
      ((entered.emit (.line (.output output))).push (.endTag entered.depth body)).add content =
        .ok next ∧
      Script.readModule (Line.output output).statementForm =
        .ok [.expression (Script.appendCall start)] ∧
      Script.readModule (Line.output ⟨.safe, body, entered.depth⟩).statementForm =
        .ok [.expression (Script.appendCall stop)] ∧
      ∀ env store called middle, tag.namePart.Shows env store (.ok called middle) →
        (∀ more later, Shows env tag.endParts middle (.ok more later) →
          Script.Comes (fun fuel => Script.eval fuel env start) store (.ok (.ofPoints
            (Points.ofText (Text.spaces entered.depth ++ ['<']) ++ called ++ more)) later)) ∧
        Script.Comes (fun fuel => Script.eval fuel env stop) store (.ok (.ofPoints
          (Points.ofText (Text.spaces entered.depth ++ "</".toList) ++ called ++
            Points.ofText ['>'])) middle) := by
  obtain ⟨output, writes, sum⟩ := writes_of_step indented tagged stepped
  cases writes with
  | closed ends =>
    rw [stays] at ends
    cases ends
  | @opened _ content _ added =>
    -- the start tag stands alone on its line, so its parts are all that is put out
    obtain ⟨aside, alone⟩ := Bool.or_eq_false_iff.mp stays
    have parts : entered.lineParts tag rest =
        .text (Text.spaces entered.depth) :: tag.startParts := by
      rw [lineParts, aside]
      cases inline : entered.inline? rest with
      | none => rfl
      | some token =>
        rw [inline] at alone
        cases alone
    have margin : (Part.text (Text.spaces entered.depth)).Legible :=
      legible_text.mpr (by simp [Text.spaces])
    obtain ⟨first, second⟩ := legible_tag placeable
    rw [parts] at sum
    obtain ⟨start, read, gives⟩ := sum.gives (List.forall_mem_cons.mpr ⟨margin, first⟩)
    obtain ⟨stop, closing, ends⟩ := (isSumOf_safe entered.depth tag.stopParts).gives
      (List.forall_mem_cons.mpr ⟨margin, second⟩)
    refine ⟨output, _, content, start, stop, added, read, closing, fun env store called middle name => ?_⟩
    exact ⟨fun more later others => gives _ _ _ (shows_start entered.depth name others),
      ends _ _ _ (shows_stop entered.depth name)⟩

/-! ### A name that changes -/

/-- An element that is named after a variable, with a deeper line below it. -/
def variableTokens : List Token :=
  [⟨.elementIdentifier, ['%'], 1, 1, 0⟩, ⟨.bracketExpression, "\x7bx\x7d".toList, 1, 2, 1⟩,
    ⟨.whiteSpace, "  ".toList, 2, 1, 5⟩, ⟨.text, "text".toList, 2, 3, 7⟩]

def variableTag : Tag where
  element := some ⟨.bracketExpression, "\x7bx\x7d".toList, 1, 2, 1⟩
  id := none
  classes := none
  attributes := []

/-- A store in which the variable has a value. -/
def variableStore (value : Text) : Script.Store :=
  Script.Store.empty.push (.bindings [(['x'], .text value)])

theorem placeable_variable : ∀ token ∈ variableTag.tokens, Placeable token := by
  have encloses : ∃ tree, Script.Encloses ['x'] tree := ⟨_, by decide, rfl, by decide +kernel⟩
  exact List.forall_mem_singleton.mpr ⟨encloses, fun quoted => by cases quoted⟩

theorem shows_variable (value : Text) :
    Part.Shows ⟨[], 0, 0⟩ (variableStore value) (.ok (Points.ofText value) (variableStore value))
      (.value ['x']) := by
  refine ⟨.name ['x'], rfl, rfl, 1, fun fuel enough => ?_⟩
  obtain ⟨less, rfl⟩ := Nat.exists_eq_add_of_le' enough
  rfl

theorem closing_name_variable : ∃ start stop,
    Script.Comes (fun fuel => Script.eval fuel ⟨[], 0, 0⟩ start) (variableStore ['a'])
        (.ok (.text "<a>".toList) (variableStore ['a'])) ∧
      Script.Comes (fun fuel => Script.eval fuel ⟨[], 0, 0⟩ stop) (variableStore ['b'])
        (.ok (.text "</b>".toList) (variableStore ['b'])) := by
  have stepped : (initial.step variableTokens).toOption.isSome = true := by decide +kernel
  obtain ⟨⟨next, last⟩, stepped⟩ := Outcome.ok_of_isSome stepped
  obtain ⟨output, body, content, start, stop, added, read, closing, name⟩ :=
    closing_name rfl rfl stepped rfl placeable_variable
  have ended : Shows ⟨[], 0, 0⟩ variableTag.endParts (variableStore ['a'])
      (Result.behind (Points.ofText ['>']) (.ok [] (variableStore ['a']))) := .next rfl (.nil _)
  exact ⟨start, stop, (name _ _ _ _ (shows_variable ['a'])).1 _ _ ended,
    (name _ _ _ _ (shows_variable ['b'])).2⟩

open String (toList_ofList)

/-- What stands in an element may change what its name gives. -/
theorem closing_name_changes : ∃ later,
    renderSource (.text "- x = 'a'\n%\x7bx\x7d\n  - x = 'b'".toList) pageContext pageWorkspace =
      .ok (.text "<a>\n</b>".toList) later := by
  refine Work.ran_of_asText? ?_
  rw [Outcome.value?_congr (renderSource_quiet rfl),
    show "- x = 'a'\n%\x7bx\x7d\n  - x = 'b'".toList = _ from toList_ofList]
  simp only [Program.code, Program.codeLines,
    Program.opening_of_chars _ toList_ofList toList_ofList toList_ofList toList_ofList]
  decide +kernel

end Builder

end Stencil

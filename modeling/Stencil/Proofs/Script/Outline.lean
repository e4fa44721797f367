import Stencil.Proofs.Script.Margin
import Stencil.Proofs.Script.Reading
import Stencil.Proofs.Script.Spelling

/-!
Statements of a program as lines at their levels, the words of these lines, and what they are read
as. A line that has the same words wherever it stands can be put into any block.
-/

set_option autoImplicit false

namespace Stencil

namespace Statement

/-- The line that declares what a function shares. -/
def sharingLines (shared : List Text) : List Statement :=
  if shared.isEmpty then []
  else [.control ("nonlocal ".toList ++ Text.join ", ".toList shared)]

/-- The header of a statement that has one, and the statements under it. -/
def opens? : Statement → Option (Text × List Statement)
  | line _ => none
  | block header body => some (header, body)
  | function number shared body => some (blockHeader number, sharingLines shared ++ body)

theorem codeLinesOf_sharing (level : Nat) (shared : List Text) :
    codeLinesOf level (sharingLines shared) = sharing level shared := by
  unfold sharingLines sharing
  split <;> rfl

theorem codeLines_opens {statement : Statement} {header : Text} {body : List Statement}
    (opens : statement.opens? = some (header, body)) (level : Nat) :
    codeLines level statement =
      ⟨level, header⟩ :: ⟨level + 1, "pass".toList⟩ :: codeLinesOf (level + 1) body := by
  cases statement with
  | line one => cases opens
  | block header body =>
    cases opens
    rw [codeLines]
  | function number shared body =>
    cases opens
    rw [codeLines, codeLinesOf_append, codeLinesOf_sharing]
    rfl

/-- The text of statements, each of their lines with its end. -/
def text (level : Nat) (statements : List Statement) : Text :=
  (codeLinesOf level statements).flatMap fun line => line.text ++ ['\n']

theorem text_line (level : Nat) (one : Line) (rest : List Statement) :
    text level (line one :: rest) =
      Text.spaces (4 * level) ++ (one.statementForm ++ '\n' :: text level rest) := by
  simp [text, codeLinesOf, codeLines, CodeLine.text]

theorem text_opens {statement : Statement} {header : Text} {body : List Statement}
    (opens : statement.opens? = some (header, body)) (level : Nat) (rest : List Statement) :
    text level (statement :: rest) =
      Text.spaces (4 * level) ++ (header ++ '\n' ::
        (Text.spaces (4 * (level + 1)) ++ ("pass".toList ++ '\n' ::
          (text (level + 1) body ++ text level rest)))) := by
  simp [text, codeLinesOf, codeLines_opens opens, CodeLine.text]

end Statement

namespace Script

open Lexer Reader Grammar

/-- Words that go on with a statement above. -/
def continues : Token → Bool
  | .keyword .elifWord => true
  | .keyword .elseWord => true
  | .keyword .exceptWord => true
  | .keyword .finallyWord => true
  | _ => false

def Fresh (tokens : List Token) : Prop := ∀ token ∈ tokens.head?, continues token = false

theorem fresh_cons {token : Token} {rest : List Token} :
    Fresh (token :: rest) ↔ continues token = false := by
  simp [Fresh]

theorem fresh_line {tokens : List Token} (fresh : Fresh tokens) (rest : List Token) :
    Fresh (tokens ++ .newline :: rest) := by
  cases tokens with
  | nil => exact fresh_cons.mpr rfl
  | cons token more => exact fresh_cons.mpr (fresh_cons.mp fresh)

/-- A line with its words, which are the same in all lines around. -/
structure Spoken (content : Text) (tokens : List Token) : Prop where
  clean : Text.Clean content
  solid : Solid content
  fresh : Fresh tokens
  words : ∀ indents rest, words ⟨indents, []⟩ (.inLine false) (content ++ '\n' :: rest) =
    (words ⟨indents, []⟩ .lineStart rest).map (tokens ++ .newline :: ·)

/-- Words of a line that are read as statements. -/
def ReadsLine (reach : Nat) (tokens : List Token) (found : List Stmt) : Prop :=
  ∀ statements bound rest,
    Grammar.statement (Nested.upTo reach) statements bound (tokens ++ .newline :: rest) =
      some (found, rest)

/-- Words of a header that make a statement of what is under it. -/
def ReadsHeader (reach : Nat) (tokens : List Token) (make : List Stmt → Stmt) : Prop :=
  ∀ (statements : Reader (List Stmt)) (bound : Nat) (body : List Token) (inside : List Stmt)
    (rest : List Token), statements body = some (inside, .dedent :: rest) → Fresh rest →
    Grammar.statement (Nested.upTo reach) statements bound
      (tokens ++ .newline :: .indent :: body) = some ([make inside], rest)

/-- Statements of a program with their words and with what they are read as, given how deep their
blocks are nested. -/
inductive Reads (reach : Nat) : Nat → List Statement → List Token → List Stmt → Prop where
  | nil (height : Nat) : Reads reach height [] [] []
  | line {height : Nat} {one : Line} {tokens more : List Token} {found others : List Stmt}
      {rest : List Statement} (spoken : Spoken one.statementForm tokens)
      (read : ReadsLine reach tokens found) (behind : Reads reach height rest more others) :
      Reads reach height (.line one :: rest) (tokens ++ .newline :: more) (found ++ others)
  | block {height : Nat} {statement : Statement} {header : Text} {body rest : List Statement}
      {tokens inner more : List Token} {make : List Stmt → Stmt} {found others : List Stmt}
      (opens : statement.opens? = some (header, body)) (spoken : Spoken header tokens)
      (read : ReadsHeader reach tokens make) (inside : Reads reach height body inner found)
      (behind : Reads reach (height + 1) rest more others) :
      Reads reach (height + 1) (statement :: rest)
        (tokens ++ .newline :: .indent :: .keyword .passWord :: .newline ::
          (inner ++ .dedent :: more))
        (make (.pass :: found) :: others)

variable {reach height level : Nat} {statements : List Statement} {tokens : List Token}
  {found : List Stmt} {rest : Text}

/-! ### Words -/

theorem clean_pass : Text.Clean "pass".toList := by decide

theorem solid_pass : Solid "pass".toList := by decide

theorem Reads.falls (reads : Reads reach height statements tokens found) (falls : Falls level rest) :
    Falls level (Statement.text level statements ++ rest) := by
  cases reads with
  | nil => exact falls
  | line spoken read behind =>
    rw [Statement.text_line, List.append_assoc]
    refine falls_line ?_ (Nat.le_refl level)
    rw [List.append_assoc]
    exact spoken.solid.append _
  | block opens spoken read inside behind =>
    rw [Statement.text_opens opens, List.append_assoc]
    refine falls_line ?_ (Nat.le_refl level)
    rw [List.append_assoc]
    exact spoken.solid.append _

theorem falls_up (falls : Falls level rest) : Falls (level + 1) rest := by
  intro high above
  rw [falls high (Nat.le_of_succ_le above), falls (level + 1) (Nat.le_succ level), Option.map_map]
  have count : high - level = high - (level + 1) + (level + 1 - level) := by omega
  simp only [count, Function.comp_def, ← List.append_assoc, List.replicate_append_replicate]

theorem words_pass (indents : List Width) (rest : Text) :
    words ⟨indents, []⟩ (.inLine false) ("pass".toList ++ '\n' :: rest) =
      (words ⟨indents, []⟩ .lineStart rest).map ([.keyword .passWord, .newline] ++ ·) :=
  words_steps 2 rfl

/-- The words of statements at a level. The induction goes along the statements and into their
blocks; what is behind has to be at the level, or further out. -/
theorem Reads.words (reads : Reads reach height statements tokens found) (level : Nat)
    (room : level + height ≤ maximalIndents) (falls : Falls level rest) :
    words ⟨widths level, []⟩ .lineStart (Statement.text level statements ++ rest) =
      (Lexer.words ⟨widths level, []⟩ .lineStart rest).map (tokens ++ ·) := by
  have flush {text : Text} (solid : Solid text) (level : Nat) :
      Lexer.words ⟨widths level, []⟩ .lineStart (Text.spaces (4 * level) ++ text) =
        Lexer.words ⟨widths level, []⟩ (.inLine false) text := by
    have margin := words_margin solid (Nat.le_refl level)
    rw [Nat.sub_self] at margin
    exact margin.trans (Option.map_id' ..)
  induction reads generalizing level rest with
  | nil => exact (Option.map_id' ..).symm
  | line spoken read behind ih =>
    rw [Statement.text_line, List.append_assoc, List.append_assoc,
      flush (spoken.solid.append _), List.cons_append, spoken.words, ih level room falls, Option.map_map]
    simp [Function.comp_def]
  | @block height statement header body others tokens inner more make found founds opens spoken read
      inside behind inner_ih behind_ih =>
    have later := behind.falls falls
    have deep := inner_ih (level + 1) (by omega) (falls_up later)
    have closed := later (level + 1) (Nat.le_succ level)
    rw [behind_ih level room falls, Nat.add_sub_cancel_left, Option.map_map] at closed
    rw [closed] at deep
    rw [Statement.text_opens opens]
    simp only [List.append_assoc, List.cons_append]
    rw [flush (spoken.solid.append _), spoken.words,
      words_deeper (solid_pass.append _) (by omega), words_pass, deep]
    simp [Function.comp_def]

/-! ### Statements -/

theorem statement_dedent (positive : 0 < reach) (statements : Reader (List Stmt)) (bound : Nat)
    (rest : List Token) :
    Grammar.statement (Nested.upTo reach) statements bound (.dedent :: rest) = none := by
  obtain ⟨depth, rfl⟩ := Nat.exists_eq_add_of_le' positive
  rfl

theorem statement_nil (positive : 0 < reach) (statements : Reader (List Stmt)) (bound : Nat) :
    Grammar.statement (Nested.upTo reach) statements bound [] = none := by
  obtain ⟨depth, rfl⟩ := Nat.exists_eq_add_of_le' positive
  rfl

theorem statement_pass (nested : Nested) (statements : Reader (List Stmt)) (bound : Nat)
    (rest : List Token) :
    Grammar.statement nested statements bound (.keyword .passWord :: .newline :: rest) =
      some ([.pass], rest) := rfl

theorem Reads.fresh (reads : Reads reach height statements tokens found) {rest : List Token}
    (fresh : Fresh rest) : Fresh (tokens ++ rest) := by
  cases reads with
  | nil => exact fresh
  | line spoken read behind =>
    rw [List.append_assoc]
    exact fresh_line spoken.fresh _
  | block opens spoken read inside behind =>
    rw [List.append_assoc]
    exact fresh_line spoken.fresh _

/-- Reading statements one after the other, in front of others. -/
theorem Reads.readsMany (reads : Reads reach height statements tokens found) (positive : 0 < reach)
    (depth bound : Nat) (enough : height ≤ depth) {rest after : List Token}
    {values : List (List Stmt)} (fresh : Fresh rest)
    (others : ReadsMany (Grammar.statement (Nested.upTo reach)
      (statementsUpTo (Nested.upTo reach) depth) bound) rest values after) :
    ∃ all, all.flatten = found ++ values.flatten ∧
      ReadsMany (Grammar.statement (Nested.upTo reach)
        (statementsUpTo (Nested.upTo reach) depth) bound) (tokens ++ rest) all after := by
  induction reads generalizing depth bound rest after values with
  | nil => exact ⟨values, rfl, others⟩
  | line spoken read behind ih =>
    obtain ⟨all, same, reads⟩ := ih depth bound enough fresh others
    refine ⟨_ :: all, by rw [List.flatten_cons, same, ← List.append_assoc], ?_⟩
    simp only [List.append_assoc, List.cons_append]
    refine .next (read _ _ _) ?_ reads
    simp only [List.length_append, List.length_cons]
    omega
  | @block height statement header body more_statements tokens inner more make found founds opens
      spoken read inside behind inner_ih behind_ih =>
    obtain ⟨all, same, reads⟩ := behind_ih depth bound enough fresh others
    obtain ⟨less, rfl⟩ := Nat.exists_eq_add_of_le' (Nat.le_trans (Nat.le_add_left 1 height) enough)
    have last := statement_dedent positive (statementsUpTo (Nested.upTo reach) less) (less + 1)
      (more ++ rest)
    obtain ⟨within, parts, block⟩ := inner_ih less (less + 1) (by omega) (fresh_cons.mpr rfl)
      (.stop last)
    have body : statementsUpTo (Nested.upTo reach) (less + 1)
        (.keyword .passWord :: .newline :: (inner ++ .dedent :: (more ++ rest))) =
          some (.pass :: found, .dedent :: (more ++ rest)) := by
      have whole := many1_of_reads (statement_pass (Nested.upTo reach) _ _ _) block
      rw [statementsUpTo, bind_apply, whole]
      simp [pure_apply, parts]
    refine ⟨[make (.pass :: found)] :: all, by simp [same], ?_⟩
    simp only [List.append_assoc, List.cons_append]
    refine .next (read _ _ _ _ _ body (behind.fresh fresh)) ?_ reads
    simp only [List.length_append, List.length_cons]
    omega

/-! ### Characters -/

theorem clean_text {line : CodeLine} (clean : Text.Clean line.content) : Text.Clean line.text := by
  refine Text.clean_append (fun c member => ?_) clean
  rw [Text.spaces, List.mem_replicate] at member
  rw [member.2]
  decide

/-- What can be read says something in each line, without a break in it. -/
theorem Reads.lines (reads : Reads reach height statements tokens found) (level : Nat) :
    ∀ line ∈ Statement.codeLinesOf level statements,
      Text.Clean line.content ∧ Solid line.content := by
  induction reads generalizing level with
  | nil => simp [Statement.codeLinesOf]
  | line spoken read behind ih =>
    simp only [Statement.codeLinesOf, Statement.codeLines, List.singleton_append,
      List.forall_mem_cons]
    exact ⟨⟨spoken.clean, spoken.solid⟩, ih level⟩
  | block opens spoken read inside behind inner_ih behind_ih =>
    simp only [Statement.codeLinesOf, Statement.codeLines_opens opens, List.cons_append,
      List.forall_mem_cons, List.forall_mem_append]
    exact ⟨⟨spoken.clean, spoken.solid⟩, ⟨clean_pass, solid_pass⟩, inner_ih _, behind_ih _⟩

theorem Reads.append {more : List Statement} {others : List Token} {founds : List Stmt}
    (reads : Reads reach height statements tokens found)
    (behind : Reads reach height more others founds) :
    Reads reach height (statements ++ more) (tokens ++ others) (found ++ founds) := by
  induction reads with
  | nil => exact behind
  | line spoken read _ ih =>
    simp only [List.cons_append, List.append_assoc]
    exact .line spoken read (ih behind)
  | block opens spoken read inside _ _ ih =>
    simp only [List.cons_append, List.append_assoc]
    exact .block opens spoken read inside (ih behind)

end Script

end Stencil

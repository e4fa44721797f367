import Stencil.Proofs.Locality.Enclosed
import Stencil.Proofs.Script.Outline
import Stencil.Proofs.Static.Piece

/-!
What a line puts out, part by part: texts, texts that are escaped, and the texts of what expressions
give. In a literal whatever is no text interrupts it, so that a literal with all its parts is a sum.
-/

set_option autoImplicit false

namespace Stencil.Script.Spliced

open Static (Piece)
open Lexer Reader Grammar

inductive Part where
  | piece (piece : Piece)
  /-- The text of what code gives. -/
  | value (code : Text)

namespace Part

def text (content : Text) : Part := piece ⟨false, content⟩

def escaped (content : Text) : Part := piece ⟨true, content⟩

/-- The expression for a part. -/
def code : Part → Text
  | piece one => one.code
  | value code => Fragment.stringCall code

/-- A part in the inside of a literal. -/
def body : Part → Text
  | piece ⟨false, content⟩ => Fragment.literalBody content
  | part => Fragment.interrupting part.code

/-- What its code is read as. -/
def expr : Part → Expr
  | piece one => one.expr
  | value code => stringOf ((readExpression code).toList.map .positional)

/-- Texts can stand in code, and code between brackets. -/
def Legible : Part → Prop
  | piece one => one.Readable
  | value code => ∃ tree, Encloses code tree

end Part

def sumText (parts : List Part) : Text := Text.join " + ".toList (parts.map Part.code)

/-- A literal that begins with a text as a sum of literals and of what interrupts them. -/
def opened (content : Text) : List Part → List Part
  | [] => [.text content]
  | .piece ⟨false, more⟩ :: rest => opened (content ++ more) rest
  | part :: rest => .text content :: part :: opened [] rest

variable {content : Text} {parts others : List Part} {part : Part}

/-! ### Code -/

theorem opened_ne_nil (content : Text) (parts : List Part) : opened content parts ≠ [] := by
  fun_induction opened content parts with
  | case1 => simp
  | case2 content more rest ih => exact ih
  | case3 => simp

theorem sumText_single (part : Part) : sumText [part] = part.code := by
  simp [sumText, Text.join, List.intercalate]

theorem sumText_cons (filled : parts ≠ []) :
    sumText (part :: parts) = part.code ++ " + ".toList ++ sumText parts := by
  obtain ⟨next, rest, rfl⟩ := List.exists_cons_of_ne_nil filled
  simp [sumText, Text.join, List.intercalate, List.append_assoc]

theorem sumText_append (filled : parts ≠ []) (filled' : others ≠ []) :
    sumText (parts ++ others) = sumText parts ++ " + ".toList ++ sumText others := by
  induction parts with
  | nil => exact absurd rfl filled
  | cons part parts ih =>
    cases parts with
    | nil => rw [List.singleton_append, sumText_cons filled', sumText_single]
    | cons next parts =>
      rw [List.cons_append, sumText_cons (by simp), ih (by simp),
        sumText_cons (List.cons_ne_nil next parts)]
      simp only [List.append_assoc]

/-- The literal with all its parts is the sum. -/
theorem sumText_opened (content : Text) (parts : List Part) :
    sumText (opened content parts) =
      literalOf (Fragment.literalBody content ++ parts.flatMap Part.body) := by
  fun_induction opened content parts with
  | case1 content =>
    rw [List.flatMap_nil, List.append_nil, sumText_single]
    rfl
  | case2 content more rest ih =>
    rw [ih, Fragment.literalBody_append, List.append_assoc]
    rfl
  | case3 content part rest other ih =>
    have interrupts : part.body = Fragment.interrupting part.code := by
      unfold Part.body
      split
      next more => exact absurd rfl (other more)
      next => rfl
    have quotes : Fragment.interrupting part.code =
        '\'' :: (" + ".toList ++ part.code ++ " + ".toList ++ ['\'']) := by
      have before : "' + ".toList = '\'' :: " + ".toList := by decide
      have behind : " + '".toList = " + ".toList ++ ['\''] := by decide
      rw [Fragment.interrupting, before, behind]
      simp
    have here : (Part.text content).code = literalOf (Fragment.literalBody content) := rfl
    rw [sumText_cons (by simp), sumText_cons (opened_ne_nil [] rest), ih, List.flatMap_cons,
      interrupts, quotes, here]
    simp [literalOf, Fragment.literalBody, Text.replaceEach]

/-! ### Reading -/

theorem legible_opened (readable : '\x00' ∉ content) (legible : ∀ part ∈ parts, part.Legible) :
    ∀ part ∈ opened content parts, part.Legible := by
  fun_induction opened content parts with
  | case1 content => exact List.forall_mem_singleton.mpr readable
  | case2 content more rest ih =>
    obtain ⟨first, others⟩ := List.forall_mem_cons.mp legible
    refine ih (fun nul => ?_) others
    rcases List.mem_append.mp nul with before | behind
    · exact readable before
    · exact first behind
  | case3 content part rest other ih =>
    obtain ⟨first, others⟩ := List.forall_mem_cons.mp legible
    exact List.forall_mem_cons.mpr ⟨readable, List.forall_mem_cons.mpr
      ⟨first, ih (List.not_mem_nil) others⟩⟩

/-- A part as an operand of a sum. Its code is that of one line for all line breaks. -/
theorem Part.Legible.operand (legible : part.Legible) :
    ∃ one : Addend, one.code = unifyBreaks part.code ∧ one.expr = part.expr ∧
      ∀ reach, part.code.length < reach → one.Legible reach := by
  cases part with
  | piece one =>
    refine ⟨one.addend, ?_, rfl, fun reach high => ?_⟩
    · exact (unifyBreaks_eq fun c member =>
        ((Static.fits_piece 0 legible).clean c member).2.1).symm
    · obtain ⟨depth, rfl⟩ := Nat.exists_eq_add_of_le' (Nat.le_trans (Nat.succ_pos _) high)
      exact (Static.fits_piece depth legible).toLegible
  | value code =>
    obtain ⟨tree, encloses⟩ := legible
    obtain ⟨inside, legible⟩ := encloses.legible
    refine ⟨textOf code inside tree, ?_, ?_, fun reach high => legible reach ?_⟩
    · have closing : unifyBreaks (code ++ [')']) = unifyBreaks code ++ [')'] :=
        unifyBreaks_append code [] (by decide)
      have call : Part.code (.value code) = "str(".toList ++ (code ++ [')']) :=
        List.append_assoc ..
      rw [call]
      exact (congrArg ("str(".toList ++ ·) closing).symm
    · simp [textOf, Part.expr, encloses.read]
    · refine Nat.lt_of_le_of_lt ?_ high
      simp [Part.code, Fragment.stringCall]
      omega

theorem operands (legible : ∀ part ∈ parts, part.Legible) :
    ∃ all : List Addend, all.map Addend.code = parts.map (fun part => unifyBreaks part.code) ∧
      all.map Addend.expr = parts.map Part.expr ∧
      ∀ reach, (∀ part ∈ parts, part.code.length < reach) → ∀ one ∈ all, one.Legible reach := by
  induction parts with
  | nil => exact ⟨[], rfl, rfl, by simp⟩
  | cons part parts ih =>
    obtain ⟨first, others⟩ := List.forall_mem_cons.mp legible
    obtain ⟨one, code, expr, alone⟩ := first.operand
    obtain ⟨all, codes, exprs, together⟩ := ih others
    refine ⟨one :: all, by simp [code, codes], by simp [expr, exprs], fun reach high => ?_⟩
    obtain ⟨here, later⟩ := List.forall_mem_cons.mp high
    exact List.forall_mem_cons.mpr ⟨alone reach here, together reach later⟩

theorem unifyBreaks_sumText (parts : List Part) :
    unifyBreaks (sumText parts) =
      Text.join " + ".toList (parts.map fun part => unifyBreaks part.code) := by
  induction parts with
  | nil => rfl
  | cons part parts ih =>
    cases parts with
    | nil => simp [sumText_single, Text.join, List.intercalate]
    | cons next parts =>
      have sign : unifyBreaks (" + ".toList ++ sumText (next :: parts)) =
          " + ".toList ++ unifyBreaks (sumText (next :: parts)) := rfl
      have split : unifyBreaks (part.code ++ (" + ".toList ++ sumText (next :: parts))) =
          unifyBreaks part.code ++ unifyBreaks (" + ".toList ++ sumText (next :: parts)) :=
        unifyBreaks_append part.code _ (by decide)
      rw [sumText_cons (by simp), List.append_assoc, split, sign, ih]
      simp [Text.join, List.intercalate]

theorem length_code_le (member : part ∈ parts) : part.code.length ≤ (sumText parts).length := by
  induction parts with
  | nil => cases member
  | cons next parts ih =>
    cases parts with
    | nil => rw [List.mem_singleton.mp member, sumText_single]
    | cons other parts =>
      rw [sumText_cons (by simp), List.length_append, List.length_append]
      rcases List.mem_cons.mp member with rfl | member
      · omega
      · have bound := ih member
        omega

theorem nul_notMem_code (legible : part.Legible) : '\x00' ∉ part.code := by
  cases part with
  | piece one => exact fun nul => ((Static.fits_piece 0 legible).clean _ nul).2.2 rfl
  | value code =>
    obtain ⟨tree, encloses⟩ := legible
    have apart : '\x00' ∉ "str(".toList := by decide
    simp only [Part.code, Fragment.stringCall, List.mem_append, not_or]
    exact ⟨⟨apart, encloses.readable⟩, by simp⟩

theorem nul_notMem_sumText (legible : ∀ part ∈ parts, part.Legible) : '\x00' ∉ sumText parts := by
  have sign : '\x00' ∉ " + ".toList := by decide
  induction parts with
  | nil => exact List.not_mem_nil
  | cons part parts ih =>
    obtain ⟨first, others⟩ := List.forall_mem_cons.mp legible
    cases parts with
    | nil =>
      rw [sumText_single]
      exact nul_notMem_code first
    | cons next parts =>
      rw [sumText_cons (by simp), List.mem_append, List.mem_append, not_or, not_or]
      exact ⟨⟨nul_notMem_code first, sign⟩, ih others⟩

theorem readModule_line {source : Text} {tokens : List Token} {statement : Stmt}
    (readable : '\x00' ∉ source) (lexed : statementTokens source = some (tokens ++ [Token.newline]))
    (read : ReadsLine (source.length + 1) tokens [statement]) : readModule source = .ok [statement] := by
  have whole : statementsUpTo (Nested.upTo (source.length + 1)) (source.length + 1)
      (tokens ++ [Token.newline]) = some ([statement], []) := by
    have single := many1_of_reads (read (statementsUpTo (Nested.upTo (source.length + 1)) source.length)
      (source.length + 1) []) (.stop (statement_nil (Nat.succ_pos _) _ _))
    rw [statementsUpTo, bind_apply, single]
    rfl
  have noNul : source.contains '\x00' = false := by
    rw [← Bool.not_eq_true, List.contains_iff_mem]
    exact readable
  have parsed : parseModule source = some [statement] := by
    simp [parseModule, lexed, whole, guard]
  rw [readModule, noNul, if_neg (by simp), parsed]

theorem statementTokens_appending {source : Text} {first : Addend} {others : List Addend} {reach : Nat}
    (unified : unifyBreaks source = appending (sumCode first others))
    (legible : ∀ one ∈ first :: others, one.Legible reach) :
    statementTokens source = some (appendTokens (sumTokens first others) ++ [Token.newline]) := by
  have last : (appending (sumCode first others)).getLast? = some ')' := List.getLast?_concat
  have closed : closeLine (appending (sumCode first others)) =
      appending (sumCode first others) ++ ['\n'] := by
    rw [closeLine, last]
    exact if_neg (by decide)
  have margin : words ⟨[], []⟩ .lineStart (appending (sumCode first others) ++ ['\n']) =
      (words ⟨[], []⟩ (.inLine false) (appending (sumCode first others) ++ ['\n'])).map ([] ++ ·) :=
    words_steps 1 rfl
  rw [statementTokens, unified, closed, scanAll_eq, margin, words_appending legible, words_nothing]
  rfl

theorem appending_eq (sum : Text) :
    appending sum = "_output.append(".toList ++ (sum ++ [')']) := by
  simp only [appending, List.append_assoc]
  rfl

/-- The line that puts a sum out, as a program of its own. -/
theorem readModule_appending (legible : ∀ other ∈ part :: parts, other.Legible) :
    readModule (appending (sumText (part :: parts))) =
      .ok [.expression (appendCall (sumOf part.expr (parts.map Part.expr)))] := by
  obtain ⟨all, codes, exprs, together⟩ := operands legible
  obtain ⟨first, others, rfl⟩ : ∃ first others, all = first :: others := by
    cases all with
    | nil => cases codes
    | cons first others => exact ⟨first, others, rfl⟩
  obtain ⟨expr, exprs⟩ := List.cons.inj exprs
  have name : "_output.append(".toList.length = 15 := by decide
  have size : (appending (sumText (part :: parts))).length + 1 =
      (sumText (part :: parts)).length + 15 + 2 := by
    rw [appending_eq, List.length_append, List.length_append, name, List.length_singleton]
    omega
  have known : ∀ one ∈ first :: others,
      one.Legible ((sumText (part :: parts)).length + 15) := by
    refine together _ fun other member => ?_
    have bound := length_code_le member
    omega
  have unified : unifyBreaks (appending (sumText (part :: parts))) =
      appending (sumCode first others) := by
    have last : unifyBreaks (sumText (part :: parts) ++ [')']) =
        unifyBreaks (sumText (part :: parts)) ++ [')'] :=
      unifyBreaks_append (sumText (part :: parts)) [] (by decide)
    have opening : unifyBreaks ("_output.append(".toList ++ (sumText (part :: parts) ++ [')'])) =
        "_output.append(".toList ++ unifyBreaks (sumText (part :: parts) ++ [')']) := rfl
    rw [appending_eq, appending_eq, opening, last, unifyBreaks_sumText, ← codes, sumCode_eq]
  have readable : '\x00' ∉ appending (sumText (part :: parts)) := by
    have apart : '\x00' ∉ "_output.append(".toList := by decide
    rw [appending_eq, List.mem_append, List.mem_append, not_or, not_or]
    exact ⟨apart, nul_notMem_sumText legible, by simp⟩
  have read := readsLine_appending known
  rw [← size] at read
  rw [readModule_line readable (statementTokens_appending unified known) read, sumExpr, expr, exprs]

end Stencil.Script.Spliced

import Mathlib
import Stencil.Proofs.Script.Reading

/-!
Readers that look at their own words only. Where some words are read in front of two tails, each of
which begins with a word that can only end an expression, the same comes of them: the readers
agree. Two readers are compared, so that it can be said of readers of different depths.
-/

set_option autoImplicit false

namespace Stencil.Script

/-- Words that no expression goes beyond. -/
def Token.isBorder : Token → Bool
  | .symbol sign => sign.isCloser
  | .newline => true
  | .indent => true
  | .dedent => true
  | _ => false

/-- The brackets to be closed behind a word; a bracket that does not fit has no answer. -/
def Token.follow (closers : List Symbol) : Token → Option (List Symbol)
  | .symbol sign =>
    match sign.closer? with
    | some closer => some (closer :: closers)
    | none =>
      if sign.isCloser then
        match closers with
        | innermost :: outer => if innermost = sign then some outer else none
        | [] => none
      else some closers
  | .newline => none
  | .indent => none
  | .dedent => none
  | _ => some closers

/-- Words that are no brackets and no layout. -/
def Token.isPlain : Token → Bool
  | .symbol sign => sign.closer?.isNone && !sign.isCloser
  | .newline => false
  | .indent => false
  | .dedent => false
  | _ => true

theorem Token.follow_plain {word : Token} (plain : word.isPlain = true) (closers : List Symbol) :
    word.follow closers = some closers := by
  cases word <;> simp_all [isPlain, follow]

theorem Token.isBorder_plain {word : Token} (plain : word.isPlain = true) :
    word.isBorder = false := by
  cases word <;> simp_all [isPlain, isBorder]

/-- How much there is to read in a word. -/
def Token.weight : Token → Nat
  | .quotation found => found.body.length + 2
  | _ => 1

theorem Token.weight_pos (word : Token) : 0 < word.weight := by
  cases word <;> simp [weight]

namespace Reader

def weight (words : List Token) : Nat := (words.map Token.weight).sum

@[simp] theorem weight_nil : weight [] = 0 := rfl

@[simp] theorem weight_cons (word : Token) (words : List Token) :
    weight (word :: words) = word.weight + weight words := rfl

theorem weight_append (left right : List Token) : weight (left ++ right) = weight left + weight right := by
  simp [weight]

theorem weight_mem {word : Token} {words : List Token} (member : word ∈ words) :
    word.weight ≤ weight words := by
  induction words with
  | nil => cases member
  | cons first words ih =>
    rw [weight_cons]
    rcases List.mem_cons.mp member with rfl | later
    · exact Nat.le_add_right _ _
    · exact Nat.le_trans (ih later) (Nat.le_add_left _ _)

theorem length_le_weight (words : List Token) : words.length ≤ weight words := by
  induction words with
  | nil => exact Nat.le_refl _
  | cons word words ih =>
    have positive := word.weight_pos
    simp only [List.length_cons, weight_cons]
    omega

/-- Words that close the given brackets and all that they open. -/
def Settles (closers : List Symbol) (words : List Token) : Prop :=
  words.foldlM Token.follow closers = some []

theorem settles_nil {closers : List Symbol} : Settles closers [] ↔ closers = [] := by
  simp [Settles, pure]

theorem settles_cons {closers : List Symbol} {word : Token} {words : List Token} :
    Settles closers (word :: words) ↔ ∃ later, word.follow closers = some later ∧ Settles later words := by
  simp [Settles, Option.bind_eq_some_iff]

theorem settles_plain {closers : List Symbol} {word : Token} {words : List Token}
    (plain : word.isPlain = true) : Settles closers (word :: words) ↔ Settles closers words := by
  simp [settles_cons, Token.follow_plain plain]

theorem settles_open {closers : List Symbol} {opening closing : Symbol} {words : List Token}
    (closer : opening.closer? = some closing) :
    Settles closers (.symbol opening :: words) ↔ Settles (closing :: closers) words := by
  simp [settles_cons, Token.follow, closer]

theorem settles_close {closers : List Symbol} {close : Symbol} {words : List Token}
    (closing : close.isCloser = true) :
    Settles (close :: closers) (.symbol close :: words) ↔ Settles closers words := by
  have none : close.closer? = none := by
    cases close <;> first | rfl | cases closing
  simp [settles_cons, Token.follow, closing, none]

/-- Words with no border behind them in reach: they begin with nothing that ends an expression. -/
theorem Settles.first {words : List Token} (settles : Settles [] words) :
    ∀ word ∈ words.head?, word.isBorder = false := by
  rintro word first
  cases words with
  | nil => cases first
  | cons other rest =>
    cases first
    obtain ⟨later, follows, -⟩ := settles_cons.mp settles
    cases word with
    | symbol sign => cases sign <;> first | rfl | cases follows
    | newline => cases follows
    | indent => cases follows
    | dedent => cases follows
    | _ => rfl

/-- Words behind an expression. -/
def Border (tail : List Token) : Prop := ∀ word ∈ tail.head?, word.isBorder = true

theorem border_nil : Border [] := by simp [Border]

theorem border_cons {word : Token} {rest : List Token} :
    Border (word :: rest) ↔ word.isBorder = true := by
  simp [Border]

theorem Border.head?_ne {tail : List Token} (border : Border tail) {word : Token}
    (apart : word.isBorder = false) : tail.head? ≠ some word := by
  intro first
  rw [border word first] at apart
  cases apart

/-- What two readers made of the same words in front of different tails. A value says how many
words it takes at least. -/
inductive Same {α : Type} (closers : List Symbol) (gap : α → Nat) (words one other : List Token) :
    Option (α × List Token) → Option (α × List Token) → Prop where
  | failed : Same closers gap words one other none none
  | read (value : α) (taken left : List Token) (split : words = taken ++ left)
      (enough : gap value ≤ taken.length) (settles : Settles closers left) :
      Same closers gap words one other (some (value, left ++ one)) (some (value, left ++ other))

/-- Readers that make the same of words that are not too many. The words close the first of the
given brackets and what is around them, and the words that are left close the second ones. -/
def Agree {α : Type} (opened closed : List Symbol) (gap : α → Nat) (bound : Nat)
    (reader reader' : Reader α) : Prop :=
  ∀ (outer : List Symbol) (words one other : List Token), Settles (opened ++ outer) words →
    Border one → Border other → weight words < bound →
    Same (closed ++ outer) gap words one other (reader (words ++ one)) (reader' (words ++ other))

variable {α β : Type} {opened middle closed : List Symbol} {gap gap' : α → Nat} {total : β → Nat}
  {bound bound' : Nat} {reader reader' : Reader α} {next next' : α → Reader β}

theorem Same.less {closers : List Symbol} {words one other : List Token}
    {first second : Option (α × List Token)} (same : Same closers gap words one other first second)
    (smaller : ∀ value, gap' value ≤ gap value) : Same closers gap' words one other first second := by
  cases same with
  | failed => exact .failed
  | read value taken left split enough settles =>
    exact .read value taken left split (Nat.le_trans (smaller value) enough) settles

theorem Agree.less (agree : Agree opened closed gap bound reader reader')
    (smaller : ∀ value, gap' value ≤ gap value) (lower : bound' ≤ bound) :
    Agree opened closed gap' bound' reader reader' :=
  fun outer words one other settles border border' light =>
    (agree outer words one other settles border border' (Nat.lt_of_lt_of_le light lower)).less smaller

/-- What takes words may be followed by what is bound to take none. -/
theorem Agree.loose (agree : Agree opened closed gap bound reader reader') :
    Agree opened closed (fun _ => 0) bound reader reader' :=
  agree.less (fun _ => Nat.zero_le _) (Nat.le_refl _)

theorem Agree.fewer (agree : Agree opened closed gap bound reader reader') (count : Nat) :
    Agree opened closed (fun _ => 0) (bound - count) reader reader' :=
  agree.less (fun _ => Nat.zero_le _) (Nat.sub_le _ _)

theorem Agree.within (agree : Agree [] [] gap bound reader reader') (brackets : List Symbol) :
    Agree brackets brackets gap bound reader reader' :=
  fun outer => agree (brackets ++ outer)

theorem weight_left {words taken left : List Token} {count : Nat} (split : words = taken ++ left)
    (enough : count ≤ taken.length) : weight left + count ≤ weight words := by
  have length := length_le_weight taken
  rw [split, weight_append]
  omega

theorem Agree.bind (first : Agree opened middle gap bound reader reader')
    (later : ∀ value, Agree middle closed (fun result => total result - gap value)
      (bound - gap value) (next value) (next' value)) :
    Agree opened closed total bound (reader >>= next) (reader' >>= next') := by
  intro outer words one other settles border border' light
  rw [bind_apply, bind_apply]
  have start := first outer words one other settles border border' light
  generalize reader (words ++ one) = found at start ⊢
  generalize reader' (words ++ other) = found' at start ⊢
  cases start with
  | failed => exact .failed
  | read value taken left split enough settled =>
    have lighter := weight_left split enough
    have rest := later value outer left one other settled border border' (by omega)
    simp only [Option.bind_some]
    generalize next value (left ++ one) = found at rest ⊢
    generalize next' value (left ++ other) = found' at rest ⊢
    cases rest with
    | failed => exact .failed
    | read result taken' left' split' enough' settled' =>
      refine .read result (taken ++ taken') left' (by rw [split, split', List.append_assoc]) ?_ settled'
      rw [List.length_append]
      omega

/-- The first reader may take nothing. -/
theorem Agree.andThen (first : Agree opened middle (fun _ => 0) bound reader reader')
    (later : ∀ value, Agree middle closed total bound (next value) (next' value)) :
    Agree opened closed total bound (reader >>= next) (reader' >>= next') :=
  first.bind later

/-- The first reader takes a word for both. -/
theorem Agree.taking (first : Agree opened middle (fun _ => 1) bound reader reader')
    (later : ∀ value, Agree middle closed (fun _ => 0) bound (next value) (next' value)) :
    Agree opened closed (fun _ => 1) bound (reader >>= next) (reader' >>= next') :=
  first.bind fun value => (later value).less (fun _ => Nat.le_refl _) (Nat.sub_le _ _)

/-- The first reader takes a word, so that what follows may be bound to fewer words. -/
theorem Agree.andFewer (first : Agree opened middle (fun _ => 1) (bound + 1) reader reader')
    (later : ∀ value, Agree middle closed (fun _ => 0) bound (next value) (next' value)) :
    Agree opened closed (fun _ => 1) (bound + 1) (reader >>= next) (reader' >>= next') :=
  first.bind fun value => (later value).less (fun _ => Nat.le_refl _) (Nat.le_refl _)

theorem agree_pure (value : α) (none : gap value = 0) :
    Agree closed closed gap bound (pure value) (pure value) :=
  fun _ words _ _ settles _ _ _ => .read value [] words rfl (by simp [none]) settles

theorem agree_value (value : α) :
    Agree closed closed (fun _ => 0) bound (pure value) (pure value) :=
  agree_pure value rfl

theorem agree_failure :
    Agree opened closed gap bound (failure : Reader α) (failure : Reader α) :=
  fun _ _ _ _ _ _ _ _ => .failed

theorem agree_guard (condition : Prop) [Decidable condition] :
    Agree closed closed (fun _ => 0) bound (guard condition : Reader Unit)
      (guard condition : Reader Unit) := by
  by_cases holds : condition
  next =>
    simp only [guard, if_pos holds]
    exact agree_pure () rfl
  next =>
    simp only [guard, if_neg holds]
    exact agree_failure

theorem Agree.return {change : α → β} (first : Agree opened closed gap bound reader reader')
    (same : ∀ value, total (change value) ≤ gap value) :
    Agree opened closed total bound (do return change (← reader)) (do return change (← reader')) :=
  first.bind fun value => agree_pure _ (Nat.sub_eq_zero_of_le (same value))

theorem Agree.ite {condition : Prop} [Decidable condition] {other other' : Reader α}
    (yes : Agree opened closed gap bound reader reader')
    (no : Agree opened closed gap bound other other') :
    Agree opened closed gap bound (if condition then reader else other)
      (if condition then reader' else other') := by
  split
  next => exact yes
  next => exact no

/-! ### Single words -/

/-- A word that closes or opens brackets, or does neither. -/
def Turns (opened : List Symbol) (word : Token) (later : List Symbol) : Prop :=
  ∀ outer, word.follow (opened ++ outer) = some (later ++ outer)

theorem turns_plain {word : Token} (plain : word.isPlain = true) (opened : List Symbol) :
    Turns opened word opened :=
  fun _ => Token.follow_plain plain _

theorem turns_open {opening closing : Symbol} (closer : opening.closer? = some closing)
    (opened : List Symbol) : Turns opened (.symbol opening) (closing :: opened) :=
  fun outer => by simp [Token.follow, closer]

theorem turns_close {close : Symbol} (closing : close.isCloser = true) (opened : List Symbol) :
    Turns (close :: opened) (.symbol close) opened := by
  have none : close.closer? = none := by
    cases close <;> first | rfl | cases closing
  exact fun outer => by simp [Token.follow, closing, none]

/-- Where a word can come next, it is told from the words of the border. -/
theorem Turns.cases {word : Token} {later outer : List Symbol} (turns : Turns opened word later)
    {words : List Token} (settles : Settles (opened ++ outer) words) :
    (∃ rest, words = word :: rest ∧ Settles (later ++ outer) rest) ∨
      words.head? ≠ some word ∧ ∀ tail, Border tail → (words ++ tail).head? ≠ some word := by
  cases words with
  | cons first rest =>
    by_cases same : first = word
    next =>
      subst same
      obtain ⟨found, follows, settled⟩ := settles_cons.mp settles
      rw [turns outer] at follows
      cases follows
      exact .inl ⟨rest, rfl, settled⟩
    next => exact .inr ⟨by simpa using same, fun tail _ => by simpa using same⟩
  | nil =>
    obtain ⟨rfl, rfl⟩ := List.append_eq_nil_iff.mp (settles_nil.mp settles)
    refine .inr ⟨by simp, fun tail border => border.head?_ne ?_⟩
    -- No word of the border can come where no bracket is open.
    have follows := turns []
    cases word with
    | symbol sign => cases sign <;> first | rfl | cases follows
    | newline => cases follows
    | indent => cases follows
    | dedent => cases follows
    | _ => rfl

theorem token_other {expected : Token} {tokens : List Token}
    (other : tokens.head? ≠ some expected) : token expected tokens = none := by
  cases tokens with
  | nil => rfl
  | cons found rest =>
    have different : found ≠ expected := fun same => other (by simp [same])
    simp [token, different]

theorem agree_token {expected : Token} {later : List Symbol} (turns : Turns opened expected later) :
    Agree opened later (fun _ => 1) bound (token expected) (token expected) := by
  intro outer words one other settles border border' light
  rcases turns.cases settles with ⟨rest, rfl, settled⟩ | ⟨-, apart⟩
  · simp only [List.cons_append, token, if_true]
    exact .read () [expected] rest rfl (Nat.le_refl _) settled
  · rw [token_other (apart one border), token_other (apart other border')]
    exact .failed

/-- A choice by the word that comes next, which is taken if it is the one. -/
theorem Agree.ifAccept {expected : Token} {later : List Symbol} {other other' : Reader α}
    (turns : Turns opened expected later)
    (yes : Agree later closed (fun value => gap value - 1) (bound - 1) reader reader')
    (no : Agree opened closed gap bound other other') :
    Agree opened closed gap bound (do if ← accept expected then reader else other)
      (do if ← accept expected then reader' else other') := by
  intro outer words one tail settles border border' light
  simp only [bind_apply]
  rcases turns.cases settles with ⟨rest, rfl, settled⟩ | ⟨-, apart⟩
  · have positive := expected.weight_pos
    rw [weight_cons] at light
    have rest := yes outer rest one tail settled border border' (by omega)
    simp only [List.cons_append, accept_same, Option.bind_some, if_true]
    generalize reader _ = found at rest ⊢
    generalize reader' _ = found' at rest ⊢
    cases rest with
    | failed => exact .failed
    | read value taken left split enough settled =>
      refine .read value (expected :: taken) left (by rw [split]; rfl) ?_ settled
      rw [List.length_cons]
      omega
  · simp only [accept_other (apart one border), accept_other (apart tail border'),
      Option.bind_some, Bool.false_eq_true, if_false]
    exact no outer words one tail settles border border' light

theorem agree_accept {expected : Token} (turns : Turns opened expected opened) :
    Agree opened opened Bool.toNat bound (accept expected) (accept expected) := by
  intro outer words one other settles border border' light
  rcases turns.cases settles with ⟨rest, rfl, settled⟩ | ⟨-, apart⟩
  · simp only [List.cons_append, accept_same]
    exact .read true [expected] rest rfl (Nat.le_refl _) settled
  · rw [accept_other (apart one border), accept_other (apart other border')]
    exact .read false [] words rfl (Nat.le_refl _) settles

theorem agree_nextIs {expected : Token} {later : List Symbol} (turns : Turns opened expected later) :
    Agree opened opened (fun _ => 0) bound (nextIs expected) (nextIs expected) := by
  intro outer words one other settles border border' light
  have same : ((words ++ one).head? == some expected) = ((words ++ other).head? == some expected) := by
    rcases turns.cases settles with ⟨rest, rfl, -⟩ | ⟨-, apart⟩
    · rfl
    · rw [beq_false_of_ne (apart one border), beq_false_of_ne (apart other border')]
  rw [nextIs, nextIs, same]
  exact .read _ [] words rfl (Nat.le_refl _) settles

theorem agree_reject {unexpected : Token} {later : List Symbol}
    (turns : Turns opened unexpected later) :
    Agree opened opened (fun _ => 0) bound (reject unexpected) (reject unexpected) :=
  (agree_nextIs turns).andThen fun _ => agree_guard _

/-- A reader of single words of one kind. -/
theorem agree_single {read : Token → Option α} (plain : ∀ word value, read word = some value → word.isPlain = true)
    (reads : ∀ tokens, reader tokens =
      tokens.head?.bind fun word => (read word).map fun value => (value, tokens.tail)) :
    Agree opened opened (fun _ => 1) bound reader reader := by
  intro outer words one other settles border border' light
  cases words with
  | nil =>
    have fails {tail : List Token} (border : Border tail) : reader tail = none := by
      rw [reads]
      cases tail with
      | nil => rfl
      | cons word rest =>
        cases found : read word with
        | none => simp [found]
        | some value =>
          have known := border word rfl
          rw [Token.isBorder_plain (plain word value found)] at known
          cases known
    rw [List.nil_append, List.nil_append, fails border, fails border']
    exact .failed
  | cons word rest =>
    rw [reads, reads]
    cases found : read word with
    | none =>
      simp only [List.cons_append, List.head?_cons, Option.bind_some, found, Option.map_none]
      exact .failed
    | some value =>
      simp only [List.cons_append, List.head?_cons, Option.bind_some, found, Option.map_some,
        List.tail_cons]
      exact .read value [word] rest rfl (Nat.le_refl _)
        ((settles_plain (plain word value found)).mp settles)

/-- The name that a token stands for. -/
def named : Token → Option Text
  | .name letters => some (nameOf letters)
  | _ => none

theorem agree_name : Agree opened opened (fun _ => 1) bound name name := by
  have plain (word : Token) (value : Text) (found : named word = some value) :
      word.isPlain = true := by
    cases word <;> first | rfl | cases found
  refine agree_single plain fun tokens => ?_
  cases tokens with
  | nil => rfl
  | cons word rest => cases word <;> rfl

/-! ### Loops -/

theorem Agree.possibly (agree : Agree opened opened gap bound reader reader') :
    Agree opened opened (fun found => (found.map gap).getD 0) bound (possibly reader)
      (possibly reader') := by
  intro outer words one other settles border border' light
  have found := agree outer words one other settles border border' light
  simp only [Reader.possibly]
  generalize reader (words ++ one) = first at found ⊢
  generalize reader' (words ++ other) = second at found ⊢
  cases found with
  | failed => exact .read none [] words rfl (Nat.le_refl _) settles
  | read value taken left split enough settled =>
    exact .read (some value) taken left split enough settled

/-- How many words a step takes at least: one if it finds something. -/
def stepGap (found : Option α) : Nat := if found.isSome then 1 else 0

/-- A step that finds nothing where no word is its own. -/
def Calm (step : α → Reader (Option α)) : Prop :=
  ∀ value tail, Border tail → step value tail = some (none, tail)

theorem Calm.growUpTo {step : α → Reader (Option α)} (calm : Calm step) (count : Nat) (value : α)
    {tail : List Token} (border : Border tail) :
    growUpTo step count value tail = some (value, tail) := by
  cases count with
  | zero => rfl
  | succ count => simp [Reader.growUpTo, bind_apply, calm value tail border, pure_apply]

/-- Both loops end with the words, however many steps they are given beyond. -/
theorem Agree.growUpTo {step step' : α → Reader (Option α)}
    (steps : ∀ value, Agree closed closed stepGap bound (step value) (step' value))
    (calm : closed = [] → Calm step ∧ Calm step') {outer : List Symbol} {one other : List Token}
    (border : Border one) (border' : Border other) {count count' : Nat} {words : List Token}
    (settles : Settles (closed ++ outer) words) (light : weight words < bound)
    (enough : words.length ≤ count) (enough' : words.length ≤ count') (value : α) :
    Same (closed ++ outer) (fun _ => 0) words one other
      (Reader.growUpTo step count value (words ++ one))
      (Reader.growUpTo step' count' value (words ++ other)) := by
  induction count generalizing words count' value with
  | zero =>
    cases List.length_eq_zero_iff.mp (Nat.le_zero.mp enough)
    obtain ⟨rfl, rfl⟩ := List.append_eq_nil_iff.mp (settles_nil.mp settles)
    simp only [List.nil_append, (calm rfl).1.growUpTo _ _ border,
      (calm rfl).2.growUpTo _ _ border']
    exact .read value [] [] rfl (Nat.le_refl _) settles
  | succ count ih =>
    cases words with
    | nil =>
      obtain ⟨rfl, rfl⟩ := List.append_eq_nil_iff.mp (settles_nil.mp settles)
      simp only [List.nil_append, (calm rfl).1.growUpTo _ _ border,
        (calm rfl).2.growUpTo _ _ border']
      exact .read value [] [] rfl (Nat.le_refl _) settles
    | cons word words =>
      obtain ⟨count', rfl⟩ := Nat.exists_eq_succ_of_ne_zero
        (Nat.ne_of_gt (Nat.lt_of_lt_of_le (Nat.succ_pos _) enough'))
      have first := steps value outer (word :: words) one other settles border border' light
      rw [Reader.growUpTo, Reader.growUpTo, bind_apply, bind_apply]
      generalize step value (word :: words ++ one) = found at first ⊢
      generalize step' value (word :: words ++ other) = found' at first ⊢
      cases first with
      | failed => exact .failed
      | read result taken left split takes settled =>
        cases result with
        | none => exact .read value taken left split (Nat.zero_le _) settled
        | some next =>
          have lighter := weight_left split takes
          have shorter : left.length < (word :: words).length := by
            rw [split, List.length_append]
            exact Nat.lt_add_of_pos_left takes
          have rest := ih settled (Nat.lt_of_le_of_lt (Nat.le_of_add_right_le lighter) light)
            (Nat.le_of_lt_succ (Nat.lt_of_lt_of_le shorter enough))
            (Nat.le_of_lt_succ (Nat.lt_of_lt_of_le shorter enough')) next
          simp only [Option.bind_some]
          generalize Reader.growUpTo step count next (left ++ one) = last at rest ⊢
          generalize Reader.growUpTo step' count' next (left ++ other) = last' at rest ⊢
          cases rest with
          | failed => exact .failed
          | read value taken' left' split' _ settled =>
            exact .read value (taken ++ taken') left' (by rw [split, split', List.append_assoc])
              (Nat.zero_le _) settled

theorem Agree.grow {step step' : α → Reader (Option α)}
    (steps : ∀ value, Agree closed closed stepGap bound (step value) (step' value))
    (calm : closed = [] → Calm step ∧ Calm step') (start : α) :
    Agree closed closed (fun _ => 0) bound (grow step start) (grow step' start) := by
  intro outer words one other settles border border' light
  exact Agree.growUpTo steps calm border border' settles light (by simp) (by simp) start

/-- What takes a word fails where there is none. -/
theorem Agree.fails (agree : Agree [] [] (fun _ => 1) bound reader reader') (present : 0 < bound)
    {tail : List Token} (border : Border tail) : reader tail = none ∧ reader' tail = none := by
  have same := agree [] [] tail tail rfl border border present
  simp only [List.nil_append] at same
  generalize reader tail = found at same ⊢
  generalize reader' tail = found' at same ⊢
  cases same with
  | failed => exact ⟨rfl, rfl⟩
  | read value taken left split enough settles =>
    rw [(List.append_eq_nil_iff.mp split.symm).1] at enough
    cases enough

theorem Agree.possibly_step (agree : Agree opened opened (fun _ => 1) bound reader reader') :
    Agree opened opened stepGap bound (Reader.possibly reader) (Reader.possibly reader') :=
  agree.possibly.less (fun found => by cases found <;> simp [stepGap]) (Nat.le_refl _)

theorem Agree.bound_pos {opened closed : List Symbol}
    (agree : 0 < bound → Agree opened closed gap bound reader reader') :
    Agree opened closed gap bound reader reader' :=
  fun outer words one other settles border border' light =>
    agree (Nat.lt_of_le_of_lt (Nat.zero_le _) light) outer words one other settles border border' light

theorem Agree.growPossibly {step step' : α → Reader α}
    (steps : ∀ value, Agree closed closed (fun _ => 1) bound (step value) (step' value)) (start : α) :
    Agree closed closed (fun _ => 0) bound (Reader.grow (fun value => Reader.possibly (step value)) start)
      (Reader.grow (fun value => Reader.possibly (step' value)) start) := by
  refine .bound_pos fun present =>
    .grow (fun value => (steps value).possibly_step) (fun empty => ?_) start
  subst empty
  have fails {tail : List Token} (border : Border tail) (value : α) :=
    (steps value).fails present border
  exact ⟨fun value tail border => by simp [Reader.possibly, (fails border value).1],
    fun value tail border => by simp [Reader.possibly, (fails border value).2]⟩

theorem Agree.many (agree : Agree closed closed (fun _ => 1) bound reader reader') :
    Agree closed closed (fun _ => 0) bound (many reader) (many reader') := by
  refine .andThen ?_ fun found => agree_value _
  refine .bound_pos fun present => .grow (fun found => ?_) (fun empty => ?_) []
  · refine agree.possibly_step.return fun next => ?_
    cases next <;> simp [stepGap]
  · subst empty
    have fails {tail : List Token} (border : Border tail) := agree.fails present border
    exact ⟨fun found tail border => by simp [bind_apply, pure_apply, Reader.possibly, (fails border).1],
      fun found tail border => by simp [bind_apply, pure_apply, Reader.possibly, (fails border).2]⟩

theorem Agree.many1 (agree : Agree closed closed (fun _ => 1) bound reader reader') :
    Agree closed closed (fun _ => 1) bound (many1 reader) (many1 reader') :=
  agree.taking fun _ => agree.many.andThen fun _ => agree_value _

theorem Agree.separated {separator : Token} (plain : separator.isPlain = true)
    (agree : Agree closed closed (fun _ => 1) bound reader reader') :
    Agree closed closed (fun _ => 1) bound (separated separator reader)
      (separated separator reader') := by
  have next : Agree closed closed (fun _ => 1) bound (do token separator; reader)
      (do token separator; reader') :=
    (agree_token (turns_plain plain closed)).taking fun _ => agree.loose
  exact agree.taking fun _ => next.many.andThen fun _ => agree_value _

theorem Agree.commaList (agree : Agree closed closed (fun _ => 1) bound reader reader') :
    Agree closed closed (fun _ => 1) bound (commaList reader) (commaList reader') :=
  (agree.separated rfl).taking fun _ =>
    (agree_accept (turns_plain rfl closed)).loose.andThen fun _ => agree_value _

/-- Brackets go with what stands in them. -/
theorem Agree.enclosed {opening closing : Symbol} (closer : opening.closer? = some closing)
    (agree : Agree [closing] [closing] (fun _ => 0) bound reader reader') :
    Agree [] [] (fun _ => 1) (bound + 1) (enclosed opening closing reader)
      (enclosed opening closing reader') := by
  have closes : closing.isCloser = true := by
    cases opening <;> cases closer <;> rfl
  refine (agree_token (turns_open closer [])).andFewer fun _ => agree.andThen fun value => ?_
  exact (agree_token (turns_close closes [])).loose.andThen fun _ => agree_value _

/-! ### Words that are looked at -/

/-- Agreement on words with a certain beginning. -/
def AgreeFrom {α : Type} (start : List Token) (opened closed : List Symbol) (gap : α → Nat)
    (bound : Nat) (reader reader' : Reader α) : Prop :=
  ∀ (outer : List Symbol) (rest one other : List Token), Settles (opened ++ outer) (start ++ rest) →
    Border one → Border other → weight (start ++ rest) < bound →
    Same (closed ++ outer) gap (start ++ rest) one other (reader (start ++ rest ++ one))
      (reader' (start ++ rest ++ other))

theorem Agree.from (agree : Agree opened closed gap bound reader reader') (start : List Token) :
    AgreeFrom start opened closed gap bound reader reader' :=
  fun outer rest => agree outer (start ++ rest)

theorem settles_start {start : List Token} (plain : start.all Token.isPlain = true)
    {closers : List Symbol} {words : List Token} :
    Settles closers (start ++ words) ↔ Settles closers words := by
  induction start with
  | nil => rfl
  | cons word start ih =>
    rw [List.all_cons, Bool.and_eq_true] at plain
    rw [List.cons_append, settles_plain plain.1, ih plain.2]

/-- Plain words that are known are skipped. -/
theorem AgreeFrom.skipping {start : List Token} {count : Nat} (all : start.length = count)
    (plain : start.all Token.isPlain = true) {next next' : Unit → Reader β}
    (agree : Agree opened closed (fun value => total value - count) (bound - count) (next ())
      (next' ())) :
    AgreeFrom start opened closed total bound (skip count >>= next) (skip count >>= next') := by
  intro outer rest one other settles border border' light
  have heavy := length_le_weight start
  rw [weight_append] at light
  have found := agree outer rest one other ((settles_start plain).mp settles) border border' (by omega)
  have skipped (tail : List Token) : skip count (start ++ rest ++ tail) = some ((), rest ++ tail) := by
    rw [skip, List.append_assoc, List.drop_left' all]
  simp only [bind_apply, skipped, Option.bind_some]
  generalize next () (rest ++ one) = first at found ⊢
  generalize next' () (rest ++ other) = second at found ⊢
  cases found with
  | failed => exact .failed
  | read value taken left split enough settled =>
    refine .read value (start ++ taken) left (by rw [split, List.append_assoc]) ?_ settled
    rw [List.length_append]
    omega

theorem AgreeFrom.further {start : List Token} (agree : AgreeFrom start opened closed gap bound reader reader')
    (more : List Token) : AgreeFrom (start ++ more) opened closed gap bound reader reader' := by
  intro outer rest
  rw [List.append_assoc]
  exact agree outer (more ++ rest)

/-- One plain word is skipped, whatever else is known. -/
theorem AgreeFrom.skipOne {word : Token} {more : List Token} (plain : word.isPlain = true)
    {next next' : Unit → Reader β}
    (agree : Agree opened closed (fun value => total value - 1) (bound - 1) (next ()) (next' ())) :
    AgreeFrom (word :: more) opened closed total bound (skip 1 >>= next) (skip 1 >>= next') := by
  have alone : AgreeFrom [word] opened closed total bound (skip 1 >>= next) (skip 1 >>= next') :=
    skipping rfl (by simp [plain]) agree
  exact alone.further more

theorem AgreeFrom.skipTwo {first second : Token} (plain : first.isPlain = true)
    (plain' : second.isPlain = true) {next next' : Unit → Reader β}
    (agree : Agree opened closed (fun value => total value - 2) (bound - 2) (next ()) (next' ())) :
    AgreeFrom [first, second] opened closed total bound (skip 2 >>= next) (skip 2 >>= next') :=
  skipping rfl (by simp [plain, plain']) agree

theorem AgreeFrom.guarded {start : List Token} (condition : Prop) [Decidable condition]
    {next next' : Unit → Reader β}
    (agree : AgreeFrom start opened closed total bound (next ()) (next' ())) :
    AgreeFrom start opened closed total bound (guard condition >>= next) (guard condition >>= next') := by
  by_cases holds : condition
  next =>
    simp only [guard, if_pos holds]
    exact agree
  next =>
    simp only [guard, if_neg holds]
    exact fun _ _ _ _ _ _ _ _ => .failed

/-- A choice by the word that comes next, which is left where it is. -/
theorem Agree.ifNextIs {expected : Token} {later : List Symbol} {other other' : Reader α}
    (turns : Turns opened expected later)
    (yes : AgreeFrom [expected] opened closed gap bound reader reader')
    (no : Agree opened closed gap bound other other') :
    Agree opened closed gap bound (do if ← nextIs expected then reader else other)
      (do if ← nextIs expected then reader' else other') := by
  intro outer words one tail settles border border' light
  simp only [bind_apply, nextIs, Option.bind_some]
  rcases turns.cases settles with ⟨rest, rfl, -⟩ | ⟨-, apart⟩
  · simpa using yes outer rest one tail settles border border' light
  · simp only [beq_false_of_ne (apart one border), beq_false_of_ne (apart tail border'),
      Bool.false_eq_true, if_false]
    exact no outer words one tail settles border border' light

theorem border_cases {word : Token} (border : word.isBorder = true) :
    word = .symbol .closeParen ∨ word = .symbol .closeBracket ∨ word = .symbol .closeBrace ∨
      word = .newline ∨ word = .indent ∨ word = .dedent := by
  cases word with
  | symbol sign => cases sign <;> simp_all [Token.isBorder, Symbol.isCloser]
  | newline => simp
  | indent => simp
  | dedent => simp
  | _ => cases border

/-- What is done by the next word is the same for all words of the border. -/
def Blind (pick : Option Token → Reader α) : Prop :=
  ∀ word, word.isBorder = true → pick (some word) = pick none

/-- What is done by the next two words, the same where the border begins with either of them. -/
structure Blind₂ (pick : Option Token → Option Token → Reader α) : Prop where
  first : ∀ word second, word.isBorder = true → pick (some word) second = pick none none
  second : ∀ found word, word.isBorder = true → pick found (some word) = pick found none

theorem Blind.tail {pick : Option Token → Reader α} (blind : Blind pick) {tail : List Token}
    (border : Border tail) : pick tail.head? = pick none := by
  cases tail with
  | nil => rfl
  | cons word rest => exact blind word (border word rfl)

theorem agree_peek {pick pick' : Option Token → Reader α} (blind : Blind pick) (blind' : Blind pick')
    (each : ∀ word, AgreeFrom [word] opened closed gap bound (pick (some word)) (pick' (some word)))
    (nothing : opened = [] → Agree opened closed gap bound (pick none) (pick' none)) :
    Agree opened closed gap bound (peek >>= pick) (peek >>= pick') := by
  intro outer words one other settles border border' light
  simp only [bind_apply, peek, Option.bind_some]
  cases words with
  | cons word rest => exact each word outer rest one other settles border border' light
  | nil =>
    obtain ⟨rfl, rfl⟩ := List.append_eq_nil_iff.mp (settles_nil.mp settles)
    simp only [List.nil_append, blind.tail border, blind'.tail border']
    exact nothing rfl [] [] one other settles border border' light

theorem agree_peek₂ {pick pick' : Option Token → Option Token → Reader α} (blind : Blind₂ pick)
    (blind' : Blind₂ pick')
    (both : ∀ first second, AgreeFrom [first, second] opened closed gap bound
      (pick (some first) (some second)) (pick' (some first) (some second)))
    (single : ∀ word, AgreeFrom [word] opened closed gap bound (pick (some word) none)
      (pick' (some word) none))
    (nothing : opened = [] → Agree opened closed gap bound (pick none none) (pick' none none)) :
    Agree opened closed gap bound (peek >>= fun first => peekSecond >>= pick first)
      (peek >>= fun first => peekSecond >>= pick' first) := by
  intro outer words one other settles border border' light
  simp only [bind_apply, peek, peekSecond, Option.bind_some]
  have unseen {pick : Option Token → Option Token → Reader α} (blind : Blind₂ pick)
      {tail : List Token} (border : Border tail) : pick tail.head? tail[1]? = pick none none := by
    cases tail with
    | nil => rfl
    | cons word rest => exact blind.first word _ (border word rfl)
  have beyond {pick : Option Token → Option Token → Reader α} (blind : Blind₂ pick)
      {tail : List Token} (border : Border tail) (found : Option Token) :
      pick found tail.head? = pick found none := by
    cases tail with
    | nil => rfl
    | cons word rest => exact blind.second found word (border word rfl)
  rcases words with _ | ⟨first, _ | ⟨second, rest⟩⟩
  next =>
    obtain ⟨rfl, rfl⟩ := List.append_eq_nil_iff.mp (settles_nil.mp settles)
    simp only [List.nil_append, unseen blind border, unseen blind' border']
    exact nothing rfl [] [] one other settles border border' light
  next =>
    have found := single first outer [] one other settles border border' light
    simpa [← List.head?_eq_getElem?, beyond blind border, beyond blind' border'] using found
  next => exact both first second outer rest one other settles border border' light

/-- Within brackets there is a next word, so that the second one is one of the words or the first
one beyond them. -/
theorem agree_peekSecond {pick pick' : Option Token → Reader α} (blind : Blind pick)
    (blind' : Blind pick') (inside : opened ≠ [])
    (later : ∀ second, Agree opened closed gap bound (pick second) (pick' second)) :
    Agree opened closed gap bound (peekSecond >>= pick) (peekSecond >>= pick') := by
  intro outer words one other settles border border' light
  simp only [bind_apply, peekSecond, Option.bind_some]
  match words with
  | first :: second :: rest =>
    exact later (some second) outer _ one other settles border border' light
  | [word] =>
    have found := later none outer [word] one other settles border border' light
    simpa [← List.head?_eq_getElem?, blind.tail border, blind'.tail border'] using found
  | [] => exact absurd (List.append_eq_nil_iff.mp (settles_nil.mp settles)).1 inside

end Reader

end Stencil.Script

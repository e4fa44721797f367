import Mathlib.Data.List.InsertIdx
import Stencil.Proofs.Relocation.Value
import Stencil.Script.Builtin

/-!
Parts, arithmetic, filled texts, builtin functions and members do not depend on where values are.
-/

set_option autoImplicit false

namespace Stencil.Script

open Run

variable {move : Nat ↪ Nat}

/-! ### Parts -/

theorem mirrors_itemAt (items : List Value) (index : Value) :
    Mirrors move (Value.moved move) (Value.itemAt items index)
      (Value.itemAt (items.map (Value.moved move)) (index.moved move)) := by
  rw [Value.itemAt, Value.itemAt, Value.integer?_moved]
  split
  next => exact mirrors_fail _
  next number _ =>
    have found : ((Value.position? (items.map (Value.moved move)).length number).bind
        fun spot => (items.map (Value.moved move))[spot]?) =
        ((Value.position? items.length number).bind fun spot => items[spot]?).map
          (Value.moved move) := by
      rw [List.length_map]
      cases Value.position? items.length number with
      | none => rfl
      | some spot => exact List.getElem?_map ..
    rw [found]
    cases (Value.position? items.length number).bind fun spot => items[spot]? with
    | none => exact mirrors_fail _
    | some value => exact mirrors_pure rfl

theorem mirrors_subscript (object index : Value) :
    Mirrors move (Value.moved move) (object.subscript index)
      ((object.moved move).subscript (index.moved move)) := by
  have ofElements (object : Value) : Mirrors move (Value.moved move)
      (do Value.itemAt (← object.elements) index)
      (do Value.itemAt (← (object.moved move).elements) (index.moved move)) :=
    (mirrors_elements object).bind fun items => mirrors_itemAt items index
  cases object with
  | dict place =>
    simp only [Value.moved, Value.subscript, isKey_moved]
    refine .refusing fun _ => (mirrors_dictEntries place).bind fun entries => ?_
    refine (mirrors_lookupWith (mirrors_equal index)).bind fun found => ?_
    cases found with
    | none => exact mirrors_fail _
    | some value => exact mirrors_pure rfl
  | text value => exact ofElements (.text value)
  | datum datum =>
    cases datum with
    | points value => exact ofElements (.datum (.points value))
    | bytes value => exact ofElements (.datum (.bytes value))
    | _ => exact mirrors_fail _
  | tuple items =>
    rw [Value.moved_tuple]
    exact mirrors_itemAt items index
  | list place => exact (mirrors_listItems place).bind fun items => mirrors_itemAt items index
  | range start stop step =>
    simp only [Value.moved, Value.subscript, Value.integer?_moved]
    split
    next => exact mirrors_fail _
    next =>
      split
      next => exact mirrors_pure rfl
      next => exact mirrors_fail _
  | _ => exact mirrors_fail _

theorem mirrors_insertKey (key value : Value) (entries : List (Value × Value)) :
    Mirrors move (List.map (Value.movedEntry move)) (Value.insertKey key value entries)
      (Value.insertKey (key.moved move) (value.moved move)
        (entries.map (Value.movedEntry move))) := by
  induction entries with
  | nil => exact mirrors_pure rfl
  | cons entry rest ih =>
    refine (mirrors_equal key entry.1).bind fun found => ?_
    refine .ite (fun _ => mirrors_pure rfl) fun _ => ?_
    exact ih.bind fun others => mirrors_pure rfl

theorem mirrors_storeItem (object index value : Value) :
    Mirrors move id (object.storeItem index value)
      ((object.moved move).storeItem (index.moved move) (value.moved move)) := by
  cases object with
  | dict place =>
    simp only [Value.moved, Value.storeItem, isKey_moved]
    refine .refusing fun _ => (mirrors_dictEntries place).bind fun entries => ?_
    exact (mirrors_insertKey index value entries).bind fun found =>
      mirrors_replace place (.dict found)
  | list place =>
    refine (mirrors_listItems place).bind fun items => ?_
    simp only [Value.integer?_moved, List.length_map]
    split
    next => exact mirrors_fail _
    next =>
      split
      next spot _ =>
        rw [← List.map_set]
        exact mirrors_replace place (.list (items.set spot value))
      next => exact mirrors_fail _
  | _ => exact mirrors_fail _

theorem mirrors_removeItem (object index : Value) :
    Mirrors move id (object.removeItem index)
      ((object.moved move).removeItem (index.moved move)) := by
  cases object with
  | dict place =>
    simp only [Value.moved, Value.removeItem, isKey_moved]
    refine .refusing fun _ => (mirrors_dictEntries place).bind fun entries => ?_
    refine (mirrors_filterM fun entry => ?_).bind fun kept => ?_
    · exact (mirrors_equal index entry.1).bind fun found => mirrors_pure rfl
    · rw [List.length_map, List.length_map]
      exact .ite (fun _ => mirrors_fail _) fun _ => mirrors_replace place (.dict kept)
  | list place =>
    refine (mirrors_listItems place).bind fun items => ?_
    simp only [Value.integer?_moved, List.length_map]
    split
    next => exact mirrors_fail _
    next =>
      split
      next spot _ =>
        rw [List.eraseIdx_map]
        exact mirrors_replace place (.list (items.eraseIdx spot))
      next => exact mirrors_fail _
  | _ => exact mirrors_fail _

theorem mirrors_sliceBound (value : Value) :
    Mirrors move id (Value.sliceBound value) (Value.sliceBound (value.moved move)) := by
  cases value <;> first | exact mirrors_pure rfl | exact mirrors_fail _

theorem mirrors_picked {α β : Type} {carry : α → β} (items : List α)
    (bounds : Option (Int × Int × Int)) :
    Mirrors move (List.map carry)
      (match bounds with
        | some (start, stop, step) =>
          pure ((rangeItems start stop step).filterMap fun spot => items[spot.toNat]?)
        | none => Run.fail .wrongValue)
      (match bounds with
        | some (start, stop, step) =>
          pure ((rangeItems start stop step).filterMap fun spot => (items.map carry)[spot.toNat]?)
        | none => Run.fail .wrongValue) := by
  split
  next =>
    refine mirrors_pure ?_
    rw [List.map_filterMap]
    simp only [List.getElem?_map]
  next => exact mirrors_fail _

theorem mirrors_slice (object lower upper step : Value) :
    Mirrors move (Value.moved move) (object.slice lower upper step)
      ((object.moved move).slice (lower.moved move) (upper.moved move) (step.moved move)) := by
  refine (mirrors_sliceBound lower).bind fun lower => ?_
  refine (mirrors_sliceBound upper).bind fun upper => ?_
  refine (mirrors_sliceBound step).bind fun step => ?_
  have alike {α : Type} (items : List α) := @mirrors_picked move α α id items
    (Value.sliceRange items.length lower upper step)
  simp only [List.map_id_fun, List.map_id] at alike
  cases object with
  | text value => exact (alike value).bind fun found => mirrors_pure rfl
  | tuple items =>
    rw [Value.moved_tuple]
    simp only [id, List.length_map]
    exact (mirrors_picked items _).bind fun found => mirrors_pure (Value.moved_tuple ..)
  | list place =>
    refine (mirrors_listItems place).bind fun items => ?_
    simp only [id, List.length_map]
    exact (mirrors_picked items _).bind fun found => mirrors_newList found
  | datum datum =>
    cases datum with
    | points value => exact (alike value).bind fun found => mirrors_pure (Value.moved_ofPoints ..)
    | bytes value => exact (alike value).bind fun found => mirrors_pure rfl
    | _ => exact mirrors_fail _
  | range start stop stride =>
    simp only [Value.moved, id]
    split
    next => exact mirrors_pure rfl
    next => exact mirrors_fail _
  | _ => exact mirrors_fail _

/-! ### Arithmetic -/

theorem mirrors_integers (op : BinaryOp) (a b : Int) :
    Mirrors move (Value.moved move) (Value.integers op a b) (Value.integers op a b) := by
  cases op with
  | add | subtract | multiply => exact mirrors_pure rfl
  | floorDivide | modulo | divide | power =>
    exact .ite (fun _ => mirrors_fail _) fun _ => mirrors_pure rfl
  | _ => exact mirrors_fail _

theorem mirrors_reals (op : BinaryOp) (a b : Float) :
    Mirrors move (Value.moved move) (Value.reals op a b) (Value.reals op a b) := by
  cases op with
  | add | subtract | multiply => exact mirrors_pure rfl
  | floorDivide | modulo | divide =>
    exact .ite (fun _ => mirrors_fail _) fun _ => mirrors_pure rfl
  | _ => exact mirrors_fail _

theorem mirrors_repeated {α β : Type} {carry : α → β} (items : List α) (count : Int) :
    Mirrors move (List.map carry) (Value.repeated items count)
      (Value.repeated (items.map carry) count) := by
  rw [Value.repeated, Value.repeated, List.isEmpty_map, List.length_map]
  refine .refusing fun _ => .ite (fun _ => mirrors_pure rfl) fun _ => .refusing fun _ => ?_
  exact mirrors_pure (by simp)

theorem mirrors_repeatedText {α : Type} (value : List α) (count : Int) :
    Mirrors move id (Value.repeatedText value count) (Value.repeatedText value count) := by
  rw [Value.repeatedText]
  refine .refusing fun _ => ?_
  have found := @mirrors_repeated move α α id value count
  rwa [List.map_id_fun] at found

theorem mirrors_repeatedValue (sequence : Value) (count : Int) :
    Mirrors move (Value.moved move) (sequence.repeatedValue count)
      ((sequence.moved move).repeatedValue count) := by
  cases sequence with
  | text value => exact (mirrors_repeatedText value count).bind fun found => mirrors_pure rfl
  | tuple items =>
    rw [Value.moved_tuple]
    exact (mirrors_repeated items count).bind fun found => mirrors_pure (Value.moved_tuple ..)
  | list place =>
    refine (mirrors_listItems place).bind fun items => ?_
    exact (mirrors_repeated items count).bind fun found => mirrors_newList found
  | datum datum =>
    cases datum with
    | points value =>
      exact (mirrors_repeatedText value count).bind fun found =>
        mirrors_pure (Value.moved_ofPoints ..)
    | bytes value => exact (mirrors_repeatedText value count).bind fun found => mirrors_pure rfl
    | _ => exact mirrors_fail _
  | _ => exact mirrors_fail _

theorem mirrors_mixed (op : BinaryOp) (left right : Value) :
    Mirrors move (Value.moved move) (Value.mixed op left right)
      (Value.mixed op (left.moved move) (right.moved move)) := by
  unfold Value.mixed
  simp only [Value.isNumber_moved, Value.integer?_moved]
  refine .ite (fun _ => ?_) fun _ => ?_
  · exact (mirrors_toReal left).bind fun a => (mirrors_toReal right).bind fun b =>
      mirrors_reals op a b
  · split
    next => exact mirrors_repeatedValue right _
    next => exact mirrors_repeatedValue left _
    next => exact mirrors_fail _

/-- The sum of two values that are texts, one with surrogates, or are added like numbers. -/
def Value.joinedPoints (left right : Value) : Run Value :=
  match left.points?, right.points? with
  | some a, some b => return Value.ofPoints (a ++ b)
  | _, _ => Value.mixed .add left right

theorem mirrors_joinedPoints (left right : Value) :
    Mirrors move (Value.moved move) (left.joinedPoints right)
      ((left.moved move).joinedPoints (right.moved move)) := by
  unfold Value.joinedPoints
  rw [Value.points?_moved, Value.points?_moved]
  split
  next => exact mirrors_pure (Value.moved_ofPoints ..)
  next => exact mirrors_mixed .add left right

theorem mirrors_joined (left right : Value) :
    Mirrors move (Value.moved move) (Value.joined left right)
      (Value.joined (left.moved move) (right.moved move)) := by
  have other (left right : Value) : Mirrors move _ _ _ := mirrors_joinedPoints left right
  cases one : left with
  | text a =>
    cases two : right with
    | text b => exact mirrors_pure rfl
    | _ => exact (two ▸ other (.text a) right :)
  | tuple a =>
    cases two : right with
    | tuple b =>
      rw [Value.moved_tuple, Value.moved_tuple]
      exact mirrors_pure (by simp)
    | _ => exact (two ▸ other (.tuple a) right :)
  | list a =>
    cases two : right with
    | list b =>
      refine (mirrors_listItems a).bind fun items => (mirrors_listItems b).bind fun others => ?_
      rw [← List.map_append]
      exact mirrors_newList _
    | _ => exact (two ▸ other (.list a) right :)
  | datum first =>
    cases kind : first with
    | bytes a =>
      cases two : right with
      | datum second =>
        cases form : second with
        | bytes b => exact mirrors_pure rfl
        | _ => exact (form ▸ other (.datum (.bytes a)) (.datum second) :)
      | _ => exact (two ▸ other (.datum (.bytes a)) right :)
    | _ => exact (kind ▸ other (.datum first) right :)
  | _ => exact (one ▸ other left right :)

/-! ### Filled texts -/

namespace Fill

def Supply.moved (move : Nat → Nat) (supply : Supply) : Supply where
  waiting := supply.waiting.map (Value.moved move)
  keyed := supply.keyed.map (Value.moved move)

def movedBehind {α : Type} (move : Nat → Nat) (found : α × Supply) : α × Supply :=
  (found.1, found.2.moved move)

theorem supply_moved (move : Nat → Nat) (value : Value) :
    (Supply.of value).moved move = Supply.of (value.moved move) := by
  cases value with
  | tuple items =>
    rw [Value.moved_tuple]
    rfl
  | datum datum => cases datum <;> rfl
  | _ => rfl

theorem mirrors_next (supply : Supply) :
    Mirrors move (fun found => (found.1.moved move, found.2.moved move)) supply.next
      (supply.moved move).next := by
  obtain ⟨waiting, keyed⟩ := supply
  cases waiting with
  | nil => exact mirrors_fail _
  | cons value rest => exact mirrors_pure rfl

theorem mirrors_lookUp (supply : Supply) (key : Field.Key) :
    Mirrors move (Supply.moved move) (supply.lookUp key) ((supply.moved move).lookUp key) := by
  obtain ⟨waiting, keyed⟩ := supply
  cases key with
  | absent => exact mirrors_pure rfl
  | unclosed => cases keyed <;> exact mirrors_fail _
  | named key =>
    cases keyed with
    | none => exact mirrors_fail _
    | some container =>
      exact (mirrors_subscript container (.text key)).bind fun found => mirrors_pure rfl

theorem mirrors_finish (supply : Supply) :
    Mirrors move id supply.finish (supply.moved move).finish := by
  obtain ⟨waiting, keyed⟩ := supply
  simp only [Supply.finish, Supply.moved, List.isEmpty_map, Option.isNone_map]
  exact .ite (fun _ => mirrors_fail _) fun _ => mirrors_pure rfl

theorem mirrors_extent (supply : Supply) (extent : Field.Extent) :
    Mirrors move (movedBehind move) (supply.extent extent) ((supply.moved move).extent extent) := by
  cases extent with
  | absent | fixed => exact mirrors_pure rfl
  | supplied =>
    refine (mirrors_next supply).bind fun found => ?_
    simp only [Value.integer?_moved]
    split
    next => exact mirrors_pure rfl
    next => exact mirrors_fail _

theorem mirrors_integerOnly (value : Value) :
    Mirrors move id (integerOnly value) (integerOnly (value.moved move)) := by
  rw [integerOnly, integerOnly, Value.integer?_moved]
  split
  next => exact mirrors_pure rfl
  next => exact mirrors_fail _

theorem mirrors_wholeOf (value : Value) :
    Mirrors move id (wholeOf value) (wholeOf (value.moved move)) := by
  cases value with
  | real number =>
    simp only [Value.moved, wholeOf]
    split
    next => exact mirrors_pure rfl
    next => exact mirrors_fail _
  | _ => first | exact mirrors_pure rfl | exact mirrors_fail _

theorem mirrors_characterOf (value : Value) :
    Mirrors move id (characterOf value) (characterOf (value.moved move)) := by
  have other (value : Value) : Mirrors move id
      (do
        let code ← integerOnly value
        if code < 0 ∨ 0x10FFFF < code then Run.fail .overflow
        else if h : code.toNat.isValidChar then return Char.ofNatAux code.toNat h
        else Run.fail .unsupported)
      (do
        let code ← integerOnly (value.moved move)
        if code < 0 ∨ 0x10FFFF < code then Run.fail .overflow
        else if h : code.toNat.isValidChar then return Char.ofNatAux code.toNat h
        else Run.fail .unsupported) := by
    refine (mirrors_integerOnly value).bind fun code => .ite (fun _ => mirrors_fail _) fun _ => ?_
    simp only [id]
    split
    next => exact mirrors_pure rfl
    next => exact mirrors_fail _
  cases shape : value with
  | text value =>
    match value with
    | [c] => exact mirrors_pure rfl
    | [] | _ :: _ :: _ => exact mirrors_fail _
  | _ => exact (shape ▸ other value :)

theorem mirrors_piece (letter : Char) (flags : Field.Flags) (precision : Option Int)
    (value : Value) :
    Mirrors move id (piece letter flags precision value)
      (piece letter flags precision (value.moved move)) := by
  unfold piece
  split
  · exact (mirrors_display value).bind fun _ => mirrors_pure rfl
  · exact (mirrors_shown value).bind fun _ => mirrors_pure rfl
  · exact (mirrors_shown value).bind fun _ => mirrors_pure rfl
  · exact (mirrors_characterOf value).bind fun _ => mirrors_pure rfl
  · exact (mirrors_wholeOf value).bind fun _ => .refusing fun _ => mirrors_pure rfl
  · exact (mirrors_wholeOf value).bind fun _ => .refusing fun _ => mirrors_pure rfl
  · exact (mirrors_wholeOf value).bind fun _ => .refusing fun _ => mirrors_pure rfl
  · exact (mirrors_integerOnly value).bind fun _ => mirrors_pure rfl
  · exact (mirrors_integerOnly value).bind fun _ => mirrors_pure rfl
  · exact (mirrors_integerOnly value).bind fun _ => mirrors_pure rfl
  · exact (mirrors_toReal value).bind fun _ => mirrors_pure rfl
  · exact (mirrors_toReal value).bind fun _ => mirrors_pure rfl
  · exact (mirrors_toReal value).bind fun _ => mirrors_pure rfl
  · exact (mirrors_toReal value).bind fun _ => mirrors_pure rfl
  · exact (mirrors_toReal value).bind fun _ => mirrors_pure rfl
  · exact (mirrors_toReal value).bind fun _ => mirrors_pure rfl
  · exact mirrors_fail _

theorem mirrors_fillField (field : Field) (supply : Supply) :
    Mirrors move (movedBehind move) (fillField field supply)
      (fillField field (supply.moved move)) := by
  refine (mirrors_lookUp supply field.key).bind fun supply => ?_
  refine (mirrors_extent supply field.width).bind fun (width, supply) => ?_
  refine (mirrors_extent supply field.precision).bind fun (precision, supply) => ?_
  simp only [movedBehind]
  split
  next => exact mirrors_fail _
  next => exact mirrors_pure rfl
  next letter _ _ =>
    refine (mirrors_next supply).bind fun (value, supply) => ?_
    exact (mirrors_piece letter _ precision value).bind fun written => mirrors_pure rfl

theorem mirrors_fillAll (fuel : Nat) (supply : Supply) (pattern : Text) :
    Mirrors move id (fillAll fuel supply pattern) (fillAll fuel (supply.moved move) pattern) := by
  induction fuel generalizing supply pattern with
  | zero => exact (mirrors_finish supply).bind fun _ => mirrors_pure rfl
  | succ fuel ih =>
    cases pattern with
    | nil => exact (mirrors_finish supply).bind fun _ => mirrors_pure rfl
    | cons c rest =>
      by_cases percent : c = '%'
      next =>
        cases percent
        rw [fillAll, fillAll]
        refine (mirrors_fillField _ supply).bind fun (written, supply) => ?_
        exact (ih supply _).bind fun others => mirrors_pure rfl
      next =>
        have plain (supply : Supply) : fillAll (fuel + 1) supply (c :: rest) =
            (do return c :: (← fillAll fuel supply rest)) := by
          rw [fillAll]
          simpa using percent
        rw [plain, plain]
        exact (ih supply rest).bind fun others => mirrors_pure rfl

theorem mirrors_run (pattern : Text) (values : Value) :
    Mirrors move id (run pattern values) (run pattern (values.moved move)) := by
  rw [run, run, ← supply_moved]
  exact mirrors_fillAll _ _ pattern

end Fill

/-! ### Operators -/

/-- What an operation gives whose operands are not both integers. -/
def Value.unlike (op : BinaryOp) (left right : Value) : Run Value :=
  match op, left with
  | .add, _ => Value.joined left right
  | .modulo, .text pattern => return .text (← Fill.run pattern right)
  | _, _ => Value.mixed op left right

theorem mirrors_unlike (op : BinaryOp) (left right : Value) :
    Mirrors move (Value.moved move) (Value.unlike op left right)
      (Value.unlike op (left.moved move) (right.moved move)) := by
  cases op with
  | add => exact mirrors_joined left right
  | modulo =>
    cases shape : left with
    | text pattern =>
      exact (Fill.mirrors_run pattern right).bind fun found => mirrors_pure rfl
    | _ => exact (shape ▸ mirrors_mixed .modulo left right :)
  | _ => exact mirrors_mixed _ left right

theorem mirrors_binary (op : BinaryOp) (left right : Value) :
    Mirrors move (Value.moved move) (Value.binary op left right)
      (Value.binary op (left.moved move) (right.moved move)) := by
  unfold Value.binary
  simp only [Value.integer?_moved]
  split
  next => exact mirrors_integers op _ _
  next => exact mirrors_unlike op left right

theorem mirrors_augmented (op : BinaryOp) (left right : Value) :
    Mirrors move (Value.moved move) (Value.augmented op left right)
      (Value.augmented op (left.moved move) (right.moved move)) := by
  have plain (op : BinaryOp) (left : Value) := @mirrors_binary move op left right
  cases shape : left with
  | list place =>
    cases which : op with
    | add =>
      refine (mirrors_elements right).bind fun added => (mirrors_listItems place).bind fun items => ?_
      rw [← List.map_append]
      exact (mirrors_replace place (.list (items ++ added))).bind fun _ => mirrors_pure rfl
    | multiply =>
      simp only [Value.moved, Value.augmented, Value.integer?_moved]
      split
      next count _ =>
        refine (mirrors_listItems place).bind fun items => ?_
        refine (mirrors_repeated items count).bind fun found => ?_
        exact (mirrors_replace place (.list found)).bind fun _ => mirrors_pure rfl
      next => exact mirrors_fail _
    | _ => exact (which ▸ plain op (.list place) :)
  | _ => cases which : op <;> exact (which ▸ shape ▸ plain op left :)

theorem mirrors_unary (op : UnaryOp) (operand : Value) :
    Mirrors move (Value.moved move) (Value.unary op operand)
      (Value.unary op (operand.moved move)) := by
  cases op with
  | not => exact (mirrors_truthy operand).bind fun found => mirrors_pure rfl
  | _ =>
    cases operand <;> first | exact mirrors_pure rfl | exact mirrors_fail _

end Stencil.Script

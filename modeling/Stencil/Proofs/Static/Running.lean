import Stencil.Proofs.Module.Running
import Stencil.Proofs.Static.Piece

/-!
Running the lines of a template without code: wherever they stand in the function that renders,
each adds its text to what has been put out.
-/

set_option autoImplicit false

namespace Stencil.Script.Static

open Module

/-! ### Names -/

theorem sits_piece (piece : Piece) : Sits piece.expr [] := by
  obtain ⟨escaped, text⟩ := piece
  cases escaped with
  | false => exact sits_constant _
  | true => exact (sits_name _).call (sits_constant _)

theorem sits_sumOf {first : Expr} (others : List Piece) (sits : Sits first []) :
    Sits (Grammar.sumOf first (others.map Piece.expr)) [] := by
  induction others generalizing first with
  | nil => exact sits
  | cons piece others ih => exact ih (sits.binary (sits_piece piece) .add)

theorem Entry.expr_eq (entry : Entry) :
    entry.expr = Grammar.sumOf entry.first.expr (entry.others.map Piece.expr) := by
  rw [Entry.expr, sumExpr, List.map_map]
  rfl

theorem sits_entry (entry : Entry) : Sits entry.expr [] := by
  rw [entry.expr_eq]
  exact sits_sumOf entry.others (sits_piece entry.first)

theorem binds_entries (blocks : Nat) (entries : List Entry) :
    BindsAll blocks (entries.map Entry.statement) [] := by
  induction entries with
  | nil => exact .nil
  | cons entry entries ih =>
    have call : Sits (appendCall entry.expr) [] :=
      ((sits_name outputName).attributeOf _).call (sits_entry entry)
    exact .cons call.binds ih

/-! ### Values -/

variable {env : Env} {frame : Frame} {fuel need output : Nat} {texts : List Text} {store : Store}

theorem gives_piece (within : Within env frame) (piece : Piece) :
    Gives env 8 piece.expr piece.shown := by
  obtain ⟨escaped, text⟩ := piece
  cases escaped with
  | false => exact (gives_constant text).less (by decide)
  | true =>
    intro fuel store enough ready
    obtain ⟨less, rfl⟩ := Nat.exists_eq_add_of_le' enough
    have function : Names.value escapeName env store = .ok (.function (env.globals + 1)) store :=
      Names.value_outside within.escape (Names.globalValue_apply ready.names rfl)
    have argument : eval (less + 6) env (.constant (.string (Points.ofText text))) store =
        .ok (.text text) store := by
      rw [eval, constantValue, ofPoints_ofText]
      rfl
    refine ⟨_, ?_, Store.keeps_push store (.bindings [("text".toList, .text text)])⟩
    exact eval_call function (evalArguments_single rfl argument)
      (call_escape ready within.shallow text)

theorem gives_sumOf (within : Within env frame) {first : Expr} {text : Text} (others : List Piece)
    (large : 8 ≤ need) (gives : Gives env need first text) :
    Gives env (need + others.length) (Grammar.sumOf first (others.map Piece.expr))
      (text ++ others.flatMap Piece.shown) := by
  induction others generalizing first text need with
  | nil =>
    rw [List.flatMap_nil, List.append_nil]
    exact gives
  | cons piece others ih =>
    have added := gives.add (gives_piece within piece)
    rw [Nat.max_eq_left large] at added
    have summed := ih (Nat.le_succ_of_le large) added
    have size : need + (others.length + 1) = need.succ + others.length := by omega
    rw [List.flatMap_cons, ← List.append_assoc, List.length_cons, size]
    exact summed

theorem gives_entry (within : Within env frame) (entry : Entry) :
    Gives env (8 + entry.others.length) entry.expr entry.shown := by
  rw [entry.expr_eq, Entry.shown, Entry.pieces, List.flatMap_cons]
  exact gives_sumOf within entry.others (Nat.le_refl 8) (gives_piece within entry.first)

/-! ### Statements -/

theorem exec_entry (within : Within env frame) {entry : Entry}
    (enough : entry.others.length + 11 ≤ fuel)
    (rendering : Rendering env.globals frame output texts store) :
    ∃ later, exec fuel env entry.statement store = .ok .next later ∧
      Rendering env.globals frame output (texts ++ [entry.shown]) later ∧
      store.KeepsBut output later := by
  obtain ⟨less, rfl⟩ := Nat.exists_eq_add_of_le' (Nat.le_trans (Nat.le_add_left 11 _) enough)
  obtain ⟨middle, evaluated, kept⟩ := gives_entry within entry (less + 8) store (by omega)
    rendering.ready
  have held := rendering.keeps kept
  exact ⟨_, exec_append within (sits_entry entry).plain rendering evaluated held,
    held.add entry.shown, (kept.but output).trans (Store.keepsBut_put middle output _)⟩

/-- Entries put out their texts in order. -/
theorem execAll_entries (within : Within env frame) {entries : List Entry}
    (enough : ∀ entry ∈ entries, entry.others.length + 11 ≤ fuel)
    (rendering : Rendering env.globals frame output texts store) :
    ∃ later, execAll (fuel + 1) env (entries.map Entry.statement) store = .ok .next later ∧
      Rendering env.globals frame output (texts ++ entries.map Entry.shown) later ∧
      store.KeepsBut output later := by
  induction entries generalizing texts store with
  | nil =>
    refine ⟨store, rfl, ?_, (Store.Keeps.refl store).but output⟩
    rw [List.map_nil, List.append_nil]
    exact rendering
  | cons entry entries ih =>
    obtain ⟨middle, first, added, kept⟩ :=
      exec_entry within (enough entry (List.mem_cons_self ..)) rendering
    obtain ⟨later, others, finished, keeps⟩ :=
      ih (fun other member => enough other (List.mem_cons_of_mem _ member)) added
    rw [← List.append_cons] at finished
    exact ⟨later, execAll_next first others, finished, kept.trans keeps⟩

/-- As the whole body of the function that renders they put out nothing else. -/
theorem renders_entries {entries : List Entry} (short : ∀ entry ∈ entries, entry.others.length ≤ 3)
    (before : Store) (page : Value) :
    Renders before page [] (entries.map Entry.statement)
      ((entries.map Entry.shown).map Points.ofText) := by
  intro globals frame output started begun
  have within := begun.within List.not_mem_nil (show 1 < maximalCalls by decide)
  have enough : ∀ entry ∈ entries, entry.others.length + 11 ≤ 999999998 := by
    intro entry member
    have bound := short entry member
    omega
  obtain ⟨later, ran, finished, _⟩ := execAll_entries within enough begun.rendering
  exact ⟨later, ran, finished.rendered⟩

end Stencil.Script.Static

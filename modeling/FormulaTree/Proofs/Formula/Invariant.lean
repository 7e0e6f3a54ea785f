import FormulaTree.Formula.Walk
import FormulaTree.Proofs.Evaluation.Conditional
import FormulaTree.Proofs.Formula.Obtainable
import FormulaTree.Proofs.Render.Branches
import FormulaTree.Proofs.Render.Operands

set_option autoImplicit false

namespace FormulaTree.Formula

open Render

theorem sound_of_mem_visitsFrom {formula : Formula} {address : List Position}
    {parent : Option Formula} {visit : Visit} (h : formula.Sound)
    (mem : visit ∈ formula.visitsFrom address parent) : visit.formula.Sound := by
  induction h generalizing address parent with
  | intro formula shape keyed parts ih =>
    rw [visitsFrom_eq] at mem
    rcases List.mem_cons.1 mem with rfl | mem
    · exact .intro formula shape keyed parts
    · obtain ⟨child, child_mem, mem⟩ := List.mem_flatMap.1 mem
      exact ih child child_mem mem

/-- The parts of `result` stand where those of `formula` stood, and each is what `replace` gave for
the part that was there. -/
def Rebuilt {σ : Type} (replace : Position → Formula → Formula → ExceptT Error (StateM σ) Formula)
    (formula result : Formula) : Prop :=
  List.Forall₂ (fun child child' => child'.1 = child.1 ∧
      ∃ s s', exec (replace child.1 child.2 formula) s = (.ok child'.2, s'))
    formula.children result.children

theorem forall₂_at_positions {step : Position × Formula → Formula → Prop}
    {children children' : List (Position × Formula)}
    (positions : children'.map Prod.fst = children.map Prod.fst)
    (h : List.Forall₂ step children (children'.map Prod.snd)) :
    List.Forall₂ (fun child child' => child'.1 = child.1 ∧ step child child'.2)
      children children' := by
  induction children generalizing children' with
  | nil =>
    obtain rfl : children' = [] := by simpa using positions
    exact .nil
  | cons child children ih =>
    match children', positions, h with
    | child' :: children', positions, .cons first later =>
      obtain ⟨here, below⟩ := List.cons.inj positions
      exact .cons ⟨here, first⟩ (ih below later)

theorem rebuilt_of_tryRebuild {σ : Type} {s s' : σ} {formula result : Formula}
    {replace : Position → Formula → Formula → ExceptT Error (StateM σ) Formula}
    (run : exec (formula.tryRebuild replace) s = (.ok result, s')) :
    Rebuilt replace formula result := by
  obtain ⟨parts, made, asked⟩ := tryRebuild_eq_ok run
  obtain ⟨rfl, positions⟩ := children_withParts asked.length_eq.symm made
  exact forall₂_at_positions positions asked

/-- All conditions and blocks of a conditional have their part in walking it, in rebuilding it, in
running it and in its text. -/
structure KeepsBranches (conditions blocks : List Formula) : Prop where
  walk : ((conditional conditions blocks).children.map Prod.snd).Perm (conditions ++ blocks)
  rebuild {σ : Type} {s s' : σ} {result : Formula}
    {replace : Position → Formula → Formula → ExceptT Error (StateM σ) Formula}
    (run : exec ((conditional conditions blocks).tryRebuild replace) s = (.ok result, s')) :
    ∃ conditions' blocks', result = conditional conditions' blocks' ∧
      conditions'.length = conditions.length ∧ blocks'.length = blocks.length ∧
      Rebuilt replace (conditional conditions blocks) result
  branch {setting : Setting} {compiled : Compiled} {scope : Scope} {i : Nat}
    {result : Except Error Bool}
    (compiles : setting.Compiles (conditional conditions blocks) compiled)
    (decides : Decides setting conditions scope i result) :
    ∃ block, blocks[i]? = some block ∧
      (result = .ok true → setting.run compiled scope
        = block.runIn setting (scopeAfter setting (conditions.take (i + 1)) scope)) ∧
      ∀ e, result = .error e → setting.run compiled scope
        = (.error e, scopeAfter setting (conditions.take (i + 1)) scope)
  otherwise {setting : Setting} {compiled : Compiled} {scope : Scope} {block : Formula}
    (compiles : setting.Compiles (conditional conditions blocks) compiled)
    (last : blocks[conditions.length]? = some block)
    (all : FalseBefore setting conditions scope conditions.length) :
    setting.run compiled scope = block.runIn setting (scopeAfter setting conditions scope)
  render (mode : Parentheses) : ∃ pieces,
    (conditional conditions blocks).render mode .text = String.join pieces ++ "end" ∧
      Pieces "if" (renderConditions mode .text conditions) (renderAll mode .text blocks) pieces

theorem elseBlock?_eq {conditions blocks : List Formula} {block : Formula}
    (count : blocks.length = conditions.length ∨ blocks.length = conditions.length + 1)
    (last : blocks[conditions.length]? = some block) :
    elseBlock? conditions blocks = some block := by
  obtain ⟨below, rfl⟩ := List.getElem?_eq_some_iff.1 last
  have at_end : blocks.length - 1 = conditions.length := by omega
  rw [elseBlock?, if_pos below, List.getLast?_eq_getElem?, at_end, last]

theorem keepsBranches {conditions blocks : List Formula}
    (shape : (conditional conditions blocks).Shape) : KeepsBranches conditions blocks where
  walk := branches_perm 0 shape.2
  rebuild run := by
    have rebuilt := rebuilt_of_tryRebuild run
    obtain ⟨parts, made, asked⟩ := tryRebuild_eq_ok run
    obtain ⟨rfl, -⟩ := checkedConditional_shape made
    obtain ⟨conditions_length, blocks_length⟩ := length_unbraid shape.2 asked.length_eq.symm
    exact ⟨_, _, rfl, conditions_length, blocks_length, rebuilt⟩
  branch compiles decides := by
    obtain ⟨tests, bodies, ht, hb, rfl⟩ := compile_conditional_eq_ok compiles
    exact decides.run_choose ht hb (by have := shape.2; omega)
  otherwise compiles last all := by
    obtain ⟨tests, bodies, ht, hb, rfl⟩ := compile_conditional_eq_ok compiles
    rw [run_choose_all_false all ht hb shape.2, elseBlock?_eq shape.2 last]
  render mode := by
    have count : (renderAll mode .text blocks).length
        = (renderConditions mode .text conditions).length ∨
        (renderAll mode .text blocks).length
          = (renderConditions mode .text conditions).length + 1 := by
      simpa [renderAll_eq_map, renderConditions_eq_map] using shape.2
    obtain ⟨pieces, text, fact⟩ := layoutBranches_eq_join "if" count
    refine ⟨pieces, ?_, fact⟩
    rw [Formula.render, layoutConditional, text]

/-- Every obtainable formula is well formed. So operands are never looked up out of range, every
assignment has the name of its target, and no condition or block of a conditional is dropped. -/
theorem obtainable_wellFormed {formula : Formula} (h : Obtainable formula) :
    formula.WellFormed ∧
      (∀ mode style, formula.render? mode style = some (formula.render mode style)) ∧
      (∀ visit ∈ formula.visits, ∀ target value, visit.formula = .assignment target value →
        ∃ name, target = .symbol name ∧ target.targetName = name) ∧
      ∀ visit ∈ formula.visits, ∀ conditions blocks,
        visit.formula = .conditional conditions blocks → KeepsBranches conditions blocks := by
  refine ⟨h.sound.wellFormed, fun mode style => render?_eq mode style formula h.sound, ?_, ?_⟩
  · intro visit mem target value same
    have sound := sound_of_mem_visitsFrom h.sound mem
    rw [same] at sound
    obtain ⟨symbol, -, -⟩ := sound_assignment_iff.1 sound
    cases target with
    | symbol name => exact ⟨name, rfl, rfl⟩
    | _ => cases symbol
  · intro visit mem conditions blocks same
    have sound := sound_of_mem_visitsFrom h.sound mem
    rw [same] at sound
    exact keepsBranches sound.shape

/-- A conditional that is read from a record, with an assignment for its only block. -/
theorem obtainable_wellFormed_decoded :
    ∃ json f, json.Keyed ∧ Registry.standard.decode json = .ok f ∧ f.WellFormed ∧
      f.render? .keep .text = some "if c\n\tx = -y\nend" ∧
      KeepsBranches [.symbol "c"] [assignTo "x" (unary "-" "unaryMinus" (.symbol "y"))] := by
  have decoded : Registry.standard.decode (toJson (.conditional [.symbol "c"]
      [assignTo "x" (unary "-" "unaryMinus" (.symbol "y"))])) = .ok (.conditional [.symbol "c"]
        [assignTo "x" (unary "-" "unaryMinus" (.symbol "y"))]) := rfl
  obtain ⟨wellFormed, text, -, kept⟩ :=
    obtainable_wellFormed (.decode Registry.builtIn_standard (keyed_toJson _) decoded)
  refine ⟨_, _, keyed_toJson _, decoded, wellFormed, ?_, kept ⟨_, [], none⟩ ?_ _ _ rfl⟩
  · rw [text]
    rfl
  · rw [visits, visitsFrom_eq]
    exact List.mem_cons_self

end FormulaTree.Formula

import FormulaTree.Proofs.Evaluation.Equivalence
import FormulaTree.Proofs.Formula.Nodes

set_option autoImplicit false

namespace FormulaTree.Formula

def Without (pattern : Formula → Bool) (formula : Formula) : Prop :=
  ∀ node ∈ formula.nodes, pattern node = false

variable {pattern : Formula → Bool}

theorem without_iff {formula : Formula} :
    formula.Without pattern ↔
      pattern formula = false ∧ ∀ child ∈ formula.children, child.2.Without pattern := by
  unfold Without
  rw [nodes_eq, List.forall_mem_cons, List.forall_mem_flatMap]

/-- Only the node itself and its parts matter, not the kind of the node. -/
theorem Without.of_children_eq {formula other : Formula} (own : pattern other = false)
    (same : other.children = formula.children)
    (below : ∀ child ∈ formula.children, child.2.Without pattern) : other.Without pattern :=
  without_iff.2 ⟨own, same ▸ below⟩

theorem filter_eq_nil_iff {formula : Formula} :
    formula.filter (fun visit => pattern visit.formula) = [] ↔ formula.Without pattern := by
  simp [filter, Without, nodes]

variable {change : Visit → Except Error Formula}

/-- The rewritten formula has a property that each change gives to a node whose parts have it. -/
theorem rewrite_establishes (holds : Formula → Prop)
    (establishes : ∀ visit answer, visit.formula.Shape →
      (∀ child ∈ visit.formula.children, holds child.2) → change visit = .ok answer → holds answer)
    {formula result : Formula} (h : formula.WellFormed) {address : List Position}
    {parent : Option Formula} (rewritten : formula.rewrite change address parent = .ok result) :
    holds result := by
  refine rewrite_relates (fun _ answer => holds answer) ?_ h rewritten
  intro formula current answer parts address parent shape became made changed
  have count : parts.length = formula.children.length := became.length_eq.symm
  have current_shape : current.Shape := (shape_keyed_of_withParts shape count made).1
  refine establishes ⟨current, address, parent⟩ answer current_shape (fun child mem => ?_) changed
  have new_part : child.2 ∈ parts := by
    rw [← (children_withParts count made).1]
    exact List.mem_map_of_mem mem
  obtain ⟨_, -, established⟩ := exists_of_forall₂ became child.2 new_part
  exact established

/-- A change leaves no match in a node that has none below it. It is asked about well-formed nodes
only, and answers with such. -/
def Eliminates (pattern : Formula → Bool) (change : Visit → Except Error Formula) : Prop :=
  ∀ visit answer, visit.formula.WellFormed →
    (∀ child ∈ visit.formula.children, child.2.Without pattern) →
    change visit = .ok answer → answer.WellFormed ∧ answer.Without pattern

theorem Eliminates.transform {formula result : Formula} (eliminates : Eliminates pattern change)
    (h : formula.WellFormed) (transformed : formula.transform change = .ok result) :
    result.filter (fun visit => pattern visit.formula) = [] := by
  rw [Formula.transform, transformAt_eq_rewrite h] at transformed
  have both : result.WellFormed ∧ result.Without pattern := by
    refine rewrite_establishes (fun node => node.WellFormed ∧ node.Without pattern) ?_ h transformed
    intro visit answer shape parts changed
    exact eliminates visit answer (.intro _ shape fun child mem => (parts child mem).1)
      (fun child mem => (parts child mem).2) changed
  exact filter_eq_nil_iff.2 both.2

theorem unwrapped_eliminates :
    Eliminates (fun node => node.kind = .parenthesis) fun visit => .ok visit.formula.unwrapped := by
  rintro ⟨formula, address, parent⟩ _ wellFormed below ⟨⟩
  refine ⟨wellFormed_unwrapped wellFormed, ?_⟩
  cases formula with
  | parenthesis content => exact below (.content, content) List.mem_cons_self
  | _ => exact Without.of_children_eq rfl rfl below

theorem asCall_eliminates :
    Eliminates (fun node => node.kind = .operation) fun visit => .ok visit.formula.asCall := by
  rintro ⟨formula, address, parent⟩ _ wellFormed below ⟨⟩
  refine ⟨wellFormed_asCall wellFormed, ?_⟩
  cases formula with
  | operation op function operands => exact Without.of_children_eq rfl rfl below
  | _ => exact Without.of_children_eq rfl rfl below

/-- A transformation that succeeds leaves no match of a pattern, if each of its changes leaves none
in a node without a match below it, wherever the node stands. Taking all parentheses away is such a
transformation for the parentheses, and writing every operation as a call is one for the operations;
neither ever fails. -/
theorem transform_eliminates {formula : Formula} (h : formula.WellFormed) :
    (∀ (pattern : Formula → Bool) (change : Visit → Except Error Formula),
      Eliminates pattern change → ∀ result, formula.transform change = .ok result →
        result.filter (fun visit => pattern visit.formula) = []) ∧
    (∃ result,
      formula.transform (m := Except Error) (fun visit => .ok visit.formula.unwrapped)
        = .ok result ∧
      result.filter (fun visit => visit.formula.kind = .parenthesis) = []) ∧
    ∃ result,
      formula.transform (m := Except Error) (fun visit => .ok visit.formula.asCall) = .ok result ∧
      result.filter (fun visit => visit.formula.kind = .operation) = [] := by
  refine ⟨fun pattern change eliminates result => eliminates.transform h, ?_, ?_⟩
  · obtain ⟨result, transformed⟩ := @exists_transform unwrapped (fun _ => rfl) formula h
    exact ⟨result, transformed, unwrapped_eliminates.transform h transformed⟩
  · obtain ⟨result, transformed⟩ := @exists_transform asCall (fun _ => rfl) formula h
    exact ⟨result, transformed, asCall_eliminates.transform h transformed⟩

/-- Each pair of parentheses becomes a call with its content twice, so what was inside an inner pair
is moved to four places. A constant in parentheses is refused, and there is none. -/
theorem transform_eliminates_doubled :
    let formula := parenthesis (unary "-" "minus" (parenthesis (symbol "a")))
    let change (visit : Visit) : Except Error Formula :=
      match visit.formula with
      | .parenthesis (.constant _) => .error (.invalidArgument (.other "a bare constant"))
      | .parenthesis content => .ok (.call "pair" [content, content])
      | other => .ok other
    let pattern (node : Formula) : Bool := node.kind = .parenthesis
    let inner := unary "-" "minus" (call "pair" [symbol "a", symbol "a"])
    let result := call "pair" [inner, inner]
    formula.WellFormed ∧ Eliminates pattern change ∧ formula.transform change = .ok result ∧
      result.filter (fun visit => pattern visit.formula) = [] := by
  intro formula change pattern inner result
  have wellFormed : formula.WellFormed := by
    refine Sound.wellFormed ?_
    simp [formula, unary, sound_parenthesis_iff, sound_operation_iff, sound_symbol]
  have transformed : formula.transform change = .ok result := by
    rw [transform, transformAt_eq_rewrite wellFormed]
    simp [formula, change, result, inner, unary, rewrite, rewriteArguments, ok_bind,
      checkedOperation, pure, Except.pure]
  have eliminates : Eliminates pattern change := by
    rintro ⟨node, address, parent⟩ answer sound below changed
    cases node with
    | parenthesis content =>
      have clean : content.Without pattern := below (.content, content) List.mem_cons_self
      have content_sound : content.WellFormed := by
        cases sound with
        | intro _ _ parts => exact parts (.content, content) List.mem_cons_self
      obtain rfl : call "pair" [content, content] = answer := by
        cases content <;> simp_all [change]
      refine ⟨.intro _ trivial ?_, without_iff.2 ⟨rfl, ?_⟩⟩
      · simp [children, numbered, content_sound]
      · simp [children, numbered, clean]
    | _ =>
      cases changed
      exact ⟨sound, without_iff.2 ⟨rfl, below⟩⟩
  exact ⟨wellFormed, eliminates, transformed,
    (transform_eliminates wellFormed).1 pattern change eliminates result transformed⟩

end FormulaTree.Formula

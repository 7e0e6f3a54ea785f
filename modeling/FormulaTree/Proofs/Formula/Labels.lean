import FormulaTree.Proofs.Formula.Parts
import FormulaTree.Proofs.Text.Numeral
import Mathlib.Data.List.Nodup

set_option autoImplicit false

namespace FormulaTree.Formula

namespace Position

def word : Position → String
  | .ifCondition => "ifCondition"
  | .elseIfCondition _ => "elseIfCondition"
  | .ifBlock => "ifBlock"
  | .elseIfBlock _ => "elseIfBlock"
  | .elseBlock => "elseBlock"
  | .target => "object"
  | .value => "value"
  | .statement _ => "blocks"
  | .argument _ => "args"
  | .content => "content"

def index? : Position → Option Nat
  | .elseIfCondition i => some i
  | .elseIfBlock i => some i
  | .statement i => some i
  | .argument i => some i
  | _ => none

def bracketed : Option Nat → List Char
  | none => []
  | some i => '[' :: (Text.writeNatural i ++ [']'])

theorem toList_label (position : Position) :
    position.label.toList = position.word.toList ++ bracketed position.index? := by
  cases position <;> simp [label, indexed, word, index?, bracketed]

theorem eq_of_word_index {p q : Position} (words : p.word = q.word)
    (indices : p.index? = q.index?) : p = q := by
  cases p <;> cases q <;> simp_all [word, index?]

theorem no_bracket_word (position : Position) : ∀ c ∈ position.word.toList, (c != '[') = true := by
  cases position <;> simp [word]

theorem bracketed_injective : Function.Injective bracketed := by
  intro i j h
  cases i with
  | none =>
    cases j with
    | none => rfl
    | some j => simp [bracketed] at h
  | some i =>
    cases j with
    | none => simp [bracketed] at h
    | some j =>
      have digits : Text.writeNatural i = Text.writeNatural j := by simpa [bracketed] using h
      have numbers := congrArg Text.naturalOf digits
      rw [Text.naturalOf_writeNatural, Text.naturalOf_writeNatural] at numbers
      rw [numbers]

theorem label_injective : Function.Injective label := by
  intro p q h
  have divide (position : Position) : position.label.toList.span (· != '[')
      = (position.word.toList, bracketed position.index?) := by
    rw [toList_label]
    refine Text.span_append position.no_bracket_word fun c head => ?_
    cases index : position.index? with
    | none => simp [bracketed, index] at head
    | some i =>
      obtain rfl : '[' = c := by simpa [bracketed, index] using head
      rfl
  have halves := divide p
  rw [h, divide q, Prod.mk.injEq] at halves
  exact eq_of_word_index (String.toList_inj.1 halves.1).symm (bracketed_injective halves.2).symm

theorem condition_injective : Function.Injective condition := by
  intro i j h
  cases i <;> cases j <;> simp_all [condition]

theorem block_injective : Function.Injective block := by
  intro i j h
  cases i <;> cases j <;> simp_all [block]

theorem condition_ne_block (i j : Nat) : condition i ≠ block j := by
  cases i <;> cases j <;> simp [condition, block]

theorem condition_ne_elseBlock (i : Nat) : condition i ≠ .elseBlock := by
  cases i <;> simp [condition]

theorem block_ne_elseBlock (i : Nat) : block i ≠ .elseBlock := by
  cases i <;> simp [block]

end Position

theorem nodup_numbered {position : Nat → Position} (injective : Function.Injective position)
    (start : Nat) (parts : List Formula) :
    ((numbered position start parts).map Prod.fst).Nodup := by
  rw [map_fst_numbered]
  have range : (List.range' start parts.length).Nodup := List.nodup_range'
  exact range.map injective

theorem position_of_mem_branches {index : Nat} {conditions blocks : List Formula}
    {position : Position} (h : position ∈ (branches index conditions blocks).map Prod.fst) :
    position = .elseBlock ∨ ∃ i, index ≤ i ∧ (position = .condition i ∨ position = .block i) := by
  fun_induction branches index conditions blocks with
  | case1 index test tests body bodies ih =>
    simp only [List.map_cons, List.mem_cons] at h
    rcases h with rfl | rfl | h
    · exact .inr ⟨index, le_rfl, .inl rfl⟩
    · exact .inr ⟨index, le_rfl, .inr rfl⟩
    · refine (ih h).imp_right ?_
      rintro ⟨i, more, same⟩
      exact ⟨i, by omega, same⟩
  | case2 => exact .inl (by simpa using h)
  | case3 => simp at h

theorem nodup_branches (index : Nat) (conditions blocks : List Formula) :
    ((branches index conditions blocks).map Prod.fst).Nodup := by
  fun_induction branches index conditions blocks with
  | case1 index test tests body bodies ih =>
    rw [List.map_cons, List.map_cons, List.nodup_cons, List.nodup_cons]
    refine ⟨fun mem => ?_, fun mem => ?_, ih⟩
    · rcases List.mem_cons.1 mem with same | mem
      · exact Position.condition_ne_block index index same
      · rcases position_of_mem_branches mem with same | ⟨i, more, same | same⟩
        · exact Position.condition_ne_elseBlock index same
        · have := Position.condition_injective same
          omega
        · exact Position.condition_ne_block index i same
    · rcases position_of_mem_branches mem with same | ⟨i, more, same | same⟩
      · exact Position.block_ne_elseBlock index same
      · exact Position.condition_ne_block i index same.symm
      · have := Position.block_injective same
        omega
  | case2 => simp
  | case3 => simp

theorem nodup_positions (formula : Formula) : (formula.children.map Prod.fst).Nodup := by
  have statement : Function.Injective Position.statement := fun _ _ => Position.statement.inj
  have argument : Function.Injective Position.argument := fun _ _ => Position.argument.inj
  cases formula with
  | constant | symbol | parenthesis => simp [children]
  | assignment target value => simp [children]
  | block statements => exact nodup_numbered statement 0 _
  | operation op function operands => exact nodup_numbered argument 0 operands
  | call function arguments => exact nodup_numbered argument 0 arguments
  | conditional conditions blocks => exact nodup_branches 0 conditions blocks

/-- No two parts of a formula have the same label. -/
theorem nodup_labels (formula : Formula) :
    (formula.children.map fun child => child.1.label).Nodup := by
  have labels := (nodup_positions formula).map Position.label_injective
  rwa [List.map_map] at labels

end FormulaTree.Formula

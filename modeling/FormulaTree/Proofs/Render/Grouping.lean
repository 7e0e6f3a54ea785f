import FormulaTree.Proofs.Render.Reading
import Mathlib.Tactic.Ring

/-!
# Grouping that matters

The integer that sums, differences, products and remainders stand for. A product lets a remainder
stand at its right without brackets, and so `a * (b mod c)` and `(a * b) mod c` have one text
(`Infix.same_text_of_remainder`). Where no product does so, the text determines the integer
(`Infix.value?_eq_of_text`). Names may be any identifiers, also the word `not`: without unary
operators nothing is mistaken for it, and so other words can be put in place of the names.
-/

set_option autoImplicit false

namespace FormulaTree.Render

/-- The arithmetic of the integers, with the remainder of the division that rounds down. -/
def BinaryOperator.result? : BinaryOperator → Int → Int → Option Int
  | add, x, y => some (x + y)
  | subtract, x, y => some (x - y)
  | multiply, x, y => some (x * y)
  | modulo, x, y => if y = 0 then none else some (x.fmod y)
  | _, _, _ => none

theorem BinaryOperator.result?_regroup {o other : BinaryOperator}
    (associative : o ∈ [add, multiply, and, or]) (same : other.level = o.level)
    (exact : other ≠ modulo) (x y z : Int) :
    (other.result? y z).bind (o.result? x)
      = (o.result? x y).bind fun inner => other.result? inner z := by
  simp only [List.mem_cons, List.not_mem_nil, or_false] at associative
  rcases associative with rfl | rfl | rfl | rfl <;> cases other
  all_goals first
    | exact absurd same (by decide)
    | exact absurd rfl exact
    | simp [result?] <;> ring

theorem BinaryOperator.eq_multiply_of_level {o : BinaryOperator}
    (associative : o ∈ [add, multiply, and, or]) (level : o.level = multiply.level) :
    o = multiply := by
  cases o
  case multiply => rfl
  all_goals first
    | exact absurd level (by decide)
    | exact absurd associative (by decide)

namespace Phrase

def value? (assignment : Word → Int) : Phrase → Option Int
  | .symbol name => some (assignment name)
  | .parenthesis content => content.value? assignment
  | .binary o left right =>
    (left.value? assignment).bind fun x => (right.value? assignment).bind (o.result? x)
  | .call _ _ => none
  | .unary _ _ => none

/-- Among the factors of the phrase, none is a remainder without brackets. -/
def FactorsWhole : Phrase → Prop
  | .binary o left right => o.level = BinaryOperator.multiply.level →
    o ≠ .modulo ∧ left.FactorsWhole ∧ (o = .multiply → right.FactorsWhole)
  | _ => True

/-- No product has a remainder at its right without brackets. -/
def Grouped : Phrase → Prop
  | .parenthesis content => content.Grouped
  | .binary o left right => left.Grouped ∧ right.Grouped ∧ (o = .multiply → right.FactorsWhole)
  | _ => True

theorem factorsWhole_of_strength {phrase : Phrase}
    (apart : phrase.strength ≠ BinaryOperator.multiply.level) : phrase.FactorsWhole := by
  cases phrase with
  | binary o left right => exact fun level => absurd level apart
  | _ => exact trivial

theorem FactorsWhole.join {left right : Phrase} (wholeLeft : left.FactorsWhole)
    (whole : right.FactorsWhole) : (Phrase.join .multiply left right).FactorsWhole := by
  induction right with
  | binary o inner right ihInner _ =>
    by_cases level : o.level = BinaryOperator.multiply.level
    · have factors := whole level
      rw [join_chain level (by decide)]
      exact fun _ => ⟨factors.1, ihInner factors.2.1, factors.2.2⟩
    · have apart : (Phrase.binary o inner right).strength ≠ BinaryOperator.multiply.level := level
      rw [join_of_strength_ne apart]
      exact fun _ => ⟨by decide, wholeLeft, fun _ => whole⟩
  | _ => exact fun _ => ⟨by decide, wholeLeft, fun _ => whole⟩

theorem FactorsWhole.bracketedIf {phrase : Phrase} (whole : phrase.FactorsWhole) (condition : Prop)
    [Decidable condition] : (bracketedIf condition phrase).FactorsWhole := by
  unfold Phrase.bracketedIf
  split
  · exact trivial
  · exact whole

theorem FactorsWhole.explicit {phrase : Phrase} (whole : phrase.FactorsWhole) :
    phrase.explicit.FactorsWhole := by
  induction phrase with
  | binary o left right ihLeft ihRight =>
    intro level
    have factors := whole level
    exact ⟨factors.1, (ihLeft factors.2.1).bracketedIf _,
      fun product => (ihRight (factors.2.2 product)).bracketedIf _⟩
  | _ => exact trivial

theorem FactorsWhole.combed {phrase : Phrase} (explicit : Explicit phrase)
    (whole : phrase.FactorsWhole) : phrase.combed.FactorsWhole := by
  induction explicit with
  | @binary o left right _ _ _ strong ihLeft ihRight =>
    by_cases product : o = .multiply
    · subst product
      have factors := whole rfl
      exact (ihLeft factors.2.1).join (ihRight (factors.2.2 rfl))
    · by_cases level : o.level = BinaryOperator.multiply.level
      · have factors := whole level
        have strongCombed : o.rightFloor ≤ right.combed.strength := by rwa [strength_combed]
        have apart : o ∉ [.add, .multiply, .and, .or] := fun associative =>
          product (BinaryOperator.eq_multiply_of_level associative level)
        rw [Phrase.combed, join_of_not_associative apart strongCombed]
        exact fun _ => ⟨factors.1, ihLeft factors.2.1, fun other => absurd other product⟩
      · exact factorsWhole_of_strength (by rwa [strength_combed])
  | _ => exact trivial

theorem Grouped.bracketedIf {phrase : Phrase} (grouped : phrase.Grouped) (condition : Prop)
    [Decidable condition] : (bracketedIf condition phrase).Grouped := by
  unfold Phrase.bracketedIf
  split
  · exact grouped
  · exact grouped

theorem Grouped.explicit {phrase : Phrase} (grouped : phrase.Grouped) :
    phrase.explicit.Grouped := by
  induction phrase with
  | parenthesis content ih => exact ih grouped
  | binary o left right ihLeft ihRight =>
    exact ⟨(ihLeft grouped.1).bracketedIf _, (ihRight grouped.2.1).bracketedIf _,
      fun product => (grouped.2.2 product).explicit.bracketedIf _⟩
  | _ => exact trivial

section Values

variable (assignment : Word → Int)

theorem value?_bracketedIf (condition : Prop) [Decidable condition] (phrase : Phrase) :
    (bracketedIf condition phrase).value? assignment = phrase.value? assignment := by
  unfold bracketedIf
  split
  · rw [value?]
  · rfl

theorem value?_explicit (phrase : Phrase) :
    phrase.explicit.value? assignment = phrase.value? assignment := by
  induction phrase with
  | parenthesis content ih => simpa only [explicit, value?] using ih
  | binary o left right ihLeft ihRight =>
    simp only [explicit, value?, value?_bracketedIf, ihLeft, ihRight]
  | _ => rfl

theorem value?_regroup {o other : BinaryOperator}
    (associative : o ∈ [.add, .multiply, .and, .or]) (same : other.level = o.level)
    (exact : other ≠ .modulo) (a b c : Phrase) :
    (Phrase.binary other (.binary o a b) c).value? assignment
      = (Phrase.binary o a (.binary other b c)).value? assignment := by
  simp only [value?]
  cases a.value? assignment with
  | none => rfl
  | some x =>
    cases b.value? assignment with
    | none => rfl
    | some y =>
      cases c.value? assignment with
      | none => simp
      | some z => exact (o.result?_regroup associative same exact x y z).symm

theorem value?_join {o : BinaryOperator} {left right : Phrase}
    (strong : o.rightFloor ≤ right.strength) (whole : o = .multiply → right.FactorsWhole) :
    (join o left right).value? assignment = (Phrase.binary o left right).value? assignment := by
  by_cases associative : o ∈ [.add, .multiply, .and, .or]
  · have chain : o ≠ .pow := by
      rintro rfl
      simp at associative
    clear strong
    induction right with
    | binary other inner right ihInner _ =>
      by_cases level : other.level = o.level
      · have factors (product : o = .multiply) :=
          whole product (level.trans (congrArg BinaryOperator.level product))
        have exact : other ≠ .modulo := by
          rintro rfl
          have product := BinaryOperator.eq_multiply_of_level associative level.symm
          exact (factors product).1 rfl
        calc (join o left (.binary other inner right)).value? assignment
            = (Phrase.binary other (join o left inner) right).value? assignment := by
              rw [join_chain level chain]
          _ = (Phrase.binary other (.binary o left inner) right).value? assignment := by
              simp only [value?, ihInner fun product => (factors product).2.1]
          _ = (Phrase.binary o left (.binary other inner right)).value? assignment :=
              value?_regroup assignment associative level exact left inner right
      · have apart : (Phrase.binary other inner right).strength ≠ o.level := level
        rw [join_of_strength_ne apart]
    | _ => rfl
  · rw [join_of_not_associative associative strong]

theorem value?_combed {phrase : Phrase} (explicit : Explicit phrase) (grouped : phrase.Grouped) :
    phrase.combed.value? assignment = phrase.value? assignment := by
  induction explicit with
  | @parenthesis content _ ih => simpa only [combed, value?] using ih grouped
  | @binary o left right _ explicitRight _ strong ihLeft ihRight =>
    have whole : o = .multiply → right.combed.FactorsWhole :=
      fun product => (grouped.2.2 product).combed explicitRight
    rw [combed, value?_join assignment (by rwa [strength_combed]) whole]
    simp only [value?, ihLeft grouped.1, ihRight grouped.2.1]
  | _ => rfl

/-- Where no product has a remainder at its right without brackets, the text of a phrase determines
its integer. -/
theorem value?_eq_of_render_eq {p q : Phrase} (groupedP : p.Grouped) (groupedQ : q.Grouped)
    (same : p.formula.render .keep .text = q.formula.render .keep .text) :
    p.value? assignment = q.value? assignment := by
  have read {phrase : Phrase} (grouped : phrase.Grouped) :
      phrase.explicit.combed.value? assignment = phrase.value? assignment :=
    (value?_combed assignment phrase.explicit_explicit grouped.explicit).trans
      (value?_explicit assignment phrase)
  rw [← read groupedP, ← read groupedQ, combed_explicit_eq same]

end Values

end Phrase

def isIdentifier (text : String) : Bool :=
  text ≠ "" && text.toList.all fun c => c.isAlphanum || c = '_'

structure Identifier where
  text : String
  valid : isIdentifier text = true

/-- Swaps a letter that is in no sign between operands with a character that is in no identifier. -/
def respell (c : Char) : Char :=
  Equiv.swap 't' '.' c

theorem respell_respell (c : Char) : respell (respell c) = c :=
  Equiv.swap_apply_self 't' '.' c

theorem map_respell_map_respell (text : String) : (text.map respell).map respell = text := by
  rw [String.map_map, show respell ∘ respell = id from funext respell_respell, String.map_id]

theorem parenthesize_respell (text : String) :
    parenthesize .text (text.map respell) = (parenthesize .text text).map respell := by
  rw [← String.toList_inj]
  simp [parenthesize, show respell '(' = '(' from by decide, show respell ')' = ')' from by decide]

theorem BinaryOperator.sign_respell (o : BinaryOperator) :
    o.sign.toList.map respell = o.sign.toList := by
  cases o <;> decide

namespace Identifier

theorem text_ne_empty (name : Identifier) : name.text ≠ "" := by
  have valid := name.valid
  rw [isIdentifier, Bool.and_eq_true, decide_eq_true_iff] at valid
  exact valid.1

theorem alphanum_or_underscore_of_mem (name : Identifier) {c : Char} (mem : c ∈ name.text.toList) :
    (c.isAlphanum || c = '_') = true := by
  have valid := name.valid
  rw [isIdentifier, Bool.and_eq_true] at valid
  exact List.all_eq_true.1 valid.2 c mem

theorem point_not_mem (name : Identifier) : '.' ∉ name.text.toList :=
  fun mem => absurd (name.alphanum_or_underscore_of_mem mem) (by decide)

/-- Swapped letters leave every name a word, also the name `not`. -/
def word (name : Identifier) : Word where
  text := name.text.map respell
  nonempty := by
    rw [String.toList_map]
    exact mt List.map_eq_nil_iff.1 (mt String.toList_eq_nil_iff.1 name.text_ne_empty)
  letters := by
    rw [String.toList_map, List.all_map, List.all_eq_true]
    intro c mem
    by_cases swapped : c = 't'
    · subst swapped
      decide
    · have point : c ≠ '.' := by
        rintro rfl
        exact name.point_not_mem mem
      have kept : respell c = c := Equiv.swap_apply_of_ne_of_ne swapped point
      simp only [Function.comp_apply, kept, isWordChar]
      rw [name.alphanum_or_underscore_of_mem mem, Bool.true_or]
  free := by
    intro same
    apply name.point_not_mem
    have original := congrArg (·.map respell) same
    simp only [map_respell_map_respell] at original
    rw [original, String.toList_map]
    decide

end Identifier

inductive Infix where
  | symbol (name : Identifier)
  | parenthesis (content : Infix)
  | binary (o : BinaryOperator) (left right : Infix)

namespace Infix

def formula : Infix → Formula
  | .symbol name => .symbol name.text
  | .parenthesis content => .parenthesis content.formula
  | .binary o left right => .binary o.sign o.function left.formula right.formula

/-- The integer that it stands for, if its operators are those of `BinaryOperator.result?` and none
of its moduli is zero. -/
def value? (assignment : String → Int) : Infix → Option Int
  | .symbol name => some (assignment name.text)
  | .parenthesis content => content.value? assignment
  | .binary o left right =>
    (left.value? assignment).bind fun x => (right.value? assignment).bind (o.result? x)

def phrase : Infix → Phrase
  | .symbol name => .symbol name.word
  | .parenthesis content => .parenthesis content.phrase
  | .binary o left right => .binary o left.phrase right.phrase

/-- No product has a remainder at its right without brackets. -/
def Grouped (p : Infix) : Prop :=
  p.phrase.Grouped

theorem value?_phrase (assignment : String → Int) (p : Infix) :
    p.phrase.value? (fun name => assignment (name.text.map respell)) = p.value? assignment := by
  induction p with
  | symbol name =>
    simp only [phrase, Phrase.value?, Identifier.word, map_respell_map_respell, value?]
  | parenthesis content ih => simpa only [phrase, Phrase.value?, value?] using ih
  | binary o left right ihLeft ihRight =>
    simp only [phrase, Phrase.value?, value?, ihLeft, ihRight]

theorem precedence_phrase (p : Infix) :
    precedence .keep p.phrase.formula = precedence .keep p.formula := by
  cases p <;> rfl

theorem wrapOperand_phrase (function : String) (first : Bool) {p : Infix}
    (texts : p.phrase.formula.render .keep .text = (p.formula.render .keep .text).map respell) :
    wrapOperand .keep .text function false first p.phrase.formula
        (p.phrase.formula.render .keep .text)
      = (wrapOperand .keep .text function false first p.formula
        (p.formula.render .keep .text)).map respell := by
  have needs : operandNeedsParentheses .keep function false first p.phrase.formula
      = operandNeedsParentheses .keep function false first p.formula := by
    simp only [operandNeedsParentheses, precedence_phrase]
  rw [wrapOperand, wrapOperand, needs, texts]
  cases operandNeedsParentheses .keep function false first p.formula with
  | false => rfl
  | true => exact parenthesize_respell _

theorem render_phrase (p : Infix) :
    p.phrase.formula.render .keep .text = (p.formula.render .keep .text).map respell := by
  induction p with
  | symbol name => rfl
  | parenthesis content ih =>
    simp only [phrase, Phrase.formula, formula, Formula.render, ih]
    exact parenthesize_respell _
  | binary o left right ihLeft ihRight =>
    simp only [phrase, Phrase.formula, formula, Formula.binary, Formula.render, Formula.renderAll,
      layoutOperation, layoutBinary, wrapOperand_phrase _ _ ihLeft, wrapOperand_phrase _ _ ihRight]
    rw [← String.toList_inj]
    simp [o.sign_respell, show respell ' ' = ' ' from by decide]

/-- Where no product has a remainder at its right without brackets, the text of a formula determines
its integer. -/
theorem value?_eq_of_text {p q : Infix} (groupedP : p.Grouped) (groupedQ : q.Grouped)
    (same : p.formula.render .keep .text = q.formula.render .keep .text)
    (assignment : String → Int) : p.value? assignment = q.value? assignment := by
  have phrases : p.phrase.formula.render .keep .text = q.phrase.formula.render .keep .text := by
    rw [render_phrase, render_phrase, same]
  rw [← value?_phrase, ← value?_phrase]
  exact Phrase.value?_eq_of_render_eq _ groupedP groupedQ phrases

def a : Infix := .symbol ⟨"a", by decide⟩
def b : Infix := .symbol ⟨"b", by decide⟩
def c : Infix := .symbol ⟨"c", by decide⟩
def notName : Infix := .symbol ⟨"not", by decide⟩

def twoThreeFour (name : String) : Int :=
  if name = "a" then 2 else if name = "b" then 3 else 4

/-- A product of three factors that begins with a remainder, also where a name is `not`. -/
theorem value?_eq_of_text_factors :
    (binary .multiply (.binary .modulo notName b) (.binary .multiply a b)).value? twoThreeFour
      = (binary .multiply (.binary .multiply (.binary .modulo notName b) a) b).value?
        twoThreeFour :=
  value?_eq_of_text
    (by simp [Grouped, phrase, notName, a, b, Phrase.Grouped, Phrase.FactorsWhole])
    (by simp [Grouped, phrase, notName, a, b, Phrase.Grouped, Phrase.FactorsWhole])
    (by decide) twoThreeFour

/-- A product with a remainder at its right has the text of a remainder of a product. -/
theorem same_text_of_remainder :
    (binary .multiply a (.binary .modulo b c)).formula.render .keep .text
      = (binary .modulo (.binary .multiply a b) c).formula.render .keep .text
    ∧ (binary .multiply a (.binary .modulo b c)).value? twoThreeFour = some 6
    ∧ (binary .modulo (.binary .multiply a b) c).value? twoThreeFour = some 2 := by
  decide

end Infix

end FormulaTree.Render

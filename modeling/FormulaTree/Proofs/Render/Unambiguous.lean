import FormulaTree.Proofs.Render.Reading

set_option autoImplicit false

namespace FormulaTree.Render

/-- The smallest congruence that removes parentheses and regroups chains of operators of one level
that begin with a sum, a product, a conjunction or a disjunction. -/
inductive SameReading : Phrase → Phrase → Prop where
  | refl (phrase : Phrase) : SameReading phrase phrase
  | symm {p q : Phrase} (same : SameReading p q) : SameReading q p
  | trans {p q r : Phrase} (first : SameReading p q) (second : SameReading q r) : SameReading p r
  | bare (content : Phrase) : SameReading (.parenthesis content) content
  | regroup {o other : BinaryOperator} (associative : o ∈ [.add, .multiply, .and, .or])
      (level : other.level = o.level) (a b c : Phrase) :
      SameReading (.binary o a (.binary other b c)) (.binary other (.binary o a b) c)
  | parenthesis {p q : Phrase} (same : SameReading p q) :
      SameReading (.parenthesis p) (.parenthesis q)
  | argument {p q : Phrase} (function : Word) (before after : List Phrase)
      (same : SameReading p q) :
      SameReading (.call function (before ++ p :: after)) (.call function (before ++ q :: after))
  | unary {p q : Phrase} (o : UnaryOperator) (same : SameReading p q) :
      SameReading (.unary o p) (.unary o q)
  | binary {p p' q q' : Phrase} (o : BinaryOperator) (left : SameReading p p')
      (right : SameReading q q') : SameReading (.binary o p q) (.binary o p' q')

namespace SameReading

theorem call_map {change : Phrase → Phrase} (function : Word) {arguments : List Phrase}
    (all : ∀ argument ∈ arguments, SameReading (change argument) argument) :
    SameReading (.call function (arguments.map change)) (.call function arguments) := by
  -- The arguments before the place reached are the new ones already.
  have onward (before : List Phrase) :
      SameReading (.call function (before ++ arguments.map change))
        (.call function (before ++ arguments)) := by
    induction arguments generalizing before with
    | nil => exact .refl _
    | cons first rest ih =>
      have here := argument function before (rest.map change) (all first List.mem_cons_self)
      have later := ih (fun other mem => all other (List.mem_cons_of_mem _ mem)) (before ++ [first])
      rw [List.append_assoc, List.append_assoc, List.singleton_append,
        List.singleton_append] at later
      exact here.trans later
  exact onward []

theorem bracketedIf {p q : Phrase} (same : SameReading p q) (condition : Prop)
    [Decidable condition] : SameReading (Phrase.bracketedIf condition p) q := by
  unfold Phrase.bracketedIf
  split
  · exact (bare p).trans same
  · exact same

theorem explicit (phrase : Phrase) : SameReading phrase.explicit phrase := by
  induction phrase with
  | symbol name => exact .refl _
  | call function arguments ih =>
    rw [Phrase.explicit, Phrase.explicitAll_eq_map]
    exact call_map function ih
  | parenthesis content ih => exact ih.parenthesis
  | unary o operand ih => exact (ih.bracketedIf _).unary o
  | binary o left right ihLeft ihRight =>
    exact .binary o (ihLeft.bracketedIf _) (ihRight.bracketedIf _)

theorem join_associative {o : BinaryOperator} (associative : o ∈ [.add, .multiply, .and, .or])
    (left right : Phrase) : SameReading (Phrase.join o left right) (.binary o left right) := by
  have chain : o ≠ .pow := by
    rintro rfl
    simp at associative
  induction right with
  | binary other inner right ihInner _ =>
    by_cases level : other.level = o.level
    · rw [Phrase.join_chain level chain]
      have moved := regroup associative level left inner right
      exact (ihInner.binary other (.refl right)).trans moved.symm
    · have apart : (Phrase.binary other inner right).strength ≠ o.level := level
      rw [Phrase.join_of_strength_ne apart]
      exact .refl _
  | _ => exact .refl _

/-- A right operand without brackets is a chain of its own only where it may be regrouped. -/
theorem join {o : BinaryOperator} {right : Phrase} (strong : o.rightFloor ≤ right.strength)
    (left : Phrase) : SameReading (Phrase.join o left right) (.binary o left right) := by
  by_cases associative : o ∈ [.add, .multiply, .and, .or]
  · exact join_associative associative left right
  · rw [Phrase.join_of_not_associative associative strong]
    exact .refl _

theorem combed {phrase : Phrase} (explicit : phrase.Explicit) :
    SameReading phrase.combed phrase := by
  induction explicit with
  | symbol name => exact .refl _
  | @call function arguments _ ih =>
    rw [Phrase.combed, Phrase.combedAll_eq_map]
    exact call_map function ih
  | parenthesis _ ih => exact ih.parenthesis
  | @unary o operand _ _ ih => exact ih.unary o
  | @binary o left right _ _ _ strongRight ihLeft ihRight =>
    have strong : o.rightFloor ≤ right.combed.strength := by
      rw [Phrase.strength_combed]
      exact strongRight
    exact (join strong left.combed).trans (.binary o ihLeft ihRight)

end SameReading

/-- Phrases whose texts are the same are the same phrase, up to parentheses and regrouped chains. -/
theorem sameReading_of_text {p q : Phrase}
    (same : p.formula.render .keep .text = q.formula.render .keep .text) : SameReading p q := by
  have read (phrase : Phrase) : SameReading phrase.explicit.combed phrase :=
    (SameReading.combed phrase.explicit_explicit).trans (.explicit phrase)
  have middle : SameReading q.explicit.combed q := read q
  rw [← Phrase.combed_explicit_eq same] at middle
  exact (read p).symm.trans middle

/-- One text of a product of three factors, two of them grouped by hand. -/
theorem sameReading_of_text_product :
    SameReading
      (.binary .multiply (.symbol .a)
        (.binary .multiply (.parenthesis (.binary .subtract (.symbol .b) (.symbol .c)))
          (.call .a [.unary .minus (.symbol .b), .symbol .c])))
      (.binary .multiply
        (.binary .multiply (.symbol .a)
          (.binary .subtract (.symbol .b) (.symbol .c)))
        (.call .a [.unary .minus (.symbol .b), .symbol .c])) :=
  sameReading_of_text (by decide)

end FormulaTree.Render

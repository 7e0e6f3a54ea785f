import FormulaTree.Proofs.Render.Numbers
import FormulaTree.Proofs.Render.Reading

/-!
# Signs of numbers read back

A text of powers and signs has one explicit form, and the explicit form has one reading: at the start
of the text or of a bracket, a minus sign before a power negates the power, anywhere else it is the
sign of the base. So terms with the same text have the same reading, and where no power with a
negative number as its base stands at such a start, they are the same term (`Term.bare_eq_of_text`).
Where one does, its text is that of the negated power (`Term.same_text_of_negative_base`).
-/

set_option autoImplicit false

namespace FormulaTree.Render

open Phrase

/-- The phrases of signs and powers whose bases hold together by themselves. -/
inductive Phrase.Signed : Phrase → Prop
  | symbol (name : Word) : Signed (.symbol name)
  | parenthesis {content : Phrase} (signed : Signed content) : Signed (.parenthesis content)
  | minus {operand : Phrase} (signed : Signed operand) : Signed (.unary .minus operand)
  | power {base exponent : Phrase} (closed : base.strength = closedStrength)
      (signedBase : Signed base) (signedExponent : Signed exponent) :
      Signed (.binary .pow base exponent)

theorem under_closedStrength (stack : List Pending) : Under closedStrength stack := by
  intro pending _
  cases pending with
  | binary o left =>
    change o.level < closedStrength
    cases o <;> decide
  | _ => simp [Pending.level, closedStrength, UnaryOperator.level]

/-- From any stack the machine reads such a phrase: what it then holds settles as the phrase does,
and is the phrase itself if that holds together. -/
theorem reads_signed {phrase : Phrase} (signed : phrase.Signed) (stack : List Pending) :
    ∃ stack' operand,
      phrase.lexemes.foldl Reader.step (.wanting stack) = .holding stack' operand
        ∧ settle 0 stack' operand = settle 0 stack phrase
        ∧ (phrase.strength = closedStrength → stack' = stack ∧ operand = phrase) := by
  induction signed generalizing stack with
  | symbol name => exact ⟨stack, .symbol name, rfl, rfl, fun _ => ⟨rfl, rfl⟩⟩
  | @parenthesis content _ ih =>
    obtain ⟨stack', operand, run, settled, -⟩ := ih (.opened :: stack)
    refine ⟨stack, .parenthesis content, ?_, rfl, fun _ => ⟨rfl, rfl⟩⟩
    change (content.lexemes ++ [Lexeme.closed]).foldl Reader.step (.wanting (.opened :: stack)) = _
    rw [List.foldl_append, run]
    change Reader.close (settle 0 stack' operand) = _
    rw [settled]
    rfl
  | @minus operand _ ih =>
    have weak : UnaryOperator.level < closedStrength := by decide
    obtain ⟨stack', operand', run, settled, -⟩ := ih (.unary .minus :: stack)
    exact ⟨stack', operand', run, settled, fun closed => absurd closed (Nat.ne_of_lt weak)⟩
  | @power base exponent closed _ _ ihBase ihExponent =>
    obtain ⟨below, operandBase, runBase, -, itself⟩ := ihBase stack
    obtain ⟨sameStack, sameBase⟩ := itself closed
    rw [sameStack, sameBase] at runBase
    obtain ⟨stack', operand, runExponent, settled, -⟩ :=
      ihExponent (.binary .pow base :: stack)
    have waiting : settle BinaryOperator.pow.leftFloor stack base = (stack, base) :=
      settle_of_under (under_closedStrength stack) le_rfl base
    have operator : Reader.step (.holding stack base) (.binary .pow)
        = .wanting (.binary .pow base :: stack) := by
      simp only [Reader.step, waiting]
    have weak : BinaryOperator.pow.level < closedStrength := by decide
    refine ⟨stack', operand, ?_, ?_, fun strong => absurd strong (Nat.ne_of_lt weak)⟩
    · rw [lexemes, List.foldl_append, runBase, List.foldl_cons, operator, runExponent]
    · rw [settled, settle, if_pos (Nat.zero_le _), join_pow]

theorem Phrase.Signed.eq_of_lexemes {p q : Phrase} (signedP : p.Signed) (signedQ : q.Signed)
    (same : p.lexemes = q.lexemes) : p = q := by
  obtain ⟨stack, operand, run, settled, -⟩ := reads_signed signedP []
  obtain ⟨stack', operand', run', settled', -⟩ := reads_signed signedQ []
  rw [same, run'] at run
  cases run
  exact congrArg Prod.snd (settled.symm.trans settled')

namespace Term

def Unsigned : Term → Prop
  | .number n => n.negative = false
  | .parenthesis content => content.Unsigned
  | .minus operand => operand.Unsigned
  | .power base exponent => base.Unsigned ∧ exponent.Unsigned

theorem unsigned_ofNumber (n : Number) : (ofNumber n).Unsigned := by
  unfold ofNumber
  split
  · exact n.negative_abs
  · rename_i positive
    exact Bool.eq_false_of_not_eq_true positive

theorem Unsigned.bracketedIf {term : Term} (unsigned : term.Unsigned) (condition : Bool) :
    (Term.bracketedIf condition term).Unsigned := by
  cases condition <;> exact unsigned

theorem Unsigned.raise {base exponent : Term} (unsignedBase : base.Unsigned)
    (unsignedExponent : exponent.Unsigned) : (Term.raise base exponent).Unsigned := by
  cases base <;> exact ⟨unsignedBase, unsignedExponent⟩

theorem unsigned_explicit (term : Term) : term.explicit.Unsigned := by
  induction term with
  | number n => exact unsigned_ofNumber n
  | parenthesis content ih => exact ih
  | minus operand ih => exact ih.bracketedIf _
  | power base exponent ihBase ihExponent =>
    exact (ihBase.bracketedIf _).raise (ihExponent.bracketedIf _)

theorem eq_of_phrase {p q : Term} (unsignedP : p.Unsigned) (unsignedQ : q.Unsigned)
    (same : p.phrase = q.phrase) : p = q := by
  induction p generalizing q with
  | number n =>
    cases q with
    | number m =>
      rw [phrase, phrase, Phrase.symbol.injEq] at same
      rw [Number.eq_of_word unsignedP unsignedQ same]
    | _ => cases same
  | parenthesis content ih =>
    cases q with
    | parenthesis other =>
      rw [phrase, phrase, Phrase.parenthesis.injEq] at same
      have content_eq : content = other := ih unsignedP unsignedQ same
      rw [content_eq]
    | _ => cases same
  | minus operand ih =>
    cases q with
    | minus other =>
      rw [phrase, phrase, Phrase.unary.injEq] at same
      have operand_eq : operand = other := ih unsignedP unsignedQ same.2
      rw [operand_eq]
    | _ => cases same
  | power base exponent ihBase ihExponent =>
    cases q with
    | power base' exponent' =>
      rw [phrase, phrase, Phrase.binary.injEq] at same
      rw [ihBase unsignedP.1 unsignedQ.1 same.2.1, ihExponent unsignedP.2 unsignedQ.2 same.2.2]
    | _ => cases same

theorem signed_bracketedIf {term : Term} (signed : term.phrase.Signed) (condition : Bool) :
    (bracketedIf condition term).phrase.Signed := by
  cases condition with
  | false => exact signed
  | true => exact .parenthesis signed

/-- As a base every term holds together in the text, but for the negative numbers. -/
theorem base_closed (base : Term) :
    (bracketedIf base.isOperation base.explicit).phrase.strength = closedStrength ∨
      ∃ n, bracketedIf base.isOperation base.explicit = .minus (.number n) := by
  cases base with
  | number n =>
    change (ofNumber n).phrase.strength = closedStrength ∨ ∃ m, ofNumber n = .minus (.number m)
    unfold ofNumber
    split
    · exact .inr ⟨n.abs, rfl⟩
    · exact .inl rfl
  | _ => exact .inl rfl

theorem signed_raise {base exponent : Term} (signedBase : base.phrase.Signed)
    (closed : base.phrase.strength = closedStrength ∨ ∃ n, base = .minus (.number n))
    (signedExponent : exponent.phrase.Signed) : (raise base exponent).phrase.Signed := by
  rcases closed with closed | ⟨n, rfl⟩
  · cases base with
    | minus operand => cases closed
    | _ => exact .power closed signedBase signedExponent
  · exact .minus (.power rfl (.symbol n.word) signedExponent)

theorem signed_explicit (term : Term) : term.explicit.phrase.Signed := by
  induction term with
  | number n =>
    change (ofNumber n).phrase.Signed
    unfold ofNumber
    split
    · exact .minus (.symbol n.abs.word)
    · exact .symbol n.word
  | parenthesis content ih => exact .parenthesis ih
  | minus operand ih => exact .minus (signed_bracketedIf ih _)
  | power base exponent ihBase ihExponent =>
    exact signed_raise (signed_bracketedIf ihBase _) (base_closed base)
      (signed_bracketedIf ihExponent _)

theorem explicit_eq_of_text {p q : Term}
    (same : p.formula.render .keep .text = q.formula.render .keep .text) :
    p.explicit = q.explicit := by
  have chars := congrArg String.toList same
  rw [render_formula, render_formula] at chars
  have lexemes := lexemes_eq_of_chars p.explicit.phrase.lexemes_sealed.isChain
    q.explicit.phrase.lexemes_sealed.isChain chars
  exact eq_of_phrase p.unsigned_explicit q.unsigned_explicit
    (p.signed_explicit.eq_of_lexemes q.signed_explicit lexemes)

def isNegative : Term → Bool
  | .number n => n.negative
  | _ => false

/-- What the text of a term says, at the start of a text or of a bracket or elsewhere: the bare term,
but for the powers of negative numbers at such a start, which are negated powers there. -/
def reading : Bool → Term → Term
  | _, .number n => ofNumber n
  | _, .parenthesis content => reading true content
  | _, .minus operand => .minus (reading false operand)
  | start, .power base exponent =>
    if start && base.isNegative then raise (reading true base) (reading false exponent)
    else .power (reading true base) (reading false exponent)

/-- No power of a negative number stands at the start of the text or of a bracket. -/
def Grouped : Bool → Term → Prop
  | _, .number _ => True
  | _, .parenthesis content => Grouped true content
  | _, .minus operand => Grouped false operand
  | start, .power base exponent =>
    (start = true → base.isNegative = false) ∧ Grouped true base ∧ Grouped false exponent

theorem reading_eq_bare {start : Bool} {term : Term} (grouped : Grouped start term) :
    reading start term = term.bare := by
  induction term generalizing start with
  | number n => rfl
  | parenthesis content ih => exact ih grouped
  | minus operand ih => rw [reading, bare, ih grouped]
  | power base exponent ihBase ihExponent =>
    obtain ⟨first, groupedBase, groupedExponent⟩ := grouped
    have plain : (start && base.isNegative) = false := by
      cases start with
      | false => rfl
      | true => exact first rfl
    rw [reading, plain, bare, ihBase groupedBase, ihExponent groupedExponent]
    rfl

/-- A sign that is not at a start goes to the base of the power behind it. -/
def lower : Term → Term
  | .power base exponent => .power (.minus base) exponent
  | term => .minus term

def regrouped : Bool → Term → Term
  | _, .number n => .number n
  | _, .parenthesis content => regrouped true content
  | start, .minus operand =>
    if start then .minus (regrouped false operand) else lower (regrouped false operand)
  | _, .power base exponent => .power (regrouped true base) (regrouped false exponent)

theorem regrouped_ofNumber (start : Bool) (n : Number) :
    regrouped start (ofNumber n) = ofNumber n := by
  unfold ofNumber
  split
  · cases start <;> rfl
  · rfl

/-- A minus sign that is an operand has brackets, so that it is at a start of its own. -/
theorem regrouped_operand {operand : Term}
    (ih : ∀ start, start = true ∨ operand.isMinus = false →
      regrouped start operand.explicit = reading start operand) :
    regrouped false (bracketedIf operand.isMinus operand.explicit) = reading false operand := by
  cases sign : operand.isMinus with
  | false => exact ih false (.inr sign)
  | true =>
    have inside : regrouped true operand.explicit = reading true operand := ih true (.inl rfl)
    cases operand with
    | minus inner => exact inside
    | _ => cases sign

theorem raise_base {base : Term} (sign : base.isNegative = false) (exponent : Term) :
    raise (bracketedIf base.isOperation base.explicit) exponent
      = .power (bracketedIf base.isOperation base.explicit) exponent := by
  cases base with
  | number n =>
    have unsigned : ofNumber n = .number n := if_neg (by simpa [isNegative] using sign)
    change raise (ofNumber n) exponent = .power (ofNumber n) exponent
    rw [unsigned]
    rfl
  | _ => rfl

theorem regrouped_explicit (term : Term) (start : Bool)
    (free : start = true ∨ term.isMinus = false) :
    regrouped start term.explicit = reading start term := by
  induction term generalizing start with
  | number n => exact regrouped_ofNumber start n
  | parenthesis content ih => exact ih true (.inl rfl)
  | minus operand ih =>
    have atStart : start = true := free.resolve_right (by simp [isMinus])
    rw [explicit, regrouped, if_pos atStart, regrouped_operand ih, reading]
  | power base exponent ihBase ihExponent =>
    have below : regrouped false (bracketedIf exponent.isMinus exponent.explicit)
        = reading false exponent := regrouped_operand ihExponent
    have inner : regrouped true (bracketedIf base.isOperation base.explicit)
        = reading true base := by
      cases base.isOperation <;> exact ihBase true (.inl rfl)
    rw [explicit]
    cases sign : base.isNegative with
    | false => simp [raise_base sign, regrouped, inner, below, reading, sign]
    | true =>
      cases base with
      | number n =>
        have signed : ofNumber n = .minus (.number n.abs) := if_pos sign
        change regrouped start (raise (ofNumber n) _) = _
        cases start with
        | false => simp [signed, raise, regrouped, lower, below, reading]
        | true => simp [signed, raise, regrouped, below, reading, sign]
      | _ => cases sign

/-- Terms with the same text have the same reading, and they are the same bare term if no power of a
negative number stands at the start of the text or of a bracket. -/
theorem bare_eq_of_text {p q : Term}
    (same : p.formula.render .keep .text = q.formula.render .keep .text) :
    reading true p = reading true q ∧ (Grouped true p → Grouped true q → p.bare = q.bare) := by
  have read : reading true p = reading true q := by
    rw [← regrouped_explicit p true (.inl rfl), ← regrouped_explicit q true (.inl rfl),
      explicit_eq_of_text same]
  refine ⟨read, fun groupedP groupedQ => ?_⟩
  rw [← reading_eq_bare groupedP, ← reading_eq_bare groupedQ, read]

def two : Term :=
  .number ⟨2, by decide⟩

def minusTwo : Term :=
  .number ⟨-2, by decide⟩

/-- Brackets that are written out and brackets that the text needs anyway, in a power of a negative
number that is not at the start of its text. -/
theorem bare_eq_of_text_power :
    let p := minus (power minusTwo (parenthesis (minus two)))
    let q := minus (power minusTwo (minus two))
    p.formula.render .keep .text = q.formula.render .keep .text ∧
      reading true p = reading true q ∧ p.bare = q.bare := by
  intro p q
  have same : p.formula.render .keep .text = q.formula.render .keep .text := by decide +kernel
  obtain ⟨read, equal⟩ := bare_eq_of_text same
  have groupedP : Grouped true p := ⟨nofun, trivial, trivial⟩
  have groupedQ : Grouped true q := ⟨nofun, trivial, trivial⟩
  exact ⟨same, read, equal groupedP groupedQ⟩

/-- The square of a negative number is written as the negated square of a number, though a negation
that is squared gets brackets. -/
theorem same_text_of_negative_base :
    (power minusTwo two).formula.render .keep .text = "-2 ^ 2" ∧
      (minus (power two two)).formula.render .keep .text = "-2 ^ 2" ∧
      (power minusTwo two).bare ≠ (minus (power two two)).bare ∧
      (power (minus two) two).formula.render .keep .text = "(-2) ^ 2" := by
  refine ⟨by decide +kernel, by decide +kernel, ?_, by decide +kernel⟩
  intro same
  cases same

end Term

end FormulaTree.Render

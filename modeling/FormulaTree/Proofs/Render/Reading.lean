import FormulaTree.Proofs.Render.Lexing

/-!
# Lexemes read back

A machine with a stack of openings, and of operators that want their right operand, reads the
lexemes of a phrase that has all the brackets it needs. What it reads is the phrase, its chains of
operators of one level leaning to the left (`reads_explicit`). So phrases with the same lexemes are
the same but for how such chains lean.
-/

set_option autoImplicit false

namespace FormulaTree.Render

namespace Phrase

/-- An operation on two operands, put together so that a chain of operators of one level leans to
the left. Powers lean to the right as they are. -/
def join (o : BinaryOperator) (left : Phrase) : Phrase → Phrase
  | .binary other inner right =>
    if other.level = o.level ∧ o ≠ .pow then .binary other (join o left inner) right
    else .binary o left (.binary other inner right)
  | right => .binary o left right

mutual

def combed : Phrase → Phrase
  | .symbol name => .symbol name
  | .call function arguments => .call function (combedAll arguments)
  | .parenthesis content => .parenthesis content.combed
  | .unary o operand => .unary o operand.combed
  | .binary o left right => join o left.combed right.combed

def combedAll : List Phrase → List Phrase
  | [] => []
  | phrase :: rest => phrase.combed :: combedAll rest

end

/-- Phrases that have all the brackets they need. -/
inductive Explicit : Phrase → Prop
  | symbol (name : Word) : Explicit (.symbol name)
  | call {function : Word} {arguments : List Phrase}
      (all : ∀ argument ∈ arguments, Explicit argument) : Explicit (.call function arguments)
  | parenthesis {content : Phrase} (explicit : Explicit content) : Explicit (.parenthesis content)
  | unary {o : UnaryOperator} {operand : Phrase} (explicit : Explicit operand)
      (strong : UnaryOperator.floor ≤ operand.strength) : Explicit (.unary o operand)
  | binary {o : BinaryOperator} {left right : Phrase}
      (explicitLeft : Explicit left) (explicitRight : Explicit right)
      (strongLeft : o.leftFloor ≤ left.strength) (strongRight : o.rightFloor ≤ right.strength) :
      Explicit (.binary o left right)

theorem combedAll_eq_map (phrases : List Phrase) : combedAll phrases = phrases.map combed := by
  induction phrases with
  | nil => rfl
  | cons phrase rest ih => rw [combedAll, ih, List.map_cons]

theorem strength_pos (phrase : Phrase) : 0 < phrase.strength := by
  cases phrase with
  | binary o left right => exact o.level_pos
  | _ => simp [strength, closedStrength, UnaryOperator.level]

theorem join_chain {o other : BinaryOperator} (same : other.level = o.level) (chain : o ≠ .pow)
    (left inner right : Phrase) :
    join o left (.binary other inner right) = .binary other (join o left inner) right := by
  simp only [join, same, chain, ne_eq, not_false_eq_true, and_self, if_true]

theorem join_of_strength_ne {o : BinaryOperator} {left right : Phrase}
    (apart : right.strength ≠ o.level) : join o left right = .binary o left right := by
  cases right with
  | binary other inner right => exact if_neg fun both => apart both.1
  | _ => rfl

theorem join_pow (left right : Phrase) : join .pow left right = .binary .pow left right := by
  cases right with
  | binary other inner right => exact if_neg fun both => both.2 rfl
  | _ => rfl

/-- Other operators than these do not find a chain of their own level at their right. -/
theorem join_of_not_associative {o : BinaryOperator} {left right : Phrase}
    (apart : o ∉ [.add, .multiply, .and, .or]) (strong : o.rightFloor ≤ right.strength) :
    join o left right = .binary o left right := by
  by_cases power : o = .pow
  · rw [power, join_pow]
  · have floor : o.level < o.rightFloor := o.level_lt_rightFloor_iff.2 (by simp_all)
    exact join_of_strength_ne (floor.trans_le strong).ne'

@[simp] theorem strength_join (o : BinaryOperator) (left right : Phrase) :
    (join o left right).strength = o.level := by
  by_cases power : o = .pow
  · rw [power, join_pow]
    rfl
  · by_cases same : right.strength = o.level
    · cases right with
      | binary other inner right =>
        rw [join_chain same power]
        exact same
      | _ => rfl
    · rw [join_of_strength_ne same]
      rfl

@[simp] theorem strength_combed (phrase : Phrase) : phrase.combed.strength = phrase.strength := by
  cases phrase with
  | binary o left right => exact strength_join o _ _
  | _ => rfl

/-- It does not matter which of two neighbours in a chain takes its right operand first. -/
theorem join_join {outer o : BinaryOperator} (same : outer.level = o.level) (chain : o ≠ .pow)
    (first second third : Phrase) :
    join outer first (join o second third) = join o (join outer first second) third := by
  have chainOuter : outer ≠ .pow := by
    rintro rfl
    exact chain (o.eq_pow_of_level same.symm)
  -- Down the left side of the third operand, as long as its chain goes on.
  induction third with
  | binary other inner right ihInner _ =>
    by_cases level : other.level = o.level
    · rw [join_chain level chain, join_chain (level.trans same.symm) chainOuter, ihInner,
        join_chain level chain]
    · have apart : (Phrase.binary other inner right).strength ≠ o.level := level
      rw [join_of_strength_ne apart, join_of_strength_ne apart, join_chain same.symm chainOuter]
  | _ => exact join_chain same.symm chainOuter first second _

theorem bracketedIf_strength {phrase : Phrase} {floor strength : Nat}
    (same : phrase.strength = strength) (low : floor ≤ closedStrength) :
    floor ≤ (bracketedIf (strength < floor) phrase).strength := by
  by_cases weak : strength < floor
  · rw [bracketedIf, if_pos weak]
    exact low
  · rw [bracketedIf, if_neg weak, same]
    exact Nat.not_lt.1 weak

theorem Explicit.bracketedIf {phrase : Phrase} (explicit : Explicit phrase) (condition : Prop)
    [Decidable condition] : Explicit (bracketedIf condition phrase) := by
  unfold Phrase.bracketedIf
  split
  · exact .parenthesis explicit
  · exact explicit

theorem explicit_explicit (phrase : Phrase) : Explicit phrase.explicit := by
  induction phrase with
  | symbol name => exact .symbol name
  | call function arguments ih =>
    rw [explicit, explicitAll_eq_map]
    exact .call (by simpa using ih)
  | parenthesis content ih => exact .parenthesis ih
  | unary o operand ih =>
    exact .unary (ih.bracketedIf _) (bracketedIf_strength operand.strength_explicit (by decide))
  | binary o left right ihLeft ihRight =>
    have low := o.floors_le_closedStrength
    exact .binary (ihLeft.bracketedIf _) (ihRight.bracketedIf _)
      (bracketedIf_strength left.strength_explicit low.1)
      (bracketedIf_strength right.strength_explicit low.2)

end Phrase

open Phrase

/-- What has been read and waits for what comes after it. -/
inductive Pending where
  | binary (o : BinaryOperator) (left : Phrase)
  | unary (o : UnaryOperator)
  | opened
  /-- A call with the arguments that are complete. -/
  | call (function : Word) (arguments : List Phrase)

def Pending.level : Pending → Nat
  | .binary o _ => o.level
  | .unary _ => UnaryOperator.level
  | .opened => 0
  | .call _ _ => 0

/-- The operators of at least a certain level take the operand that has been read. -/
def settle (floor : Nat) : List Pending → Phrase → List Pending × Phrase
  | .binary o left :: below, operand =>
    if floor ≤ o.level then settle floor below (join o left operand)
    else (.binary o left :: below, operand)
  | .unary o :: below, operand =>
    if floor ≤ UnaryOperator.level then settle floor below (.unary o operand)
    else (.unary o :: below, operand)
  | stack, operand => (stack, operand)

inductive Reader where
  /-- An operand comes next. -/
  | wanting (stack : List Pending)
  /-- An operand has just been read. -/
  | holding (stack : List Pending) (operand : Phrase)
  | stuck

namespace Reader

def close : List Pending × Phrase → Reader
  | (.opened :: below, content) => .holding below (.parenthesis content)
  | (.call function arguments :: below, last) =>
    .holding below (.call function (arguments ++ [last]))
  | _ => .stuck

def separate : List Pending × Phrase → Reader
  | (.call function arguments :: below, next) =>
    .wanting (.call function (arguments ++ [next]) :: below)
  | _ => .stuck

def step : Reader → Lexeme → Reader
  | .wanting stack, .word name => .holding stack (.symbol name)
  | .wanting stack, .call function => .wanting (.call function [] :: stack)
  | .wanting stack, .unary o => .wanting (.unary o :: stack)
  | .wanting stack, .opened => .wanting (.opened :: stack)
  | .wanting (.call function [] :: below), .closed => .holding below (.call function [])
  | .holding stack operand, .binary o =>
    .wanting (.binary o (settle o.leftFloor stack operand).2
      :: (settle o.leftFloor stack operand).1)
  | .holding stack operand, .closed => close (settle 0 stack operand)
  | .holding stack operand, .comma => separate (settle 0 stack operand)
  | _, _ => .stuck

end Reader

def Under (level : Nat) (stack : List Pending) : Prop :=
  ∀ pending ∈ stack.head?, pending.level < level

/-- The stacks on which a phrase of a certain strength is read as a whole, or as the next link of a
chain. -/
def Admits (strength : Nat) (stack : List Pending) : Prop :=
  Under strength stack ∨ ∃ o left below, stack = .binary o left :: below ∧ o.level = strength
    ∧ (o = .pow ∨ Under strength below)

/-- From a stack, the machine reads a phrase: what it then holds settles as the phrase does. -/
def Reads (stack : List Pending) (phrase : Phrase) : Prop :=
  ∃ stack' operand,
    phrase.lexemes.foldl Reader.step (.wanting stack) = .holding stack' operand
      ∧ ∀ floor ≤ phrase.strength, settle floor stack' operand = settle floor stack phrase.combed

theorem settle_of_under {level floor : Nat} {stack : List Pending} (under : Under level stack)
    (le : level ≤ floor) (operand : Phrase) : settle floor stack operand = (stack, operand) := by
  cases stack with
  | nil => rfl
  | cons pending below =>
    have low : pending.level < level := under pending rfl
    cases pending with
    | binary o left =>
      have weak : ¬ floor ≤ o.level := Nat.not_le.2 (low.trans_le le)
      simp [settle, weak]
    | unary o =>
      have weak : ¬ floor ≤ UnaryOperator.level := Nat.not_le.2 (low.trans_le le)
      simp [settle, weak]
    | opened => rfl
    | call function arguments => rfl

theorem Under.mono {level higher : Nat} {stack : List Pending} (under : Under level stack)
    (le : level ≤ higher) : Under higher stack :=
  fun pending top => (under pending top).trans_le le

theorem Admits.mono {strength higher : Nat} {stack : List Pending} (admits : Admits strength stack)
    (le : strength ≤ higher) : Admits higher stack := by
  rcases admits with under | ⟨o, left, below, rfl, level, rest⟩
  · exact .inl (under.mono le)
  · rcases Nat.eq_or_lt_of_le le with rfl | less
    · exact .inr ⟨o, left, below, rfl, level, rest⟩
    · refine .inl fun pending top => ?_
      cases top
      exact level.trans_lt less

theorem admits_opening {pending : Pending} (opening : pending.level = 0) (phrase : Phrase)
    (below : List Pending) : Admits phrase.strength (pending :: below) := by
  refine .inl fun top head => ?_
  cases head
  exact opening.trans_lt phrase.strength_pos

/-- What stands after an opening settles down to it. -/
theorem Reads.after_opening {pending : Pending} {below : List Pending} {phrase : Phrase}
    (reads : Reads (pending :: below) phrase) (opening : pending.level = 0) :
    ∃ stack operand,
      phrase.lexemes.foldl Reader.step (.wanting (pending :: below)) = .holding stack operand
        ∧ settle 0 stack operand = (pending :: below, phrase.combed) := by
  obtain ⟨stack, operand, run, settles⟩ := reads
  refine ⟨stack, operand, run, (settles 0 (Nat.zero_le _)).trans ?_⟩
  cases pending with
  | binary o left => exact absurd opening o.level_pos.ne'
  | unary o => exact absurd opening (Nat.succ_ne_zero _)
  | opened => rfl
  | call function arguments => rfl

/-- The arguments after the first one, up to the end of the call. -/
theorem run_listedAfter {function : Word} {below : List Pending} {phrases : List Phrase}
    (reads : ∀ phrase ∈ phrases, ∀ stack, Admits phrase.strength stack → Reads stack phrase)
    {complete : List Phrase} {stack : List Pending} {operand last : Phrase}
    (settled : settle 0 stack operand = (.call function complete :: below, last)) :
    (listedAfter phrases ++ [Lexeme.closed]).foldl Reader.step (.holding stack operand)
      = .holding below (.call function (complete ++ last :: combedAll phrases)) := by
  induction phrases generalizing complete stack operand last with
  | nil =>
    change Reader.close (settle 0 stack operand) = _
    rw [settled]
    rfl
  | cons phrase rest ih =>
    obtain ⟨stack', operand', run, settled'⟩ :=
      (reads phrase List.mem_cons_self (.call function (complete ++ [last]) :: below)
        (admits_opening rfl phrase below)).after_opening rfl
    have comma : Reader.step (.holding stack operand) .comma
        = .wanting (.call function (complete ++ [last]) :: below) := by
      change Reader.separate (settle 0 stack operand) = _
      rw [settled]
      rfl
    rw [listedAfter, List.cons_append, List.foldl_cons, comma, List.append_assoc, List.foldl_append,
      run, ih (fun other mem => reads other (List.mem_cons_of_mem _ mem)) settled']
    simp [combedAll]

theorem run_call {function : Word} {stack : List Pending} {arguments : List Phrase}
    (reads : ∀ argument ∈ arguments, ∀ stack, Admits argument.strength stack →
      Reads stack argument) :
    (Phrase.call function arguments).lexemes.foldl Reader.step (.wanting stack)
      = .holding stack (.call function (combedAll arguments)) := by
  cases arguments with
  | nil => rfl
  | cons first rest =>
    obtain ⟨stack', operand, run, settled⟩ :=
      (reads first List.mem_cons_self (.call function [] :: stack)
        (admits_opening rfl first stack)).after_opening rfl
    have others (other : Phrase) (mem : other ∈ rest) :=
      reads other (List.mem_cons_of_mem _ mem)
    have after := run_listedAfter others settled
    change (first.lexemes ++ listedAfter rest ++ [Lexeme.closed]).foldl Reader.step
      (.wanting (.call function [] :: stack)) = _
    rw [List.append_assoc, List.foldl_append, run, after, List.nil_append, combedAll]

/-- The operator between two operands finds the left one settled, alone or as the end of a chain. -/
theorem settle_left {o : BinaryOperator} {stack : List Pending} (admits : Admits o.level stack)
    (left : Phrase) :
    ∃ below operand, settle o.leftFloor stack left = (below, operand)
      ∧ (o = .pow ∨ Under o.level below)
      ∧ ∀ floor ≤ o.level, ∀ right,
        settle floor below (join o operand right) = settle floor stack (join o left right) := by
  rcases admits with under | ⟨outer, first, below, rfl, level, rest⟩
  · exact ⟨stack, left, settle_of_under under o.level_le_leftFloor left, .inr under,
      fun _ _ _ => rfl⟩
  · -- A power leaves the one before it waiting; any other operator of the level is folded first.
    by_cases power : o = .pow
    · subst power
      have weak : ¬ BinaryOperator.pow.leftFloor ≤ outer.level := by rw [level]; decide
      exact ⟨_, left, by simp [settle, weak], .inl rfl, fun _ _ _ => rfl⟩
    · have under : Under o.level below := by
        refine rest.resolve_left fun outerPower => power (o.eq_pow_of_level ?_)
        rw [← level, outerPower]
      have floorLevel : o.leftFloor = o.level := if_neg power
      refine ⟨below, join outer first left, ?_, .inr under, fun floor le right => ?_⟩
      · rw [floorLevel, settle, if_pos level.ge, settle_of_under under le_rfl]
      · rw [settle, if_pos (level ▸ le), join_join level power]

theorem reads_binary {o : BinaryOperator} {left right : Phrase} {stack : List Pending}
    (strongLeft : o.leftFloor ≤ left.strength) (strongRight : o.rightFloor ≤ right.strength)
    (admits : Admits o.level stack) (readsLeft : Reads stack left)
    (readsRight : ∀ stack, Admits right.strength stack → Reads stack right) :
    Reads stack (.binary o left right) := by
  obtain ⟨stackLeft, operandLeft, runLeft, settlesLeft⟩ := readsLeft
  obtain ⟨below, operand, settled, top, settles⟩ := settle_left admits left.combed
  have atOperator : settle o.leftFloor stackLeft operandLeft = (below, operand) :=
    (settlesLeft _ strongLeft).trans settled
  have high : o.level ≤ right.strength := o.level_le_rightFloor.trans strongRight
  have link : Admits o.level (.binary o operand :: below) := .inr ⟨o, operand, below, rfl, rfl, top⟩
  obtain ⟨stackRight, operandRight, runRight, settlesRight⟩ := readsRight _ (link.mono high)
  have operator : Reader.step (.holding stackLeft operandLeft) (.binary o)
      = .wanting (.binary o operand :: below) := by
    simp only [Reader.step, atOperator]
  refine ⟨stackRight, operandRight, ?_, fun floor le => ?_⟩
  · rw [lexemes, List.foldl_append, runLeft, List.foldl_cons, operator, runRight]
  · have own : floor ≤ o.level := le
    rw [settlesRight floor (own.trans high), settle, if_pos own, settles floor own, combed]

/-- The machine reads every phrase that has the brackets it needs. -/
theorem reads_explicit {phrase : Phrase} (explicit : Explicit phrase) :
    ∀ stack, Admits phrase.strength stack → Reads stack phrase := by
  -- The stack is not fixed: an operand is read on top of what its own operator leaves there.
  induction explicit with
  | symbol name => exact fun stack _ => ⟨stack, .symbol name, rfl, fun _ _ => rfl⟩
  | call all ih => exact fun stack _ => ⟨stack, _, run_call ih, fun _ _ => rfl⟩
  | @parenthesis content _ ih =>
    intro stack _
    obtain ⟨stack', operand, run, settled⟩ :=
      (ih (.opened :: stack) (admits_opening rfl content stack)).after_opening rfl
    refine ⟨stack, .parenthesis content.combed, ?_, fun _ _ => rfl⟩
    change (content.lexemes ++ [Lexeme.closed]).foldl Reader.step (.wanting (.opened :: stack)) = _
    rw [List.foldl_append, run]
    change Reader.close (settle 0 stack' operand) = _
    rw [settled]
    rfl
  | @unary o operand _ strong ih =>
    intro stack _
    have under : Admits operand.strength (.unary o :: stack) := by
      refine .inl fun top head => ?_
      cases head
      exact strong
    obtain ⟨stack', operand', run, settles⟩ := ih _ under
    refine ⟨stack', operand', run, fun floor le => ?_⟩
    have own : floor ≤ UnaryOperator.level := le
    rw [settles floor (own.trans (Nat.le_of_lt strong)), settle, if_pos own, combed]
  | @binary o left right _ _ strongLeft strongRight ihLeft ihRight =>
    intro stack admits
    have high : o.level ≤ left.strength := o.level_le_leftFloor.trans strongLeft
    exact reads_binary strongLeft strongRight admits (ihLeft stack (admits.mono high)) ihRight

/-- Phrases with the same lexemes are the same, but for how their chains lean. -/
theorem combed_eq_of_lexemes {p q : Phrase} (explicitP : Explicit p) (explicitQ : Explicit q)
    (same : p.lexemes = q.lexemes) : p.combed = q.combed := by
  have bottom (strength : Nat) : Admits strength [] := .inl (by simp [Under])
  obtain ⟨stack, operand, run, settles⟩ := reads_explicit explicitP [] (bottom _)
  obtain ⟨stack', operand', run', settles'⟩ := reads_explicit explicitQ [] (bottom _)
  rw [same, run'] at run
  cases run
  have settled : settle 0 [] p.combed = settle 0 [] q.combed :=
    (settles 0 (Nat.zero_le _)).symm.trans (settles' 0 (Nat.zero_le _))
  exact congrArg Prod.snd settled

namespace Phrase

/-- Texts are told apart up to brackets and to how chains lean. -/
theorem combed_explicit_eq {p q : Phrase}
    (same : p.formula.render .keep .text = q.formula.render .keep .text) :
    p.explicit.combed = q.explicit.combed :=
  combed_eq_of_lexemes p.explicit_explicit q.explicit_explicit (explicit_lexemes_eq same)

end Phrase

end FormulaTree.Render

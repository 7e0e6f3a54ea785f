import FormulaTree.Proofs.Render.Phrase
import FormulaTree.Proofs.Text.Numeral
import Mathlib.Data.List.Chain

set_option autoImplicit false

namespace FormulaTree.Render

def Word.ofChars? (letters : List Char) : Option Word :=
  if h : letters ≠ [] ∧ letters.all isWordChar = true ∧ String.ofList letters ≠ "not" then
    some ⟨String.ofList letters, by simpa using h.1, by simpa using h.2.1, h.2.2⟩
  else none

theorem Word.ofChars?_text (word : Word) : Word.ofChars? word.text.toList = some word := by
  have passes : word.text.toList ≠ [] ∧ word.text.toList.all isWordChar = true
      ∧ String.ofList word.text.toList ≠ "not" :=
    ⟨word.nonempty, word.letters, by simpa using word.free⟩
  rw [ofChars?, dif_pos passes]
  cases word with
  | mk text nonempty letters free => simp only [String.ofList_toList]

def BinaryOperator.ofSign? (sign : List Char) : Option BinaryOperator :=
  [or, and, equal, unequal, smaller, larger, smallerEq, largerEq, add, subtract, multiply, divide,
    modulo, pow].find? fun o => o.sign.toList = sign

theorem BinaryOperator.ofSign?_sign (o : BinaryOperator) : ofSign? o.sign.toList = some o := by
  cases o <;> decide

theorem BinaryOperator.not_blank (o : BinaryOperator) : o.sign.toList.all (· ≠ ' ') = true := by
  cases o <;> decide

def lexemeOfLetters (letters rest : List Char) : Option (Lexeme × List Char) :=
  if letters = ['n', 'o', 't'] then
    match rest with
    | ' ' :: rest => some (.unary .not, rest)
    | _ => none
  else
    match Word.ofChars? letters, rest with
    | some word, '(' :: rest => some (.call word, rest)
    | some word, rest => some (.word word, rest)
    | none, _ => none

def nextLexeme : List Char → Option (Lexeme × List Char)
  | '(' :: rest => some (.opened, rest)
  | ')' :: rest => some (.closed, rest)
  | ',' :: ' ' :: rest => some (.comma, rest)
  | '-' :: rest => some (.unary .minus, rest)
  | '+' :: rest => some (.unary .plus, rest)
  | ' ' :: rest =>
    match BinaryOperator.ofSign? (rest.span (· ≠ ' ')).1, (rest.span (· ≠ ' ')).2 with
    | some o, ' ' :: rest => some (.binary o, rest)
    | _, _ => none
  | text => lexemeOfLetters (text.span isWordChar).1 (text.span isWordChar).2

namespace Lexeme

/-- A text that comes after a lexeme and does not run into it. -/
def Apart : Lexeme → List Char → Prop
  | .word _, rest => ∀ c ∈ rest.head?, isWordChar c = false ∧ c ≠ '('
  | _, _ => True

def endsWord : Lexeme → Bool
  | .binary _ | .closed | .comma => true
  | _ => false

def Before : Lexeme → Lexeme → Prop
  | .word _, next => next.endsWord = true
  | _, _ => True

theorem chars_ne_nil (lexeme : Lexeme) : lexeme.chars ≠ [] := by
  cases lexeme with
  | word name => exact name.nonempty
  | unary o => cases o <;> simp [chars, UnaryOperator.sign]
  | _ => simp [chars]

theorem apart_of_isChain {lexeme : Lexeme} {rest : List Lexeme}
    (chain : List.IsChain Before (lexeme :: rest)) : lexeme.Apart (rest.flatMap chars) := by
  cases lexeme with
  | word name =>
    cases rest with
    | nil => simp [Apart]
    | cons next rest =>
      have ends : next.endsWord = true := (List.isChain_cons_cons.1 chain).1
      cases next with
      | binary o => simp [Apart, chars, isWordChar]
      | closed => simp [Apart, chars, isWordChar]
      | comma => simp [Apart, chars, isWordChar]
      | _ => simp [endsWord] at ends
  | _ => exact trivial

end Lexeme

theorem nextLexeme_letter {c : Char} {rest : List Char} (letter : isWordChar c = true) :
    nextLexeme (c :: rest)
      = lexemeOfLetters ((c :: rest).span isWordChar).1 ((c :: rest).span isWordChar).2 := by
  unfold nextLexeme
  split
  all_goals first
    | rfl
    | simp_all [isWordChar]

theorem nextLexeme_word {letters rest : List Char} (nonempty : letters ≠ [])
    (all : letters.all isWordChar = true) (stop : ∀ c ∈ rest.head?, isWordChar c = false) :
    nextLexeme (letters ++ rest) = lexemeOfLetters letters rest := by
  have each := List.all_eq_true.1 all
  obtain ⟨c, tail, rfl⟩ := List.exists_cons_of_ne_nil nonempty
  rw [List.cons_append, nextLexeme_letter (each c List.mem_cons_self), ← List.cons_append,
    Text.span_append each stop]

theorem Word.text_ne_not (word : Word) : word.text.toList ≠ ['n', 'o', 't'] := by
  intro same
  exact word.free (String.toList_inj.1 same)

theorem nextLexeme_chars {lexeme : Lexeme} {rest : List Char} (apart : lexeme.Apart rest) :
    nextLexeme (lexeme.chars ++ rest) = some (lexeme, rest) := by
  cases lexeme with
  | word name =>
    have stop : ∀ c ∈ rest.head?, isWordChar c = false := fun c head => (apart c head).1
    rw [Lexeme.chars, nextLexeme_word name.nonempty name.letters stop]
    unfold lexemeOfLetters
    rw [if_neg name.text_ne_not, name.ofChars?_text]
    cases rest with
    | nil => rfl
    | cons c rest =>
      have other : c ≠ '(' := (apart c rfl).2
      simp [other]
  | call function =>
    have stop : ∀ c ∈ ('(' :: rest).head?, isWordChar c = false := by simp [isWordChar]
    rw [Lexeme.chars, List.append_assoc, List.singleton_append,
      nextLexeme_word function.nonempty function.letters stop]
    unfold lexemeOfLetters
    rw [if_neg function.text_ne_not, function.ofChars?_text]
    rfl
  | unary o =>
    cases o with
    | minus => rfl
    | plus => rfl
    | not =>
      have all : ['n', 'o', 't'].all isWordChar = true := by decide
      have stop : ∀ c ∈ (' ' :: rest).head?, isWordChar c = false := by simp [isWordChar]
      exact nextLexeme_word (by simp) all stop
  | binary o =>
    have stop : ∀ c ∈ (' ' :: rest).head?, decide (c ≠ ' ') = false := by simp
    have divided := Text.span_append (List.all_eq_true.1 o.not_blank) stop
    simp only [Lexeme.chars, List.cons_append, List.append_assoc, List.nil_append, nextLexeme,
      divided, o.ofSign?_sign]
  | opened => rfl
  | closed => rfl
  | comma => rfl

/-- Rows of lexemes in which no word runs into what comes after it are told apart by their text. -/
theorem lexemes_eq_of_chars {first second : List Lexeme} (chainFirst : first.IsChain Lexeme.Before)
    (chainSecond : second.IsChain Lexeme.Before)
    (same : first.flatMap Lexeme.chars = second.flatMap Lexeme.chars) : first = second := by
  induction first generalizing second with
  | nil =>
    cases second with
    | nil => rfl
    | cons next rest => simp [next.chars_ne_nil] at same
  | cons lexeme rest ih =>
    cases second with
    | nil => simp [lexeme.chars_ne_nil] at same
    | cons next tail =>
      rw [List.flatMap_cons, List.flatMap_cons] at same
      have heads := nextLexeme_chars (Lexeme.apart_of_isChain chainFirst)
      rw [same, nextLexeme_chars (Lexeme.apart_of_isChain chainSecond), Option.some_inj,
        Prod.mk.injEq] at heads
      rw [heads.1, ih chainFirst.of_cons chainSecond.of_cons heads.2.symm]

/-- Rows of lexemes that may stand before everything that may come after a word. -/
def Sealed (row : List Lexeme) : Prop :=
  ∀ rest : List Lexeme, rest.IsChain Lexeme.Before → (∀ next ∈ rest.head?, next.endsWord = true) →
    (row ++ rest).IsChain Lexeme.Before

namespace Sealed

theorem nil : Sealed [] :=
  fun _ chain _ => chain

theorem cons {lexeme : Lexeme} {row : List Lexeme} (free : ∀ next, lexeme.Before next)
    (tail : Sealed row) : Sealed (lexeme :: row) :=
  fun rest chain ends => (tail rest chain ends).cons fun next _ => free next

theorem append {first second : List Lexeme} (front : Sealed first) (back : Sealed second)
    (apart : ∀ next ∈ second.head?, next.endsWord = true) : Sealed (first ++ second) := by
  intro rest chain ends
  rw [List.append_assoc]
  refine front _ (back rest chain ends) ?_
  cases second with
  | nil => exact ends
  | cons next row => exact apart

theorem isChain {row : List Lexeme} (closed : Sealed row) : row.IsChain Lexeme.Before := by
  have chain := closed [] .nil (by simp)
  rwa [List.append_nil] at chain

end Sealed

namespace Phrase

theorem listedAfter_sealed {phrases : List Phrase}
    (all : ∀ phrase ∈ phrases, Sealed phrase.lexemes) :
    Sealed (listedAfter phrases) ∧ ∀ next ∈ (listedAfter phrases).head?, next.endsWord = true := by
  induction phrases with
  | nil => exact ⟨.nil, by simp [listedAfter]⟩
  | cons phrase rest ih =>
    have tail := ih fun other mem => all other (List.mem_cons_of_mem _ mem)
    have row := (all phrase List.mem_cons_self).append tail.1 tail.2
    exact ⟨row.cons fun _ => trivial, by simp [listedAfter, Lexeme.endsWord]⟩

theorem listed_sealed {phrases : List Phrase}
    (all : ∀ phrase ∈ phrases, Sealed phrase.lexemes) : Sealed (listed phrases) := by
  cases phrases with
  | nil => exact .nil
  | cons phrase rest =>
    have tail := listedAfter_sealed fun other mem => all other (List.mem_cons_of_mem _ mem)
    exact (all phrase List.mem_cons_self).append tail.1 tail.2

theorem lexemes_sealed (phrase : Phrase) : Sealed phrase.lexemes := by
  have closing : Sealed [.closed] := Sealed.nil.cons fun _ => trivial
  have ends : ∀ next ∈ [Lexeme.closed].head?, next.endsWord = true := by simp [Lexeme.endsWord]
  induction phrase with
  | symbol name => exact fun rest chain ends => chain.cons ends
  | call function arguments ih =>
    exact ((listed_sealed ih).append closing ends).cons fun _ => trivial
  | parenthesis content ih => exact (ih.append closing ends).cons fun _ => trivial
  | unary o operand ih => exact ih.cons fun _ => trivial
  | binary o left right ihLeft ihRight =>
    have after : Sealed (.binary o :: right.lexemes) := ihRight.cons fun _ => trivial
    exact ihLeft.append after (by simp [Lexeme.endsWord])

/-- Phrases with the same text have the same lexemes. -/
theorem explicit_lexemes_eq {p q : Phrase}
    (same : p.formula.render .keep .text = q.formula.render .keep .text) :
    p.explicit.lexemes = q.explicit.lexemes := by
  have chars := congrArg String.toList same
  rw [render_formula, render_formula] at chars
  exact lexemes_eq_of_chars p.explicit.lexemes_sealed.isChain
    q.explicit.lexemes_sealed.isChain chars

end Phrase

end FormulaTree.Render

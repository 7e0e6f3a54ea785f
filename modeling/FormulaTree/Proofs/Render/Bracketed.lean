import FormulaTree.Proofs.Render.Lexing
import FormulaTree.Proofs.Render.Transparent

set_option autoImplicit false

namespace FormulaTree

namespace Render

def reservedWords : List String := ["not", "and", "or", "mod"]

/-- Every character may be in a name, but for those that stand before and behind names. -/
def isNameChar (c : Char) : Bool :=
  c ∉ [' ', '(', ')', ',', '+', '-']

/-- A name that can be told from what is around it. Every identifier that is no sign of an operator
is one. -/
def IsName (name : String) : Prop :=
  name.toList ≠ [] ∧ (∀ c ∈ name.toList, isNameChar c = true) ∧ name ∉ reservedWords

instance (name : String) : Decidable (IsName name) :=
  haveI := List.decidableBAll (fun c => isNameChar c = true) name.toList
  inferInstanceAs (Decidable (_ ∧ _ ∧ _))

end Render

namespace Formula

open Render

/-- Formulas of names, calls, parentheses and the operators of the prelude with their usual signs. -/
inductive Usual : Formula → Prop
  | symbol {name : String} (named : IsName name) : Usual (.symbol name)
  | call {function : String} {arguments : List Formula} (named : IsName function)
      (all : ∀ argument ∈ arguments, Usual argument) : Usual (.call function arguments)
  | parenthesis {content : Formula} (usual : Usual content) : Usual (.parenthesis content)
  | unary (o : UnaryOperator) {operand : Formula} (usual : Usual operand) :
      Usual (.unary o.sign o.function operand)
  | binary (o : BinaryOperator) {left right : Formula} (usualLeft : Usual left)
      (usualRight : Usual right) : Usual (.binary o.sign o.function left right)

def letters (formula : Formula) : List Char :=
  (formula.render .all .text).toList

def operandLetters (formula : Formula) : List Char :=
  if (precedence .all formula).isSome then '(' :: formula.letters ++ [')'] else formula.letters

end Formula

namespace Render

section reader

def takeUnary? : List Char → Option (UnaryOperator × List Char)
  | '-' :: rest => some (.minus, rest)
  | '+' :: rest => some (.plus, rest)
  | 'n' :: 'o' :: 't' :: ' ' :: rest => some (.not, rest)
  | _ => none

def takeBinary? : List Char → Option (BinaryOperator × List Char)
  | ' ' :: rest =>
    match nextLexeme (' ' :: rest) with
    | some (.binary o, rest) => some (o, rest)
    | _ => none
  | _ => none

def takeClosed? : List Char → Option (List Char)
  | ')' :: rest => some rest
  | _ => none

mutual

def readFormula : Nat → List Char → Option (Formula × List Char)
  | 0, _ => none
  | fuel + 1, text =>
    match takeUnary? text with
    | some (o, rest) => do
      let (operand, rest) ← readOperand fuel rest
      some (.unary o.sign o.function operand, rest)
    | none => do
      let (left, rest) ← readOperand fuel text
      match takeBinary? rest with
      | some (o, rest) =>
        let (right, rest) ← readOperand fuel rest
        some (.binary o.sign o.function left right, rest)
      | none => some (left, rest)

def readOperand : Nat → List Char → Option (Formula × List Char)
  | 0, _ => none
  | fuel + 1, '(' :: text => do
    let (content, rest) ← readFormula fuel text
    let rest ← takeClosed? rest
    some (content, rest)
  | fuel + 1, text =>
    match text.span isNameChar with
    | ([], _) => none
    | (name, '(' :: rest) => do
      let (arguments, rest) ← readArguments fuel rest
      some (.call (String.ofList name) arguments, rest)
    | (name, rest) => some (.symbol (String.ofList name), rest)

def readArguments : Nat → List Char → Option (List Formula × List Char)
  | 0, _ => none
  | fuel + 1, text =>
    match readFormula fuel text with
    | some (argument, ',' :: ' ' :: rest) => do
      let (arguments, rest) ← readArguments fuel rest
      some (argument :: arguments, rest)
    | some (argument, rest) => do
      let rest ← takeClosed? rest
      some ([argument], rest)
    | none => do
      let rest ← takeClosed? text
      some ([], rest)

end

/-- With enough fuel, a text is read as a result wherever a certain kind of text comes after it. -/
def ReadsAs {α : Type} (read : Nat → List Char → Option (α × List Char)) (text : List Char)
    (result : α) (after : List Char → Prop) : Prop :=
  ∃ least, ∀ fuel, least ≤ fuel → ∀ rest, after rest →
    read fuel (text ++ rest) = some (result, rest)

theorem ReadsAs.of_succ {α : Type} {read : Nat → List Char → Option (α × List Char)}
    {text : List Char} {result : α} {after : List Char → Prop}
    (reads : ∃ least, ∀ fuel, least ≤ fuel → ∀ rest, after rest →
      read (fuel + 1) (text ++ rest) = some (result, rest)) :
    ReadsAs read text result after := by
  obtain ⟨least, reads⟩ := reads
  refine ⟨least + 1, fun fuel le rest before => ?_⟩
  obtain ⟨fewer, rfl⟩ := Nat.exists_eq_add_of_le' (Nat.le_of_add_left_le le)
  exact reads fewer (by omega) rest before

def AfterOperand (rest : List Char) : Prop :=
  ∀ c ∈ rest.head?, isNameChar c = false ∧ c ≠ '('

def AfterFormula (rest : List Char) : Prop :=
  ∀ c ∈ rest.head?, c = ')' ∨ c = ','

theorem AfterFormula.afterOperand {rest : List Char} (after : AfterFormula rest) :
    AfterOperand rest := by
  intro c head
  rcases after c head with rfl | rfl <;> decide

theorem takeUnary?_chars (o : UnaryOperator) (rest : List Char) :
    takeUnary? ((Lexeme.unary o).chars ++ rest) = some (o, rest) := by
  cases o <;> rfl

theorem takeBinary?_chars (o : BinaryOperator) (rest : List Char) :
    takeBinary? ((Lexeme.binary o).chars ++ rest) = some (o, rest) := by
  have apart : (Lexeme.binary o).Apart rest := trivial
  have read := nextLexeme_chars apart
  simp only [Lexeme.chars, List.cons_append] at read ⊢
  simp only [takeBinary?, read]

theorem takeBinary?_afterFormula {rest : List Char} (after : AfterFormula rest) :
    takeBinary? rest = none := by
  cases rest with
  | nil => rfl
  | cons c rest => rcases after c rfl with rfl | rfl <;> rfl

theorem IsName.exists_head {name : String} (named : IsName name) :
    ∃ c tail, name.toList = c :: tail ∧ isNameChar c = true := by
  obtain ⟨c, tail, first⟩ := List.exists_cons_of_ne_nil named.1
  exact ⟨c, tail, first, named.2.1 c (first ▸ List.mem_cons_self)⟩

theorem takeUnary?_name {name : String} (named : IsName name) {rest : List Char}
    (stop : ∀ c ∈ rest.head?, isNameChar c = false) : takeUnary? (name.toList ++ rest) = none := by
  obtain ⟨c, tail, first, letter⟩ := named.exists_head
  have divided := Text.span_append named.2.1 stop
  rw [first, List.cons_append] at divided ⊢
  unfold takeUnary?
  split
  · rename_i same
    cases same
    cases letter
  · rename_i same
    cases same
    cases letter
  · rename_i later same
    have word : ∀ c ∈ ['n', 'o', 't'], isNameChar c = true := by simp [isNameChar]
    have blank : ∀ c ∈ (' ' :: later).head?, isNameChar c = false := by simp [isNameChar]
    have sign : (['n', 'o', 't'] ++ ' ' :: later).span isNameChar = (['n', 'o', 't'], ' ' :: later) :=
      Text.span_append word blank
    rw [same] at divided
    have letters_eq : c :: tail = ['n', 'o', 't'] := congrArg Prod.fst (divided.symm.trans sign)
    have name_eq : name = "not" := String.toList_inj.1 (first.trans letters_eq)
    exact absurd (name_eq ▸ by decide) named.2.2
  · rfl

theorem readOperand_name {name : String} (named : IsName name) (fuel : Nat) (rest : List Char) :
    readOperand (fuel + 1) (name.toList ++ '(' :: rest)
        = (readArguments fuel rest).map (fun read => (.call name read.1, read.2)) ∧
      (AfterOperand rest → readOperand (fuel + 1) (name.toList ++ rest) = some (.symbol name, rest)) := by
  obtain ⟨c, tail, first, letter⟩ := named.exists_head
  have unbracketed (front back : List Char) (same : c :: front = '(' :: back) : False := by
    cases same
    cases letter
  have whole : String.ofList (c :: tail) = name := by rw [← first, String.ofList_toList]
  constructor
  · have bracket : ∀ c ∈ ('(' :: rest).head?, isNameChar c = false := by simp [isNameChar]
    have divided := Text.span_append named.2.1 bracket
    rw [first, List.cons_append] at divided ⊢
    rw [readOperand, divided]
    · simp [whole, Option.map_eq_bind]
    · exact unbracketed _
  · intro after
    have divided := Text.span_append named.2.1 fun c head => (after c head).1
    rw [first, List.cons_append] at divided ⊢
    rw [readOperand, divided]
    · cases rest with
      | nil => simp [whole]
      | cons d rest =>
        have other : d ≠ '(' := (after d rfl).2
        simp [whole, other]
    · exact unbracketed _

end reader

end Render

namespace Formula

open Render

theorem operandNeedsParentheses_all (function : String) (unary first : Bool) (operand : Formula) :
    operandNeedsParentheses .all function unary first operand
      = (precedence .all operand).isSome := by
  rw [operandNeedsParentheses]
  cases precedence .all operand <;> rfl

theorem wrapOperand_letters (function : String) (unary first : Bool) (operand : Formula) :
    (wrapOperand .all .text function unary first operand (operand.render .all .text)).toList
      = operand.operandLetters := by
  rw [wrapOperand, operandNeedsParentheses_all, operandLetters, letters]
  cases (precedence .all operand).isSome with
  | false => rfl
  | true => simp [parenthesizeIf, parenthesize]

theorem letters_unary (o : UnaryOperator) (operand : Formula) :
    (Formula.unary o.sign o.function operand).letters
      = (Lexeme.unary o).chars ++ operand.operandLetters := by
  simp only [letters, Formula.unary, render, renderAll, layoutOperation, Phrase.layoutUnary_text,
    wrapOperand_letters]

theorem letters_binary (o : BinaryOperator) (left right : Formula) :
    (Formula.binary o.sign o.function left right).letters
      = left.operandLetters ++ (Lexeme.binary o).chars ++ right.operandLetters := by
  simp only [letters, Formula.binary, render, renderAll, layoutOperation, layoutBinary,
    String.toList_append, wrapOperand_letters]
  simp [Lexeme.chars]

theorem letters_call (function : String) (arguments : List Formula) :
    (Formula.call function arguments).letters
      = function.toList ++ '(' :: ([',', ' '].intercalate (arguments.map letters) ++ [')']) := by
  simp [letters, render, layoutCall, renderAll_eq_map, String.toList_intercalate]
  rfl

theorem isSome_precedence_unary (o : UnaryOperator) (operand : Formula) :
    (precedence .all (Formula.unary o.sign o.function operand)).isSome = true := by
  cases o <;> rfl

theorem isSome_precedence_binary (o : BinaryOperator) (left right : Formula) :
    (precedence .all (Formula.binary o.sign o.function left right)).isSome = true := by
  cases o <;> rfl

/-- An operand begins with a name or with a bracket, so no sign is read off it. -/
theorem takeUnary?_operandLetters {formula : Formula} (usual : formula.Usual) {rest : List Char}
    (stop : ∀ c ∈ rest.head?, isNameChar c = false) :
    takeUnary? (formula.operandLetters ++ rest) = none := by
  induction usual with
  | symbol named => exact takeUnary?_name named stop
  | @call function arguments named _ _ =>
    change takeUnary? ((Formula.call function arguments).letters ++ rest) = none
    rw [letters_call, List.append_assoc]
    exact takeUnary?_name named (by simp [isNameChar])
  | parenthesis _ ih => exact ih
  | unary o _ _ =>
    rw [operandLetters, if_pos (isSome_precedence_unary o _)]
    rfl
  | binary o _ _ _ _ =>
    rw [operandLetters, if_pos (isSome_precedence_binary o _ _)]
    rfl

theorem readsAs_bracketed {formula : Formula} (weak : (precedence .all formula).isSome = true)
    (reads : ReadsAs readFormula formula.letters formula.bare AfterFormula) :
    ReadsAs readOperand formula.operandLetters formula.bare AfterOperand := by
  obtain ⟨least, reads⟩ := reads
  refine .of_succ ⟨least, fun fuel le rest _ => ?_⟩
  have closing : AfterFormula (')' :: rest) := by simp [AfterFormula]
  rw [operandLetters, if_pos weak, List.cons_append, List.cons_append, List.append_assoc,
    List.singleton_append, readOperand]
  simp [reads fuel le _ closing, takeClosed?]

theorem readsAs_alone {formula : Formula} (usual : formula.Usual)
    (closed : (precedence .all formula).isSome = false)
    (reads : ReadsAs readOperand formula.operandLetters formula.bare AfterOperand) :
    ReadsAs readFormula formula.letters formula.bare AfterFormula := by
  obtain ⟨least, reads⟩ := reads
  have same : formula.operandLetters = formula.letters := by simp [operandLetters, closed]
  refine .of_succ ⟨least, fun fuel le rest after => ?_⟩
  have unsigned := takeUnary?_operandLetters usual fun c head => (after.afterOperand c head).1
  rw [← same, readFormula, unsigned]
  simp [reads fuel le rest after.afterOperand, takeBinary?_afterFormula after]

theorem readFormula_closed (fuel : Nat) (rest : List Char) :
    readFormula fuel (')' :: rest) = none := by
  rcases fuel with _ | _ | fuel
  · rfl
  · rfl
  · have nothing : readOperand (fuel + 1) (')' :: rest) = none := by
      have none : ∀ c ∈ [], isNameChar c = true := nofun
      have letters : (')' :: rest).span isNameChar = ([], ')' :: rest) :=
        Text.span_append none (by simp [isNameChar])
      rw [readOperand, letters]
      exact fun _ same => nomatch same
    rw [readFormula, nothing]
    rfl

theorem readsAs_arguments {arguments : List Formula}
    (all : ∀ argument ∈ arguments, ReadsAs readFormula argument.letters argument.bare AfterFormula) :
    ReadsAs readArguments ([',', ' '].intercalate (arguments.map letters) ++ [')'])
      (arguments.map bare) fun _ => True := by
  have closing (rest : List Char) : AfterFormula (')' :: rest) := by simp [AfterFormula]
  induction arguments with
  | nil =>
    refine .of_succ ⟨0, fun fuel _ rest _ => ?_⟩
    simp [readArguments, readFormula_closed, takeClosed?]
  | cons first others ih =>
    obtain ⟨here, later⟩ := List.forall_mem_cons.1 all
    obtain ⟨least, reads⟩ := here
    cases others with
    | nil =>
      refine .of_succ ⟨least, fun fuel le rest _ => ?_⟩
      simp [readArguments, reads fuel le _ (closing rest), takeClosed?]
    | cons second others =>
      obtain ⟨enough, readsLater⟩ := ih later
      refine .of_succ ⟨max least enough, fun fuel le rest _ => ?_⟩
      have comma (rest : List Char) : AfterFormula (',' :: rest) := by simp [AfterFormula]
      have tail := readsLater fuel (by omega) rest trivial
      simp only [List.map_cons, List.intercalate_cons_cons, List.append_assoc, List.cons_append,
        List.nil_append] at tail ⊢
      rw [readArguments, reads fuel (by omega) _ (comma _)]
      simp only [tail, Option.bind_eq_bind, Option.bind_some]

theorem readsAs_unary (o : UnaryOperator) {operand : Formula}
    (reads : ReadsAs readOperand operand.operandLetters operand.bare AfterOperand) :
    ReadsAs readFormula (Formula.unary o.sign o.function operand).letters
      (Formula.unary o.sign o.function operand).bare AfterFormula := by
  obtain ⟨least, reads⟩ := reads
  refine .of_succ ⟨least, fun fuel le rest after => ?_⟩
  rw [letters_unary, List.append_assoc, readFormula, takeUnary?_chars]
  simp [reads fuel le rest after.afterOperand, bare, bareAll, Formula.unary]

theorem readsAs_binary (o : BinaryOperator) {left right : Formula} (usual : left.Usual)
    (readsLeft : ReadsAs readOperand left.operandLetters left.bare AfterOperand)
    (readsRight : ReadsAs readOperand right.operandLetters right.bare AfterOperand) :
    ReadsAs readFormula (Formula.binary o.sign o.function left right).letters
      (Formula.binary o.sign o.function left right).bare AfterFormula := by
  obtain ⟨least, readsLeft⟩ := readsLeft
  obtain ⟨enough, readsRight⟩ := readsRight
  refine .of_succ ⟨max least enough, fun fuel le rest after => ?_⟩
  have blank : AfterOperand ((Lexeme.binary o).chars ++ (right.operandLetters ++ rest)) := by
    simp [AfterOperand, Lexeme.chars, isNameChar]
  have unsigned := takeUnary?_operandLetters usual fun c head => (blank c head).1
  rw [letters_binary, List.append_assoc, List.append_assoc, readFormula, unsigned]
  simp [readsLeft fuel (by omega) _ blank, takeBinary?_chars,
    readsRight fuel (by omega) rest after.afterOperand, bare, bareAll, Formula.binary]

/-- The reader gives the bare formula back, from an operand and from a whole text. -/
theorem reads_text {formula : Formula} (usual : formula.Usual) :
    ReadsAs readOperand formula.operandLetters formula.bare AfterOperand ∧
      ReadsAs readFormula formula.letters formula.bare AfterFormula := by
  induction usual with
  | @symbol name named =>
    have reads : ReadsAs readOperand (Formula.symbol name).operandLetters (.symbol name) AfterOperand :=
      .of_succ ⟨0, fun fuel _ rest after => (readOperand_name named fuel rest).2 after⟩
    exact ⟨reads, readsAs_alone (.symbol named) rfl reads⟩
  | @call function arguments named all ih =>
    obtain ⟨least, reads⟩ := readsAs_arguments fun argument mem => (ih argument mem).2
    have operand : ReadsAs readOperand (Formula.call function arguments).operandLetters
        (Formula.call function arguments).bare AfterOperand := by
      refine .of_succ ⟨least, fun fuel le rest _ => ?_⟩
      change readOperand _ ((Formula.call function arguments).letters ++ rest) = _
      rw [letters_call, List.append_assoc, List.cons_append, (readOperand_name named fuel _).1,
        reads fuel le rest trivial, bare, bareAll_eq_map]
      rfl
    exact ⟨operand, readsAs_alone (.call named all) rfl operand⟩
  | parenthesis _ ih => exact ih
  | unary o _ ih =>
    have whole := readsAs_unary o ih.1
    exact ⟨readsAs_bracketed (isSome_precedence_unary o _) whole, whole⟩
  | binary o usualLeft _ ihLeft ihRight =>
    have whole := readsAs_binary o usualLeft ihLeft.1 ihRight.1
    exact ⟨readsAs_bracketed (isSome_precedence_binary o _ _) whole, whole⟩

/-- Formulas with the same text under `all` are the same without their parentheses. -/
theorem bare_eq_of_bracketed_text {f g : Formula} (usualF : f.Usual) (usualG : g.Usual)
    (same : f.render .all .text = g.render .all .text) : f.bare = g.bare := by
  obtain ⟨least, readsF⟩ := (reads_text usualF).2
  obtain ⟨enough, readsG⟩ := (reads_text usualG).2
  have ending : AfterFormula [] := by simp [AfterFormula]
  have letters_eq : f.letters = g.letters := congrArg String.toList same
  have readF := readsF (max least enough) (by omega) [] ending
  have readG := readsG (max least enough) (by omega) [] ending
  rw [letters_eq, readG, Option.some_inj, Prod.mk.injEq] at readF
  exact readF.1.symm

/-- A difference of a difference, in brackets of its own or not. -/
theorem bare_eq_of_bracketed_text_difference :
    let f : Formula := .binary "-" "subtract"
      (.parenthesis (.binary "-" "subtract" (.symbol "x_1")
        (.call "f" [.parenthesis (.symbol "a"), .unary "-" "unaryMinus" (.symbol "b")])))
      (.symbol "c")
    let g : Formula := .binary "-" "subtract"
      (.binary "-" "subtract" (.symbol "x_1")
        (.call "f" [.symbol "a", .parenthesis (.unary "-" "unaryMinus" (.symbol "b"))]))
      (.parenthesis (.symbol "c"))
    f.render .all .text = "(x_1 - f(a, -b)) - c" ∧ g.render .all .text = "(x_1 - f(a, -b)) - c" ∧
      f.bare = g.bare := by
  intro f g
  have a : Usual (.symbol "a") := .symbol (by decide)
  have b : Usual (.unary "-" "unaryMinus" (.symbol "b")) := .unary .minus (.symbol (by decide))
  have c : Usual (.symbol "c") := .symbol (by decide)
  have usualF : f.Usual :=
    .binary .subtract (.parenthesis (.binary .subtract (.symbol (by decide))
      (.call (by decide) (by simpa using ⟨a.parenthesis, b⟩)))) c
  have usualG : g.Usual :=
    .binary .subtract (.binary .subtract (.symbol (by decide))
      (.call (by decide) (by simpa using ⟨a, b.parenthesis⟩))) c.parenthesis
  have textF : f.render .all .text = "(x_1 - f(a, -b)) - c" := by decide
  have textG : g.render .all .text = "(x_1 - f(a, -b)) - c" := by decide
  exact ⟨textF, textG, bare_eq_of_bracketed_text usualF usualG (textF.trans textG.symm)⟩

end Formula

end FormulaTree

import FormulaTree.Formula.Children
import FormulaTree.Proofs.Render.Layouts

set_option autoImplicit false

namespace FormulaTree

namespace Text

def entities : List String := ["&amp;", "&lt;", "&gt;", "&quot;", "&#39;"]

def markupCharacters : List Char := ['&', '<', '>', '"', '\'']

/-- Reads the five entities, from left to right; any other character stands for itself. -/
def readEntities : List Char → List Char
  | '&' :: 'a' :: 'm' :: 'p' :: ';' :: rest => '&' :: readEntities rest
  | '&' :: 'l' :: 't' :: ';' :: rest => '<' :: readEntities rest
  | '&' :: 'g' :: 't' :: ';' :: rest => '>' :: readEntities rest
  | '&' :: 'q' :: 'u' :: 'o' :: 't' :: ';' :: rest => '"' :: readEntities rest
  | '&' :: '#' :: '3' :: '9' :: ';' :: rest => '\'' :: readEntities rest
  | c :: rest => c :: readEntities rest
  | [] => []

def unescapeMarkup (text : String) : String :=
  String.ofList (readEntities text.toList)

theorem entity_cases (c : Char) :
    String.ofList (entity c) ∈ entities ∨ (entity c = [c] ∧ c ∉ markupCharacters) := by
  by_cases special : c ∈ markupCharacters
  · left
    simp only [markupCharacters, List.mem_cons, List.not_mem_nil, or_false] at special
    rcases special with rfl | rfl | rfl | rfl | rfl <;> decide
  · right
    refine ⟨?_, special⟩
    simp only [markupCharacters, List.mem_cons, List.not_mem_nil, or_false, not_or] at special
    simp [entity, special]

theorem readEntities_entity (c : Char) (rest : List Char) :
    readEntities (entity c ++ rest) = c :: readEntities rest := by
  by_cases special : c ∈ markupCharacters
  · simp only [markupCharacters, List.mem_cons, List.not_mem_nil, or_false] at special
    rcases special with rfl | rfl | rfl | rfl | rfl <;> rfl
  · simp only [markupCharacters, List.mem_cons, List.not_mem_nil, or_false, not_or] at special
    have itself : entity c = [c] := by simp [entity, special]
    rw [itself, List.singleton_append, readEntities]
    all_goals exact fun _ same => absurd same special.1

theorem unescapeMarkup_escapeMarkup (text : String) :
    unescapeMarkup (escapeMarkup text) = text := by
  rw [unescapeMarkup, escapeMarkup, String.toList_ofList, ← String.toList_inj, String.toList_ofList]
  induction text.toList with
  | nil => rfl
  | cons c rest ih => rw [List.flatMap_cons, readEntities_entity, ih]

end Text

namespace Render

def spanClasses : List String := [
  "math-symbol", "math-number", "math-string", "math-boolean", "math-null-symbol",
  "math-function", "math-separator", "math-parenthesis math-round-parenthesis",
  "math-operator math-unary-operator math-lefthand-unary-operator",
  "math-operator math-binary-operator math-explicit-binary-operator",
  "math-operator math-assignment-operator math-variable-assignment-operator math-binary-operator"]

/-- Properly nested tags, and between them text whose characters of markup are in entities. -/
inductive Markup : String → Prop
  | empty : Markup ""
  | character {c : Char} {rest : String} (free : c ∉ Text.markupCharacters) (tail : Markup rest) :
      Markup (String.ofList [c] ++ rest)
  | entity {name rest : String} (known : name ∈ Text.entities) (tail : Markup rest) :
      Markup (name ++ rest)
  | lineBreak {rest : String} (tail : Markup rest) : Markup ("<br />" ++ rest)
  | tags {classes content rest : String} (known : classes ∈ spanClasses) (inner : Markup content)
      (tail : Markup rest) :
      Markup ("<span class=\"" ++ classes ++ "\">" ++ content ++ "</span>" ++ rest)

namespace Markup

theorem append {first second : String} (front : Markup first) (back : Markup second) :
    Markup (first ++ second) := by
  induction front with
  | empty => rwa [String.empty_append]
  | character free _ ih =>
    rw [String.append_assoc]
    exact .character free ih
  | entity known _ ih =>
    rw [String.append_assoc]
    exact .entity known ih
  | lineBreak _ ih =>
    rw [String.append_assoc]
    exact .lineBreak ih
  | tags known inner _ _ ih =>
    rw [String.append_assoc]
    exact .tags known inner ih

theorem span {classes content : String} (inner : Markup content) (known : classes ∈ spanClasses) :
    Markup (Render.span classes content) := by
  have alone := Markup.tags known inner .empty
  rwa [String.append_empty] at alone

theorem escape (text : String) : Markup (Text.escapeMarkup text) := by
  rw [Text.escapeMarkup]
  induction text.toList with
  | nil => exact .empty
  | cons c rest ih =>
    rw [List.flatMap_cons, String.ofList_append]
    rcases Text.entity_cases c with known | ⟨itself, free⟩
    · exact .entity known ih
    · rw [itself]
      exact .character free ih

theorem intercalate {separator : String} {texts : List String} (between : Markup separator)
    (all : ∀ text ∈ texts, Markup text) : Markup (separator.intercalate texts) :=
  intercalate_elim .empty .append between all

end Markup

theorem markup_sign {c : Char} (free : c ∉ Text.markupCharacters) : Markup (String.ofList [c]) := by
  have alone := Markup.character free .empty
  rwa [String.append_empty] at alone

theorem markup_parenthesizeIf (condition : Bool) {inner : String} (markup : Markup inner) :
    Markup (parenthesizeIf condition .html inner) := by
  have round : roundParenthesis ∈ spanClasses := by decide
  have opened : Markup "(" := markup_sign (by decide)
  have closed : Markup ")" := markup_sign (by decide)
  cases condition with
  | false => exact markup
  | true => exact ((opened.span round).append markup).append (closed.span round)

theorem constantClass_mem (value : Value) : constantClass value ∈ spanClasses := by
  cases value <;> simp [constantClass, spanClasses]

theorem markup_layoutAssignment {target value : String} (left : Markup target)
    (right : Markup value) : Markup (layoutAssignment .html target value) := by
  have sign : Markup "=" := markup_sign (by decide)
  exact (left.append (sign.span (by decide))).append right

theorem markup_layoutStatement (visible : Bool) {text : String} (markup : Markup text) :
    Markup (layoutStatement visible text) := by
  have sign : Markup ";" := markup_sign (by decide)
  cases visible with
  | false => exact markup.append sign
  | true => exact markup

theorem markup_layoutUnary (op function : String) {operand : String} (markup : Markup operand) :
    Markup (layoutUnary .html op function operand) := by
  have sign := Markup.escape op
  exact (sign.span (by decide)).append markup

theorem markup_layoutBinary (op function left right : String) {left' right' : String}
    (first : Markup left') (second : Markup right') :
    Markup (layoutBinary .html op function left left' right right') := by
  have sign := Markup.escape op
  exact (first.append (sign.span (by decide))).append second

theorem markup_layoutCall (function : String) {arguments : List String}
    (all : ∀ argument ∈ arguments, Markup argument) :
    Markup (layoutCall .html function arguments) := by
  have comma : Markup "," := markup_sign (by decide)
  have separator : Markup (span "math-separator" ",") := comma.span (by decide)
  have name : Markup (span "math-function" (Text.escapeMarkup function)) :=
    (Markup.escape function).span (by decide)
  have whole := name.append (markup_parenthesizeIf true (separator.intercalate all))
  simpa only [layoutCall, parenthesizeIf, parenthesize, String.append_assoc, if_true] using whole

end Render

namespace Formula

open Render

theorem markup_render (mode : Parentheses) (formula : Formula) :
    Markup (formula.render mode .html) := by
  induction formula with
  | constant value => exact (Markup.escape value.write).span (constantClass_mem value)
  | symbol name => exact (Markup.escape name).span (by decide)
  | assignment target value target_markup value_markup =>
    exact markup_layoutAssignment target_markup (markup_parenthesizeIf _ value_markup)
  | block statements parts =>
    have lineBreak : Markup "<br />" := .lineBreak .empty
    have separator : Markup (statementSeparator .html) := lineBreak.span (by decide)
    rw [render, renderStatements_eq_map]
    refine separator.intercalate fun text mem => ?_
    obtain ⟨entry, entry_mem, rfl⟩ := List.mem_map.1 mem
    exact markup_layoutStatement entry.2 (parts entry entry_mem)
  | operation op function operands parts =>
    rw [render, renderAll_eq_map]
    have wrapped (condition : Bool) {operand : Formula} (mem : operand ∈ operands) :=
      markup_parenthesizeIf condition (parts operand mem)
    exact layoutOperation_elim mode .html op function .empty
      (fun operand mem => markup_layoutUnary op function (wrapped _ mem))
      (fun left memLeft right memRight =>
        markup_layoutBinary op function _ _ (wrapped _ memLeft) (wrapped _ memRight))
  | parenthesis content content_markup =>
    cases mode with
    | keep => exact markup_parenthesizeIf true content_markup
    | all => exact content_markup
  | call function arguments parts =>
    rw [render, renderAll_eq_map]
    exact markup_layoutCall function (List.forall_mem_map.2 parts)
  | conditional conditions blocks _ _ => exact .empty

/-- The HTML of a formula is markup of the fixed tags in both modes, whatever its names and constants
hold, and what `escapeMarkup` does to a text is undone by reading its entities. -/
theorem html_nested_and_escaped :
    (∀ (formula : Formula) (mode : Parentheses), Markup (formula.render mode .html)) ∧
      ∀ text, Text.unescapeMarkup (Text.escapeMarkup text) = text :=
  ⟨fun formula mode => markup_render mode formula, Text.unescapeMarkup_escapeMarkup⟩

end Formula

end FormulaTree

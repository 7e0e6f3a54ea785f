import FormulaTree.Proofs.Decimal.Literal
import FormulaTree.Proofs.Double.Layout
import FormulaTree.Proofs.Formula.Nodes
import FormulaTree.Proofs.Render.Neutral

set_option autoImplicit false

namespace FormulaTree

namespace Text

theorem not_mem_texCharacters_of_isDigit {c : Char} (digit : c.isDigit = true) :
    c ∉ texCharacters := by
  simp [texCharacters, ne_of_isDigit digit]

theorem not_mem_texCharacters_of_hexDigit {code : Nat} {c : Char} (h : c ∈ hexDigits code) :
    c ∉ texCharacters := by
  induction code using Nat.strongRecOn with
  | ind code ih =>
    rw [hexDigits, Nat.toDigits_eq_if (by decide)] at h
    have digit (n : Nat) : n.digitChar ∉ texCharacters := by
      simp [texCharacters, Nat.digitChar_ne]
    split at h
    · rw [List.mem_singleton.1 h]
      exact digit code
    · rcases List.mem_append.1 h with mem | mem
      · exact ih (code / 16) (by omega) mem
      · rw [List.mem_singleton.1 mem]
        exact digit (code % 16)

end Text

namespace Render

theorem neutral_quoteChar {c : Char} (free : c ∉ '\r' :: Text.texCharacters) :
    Neutral (String.ofList (Text.quoteChar c)) := by
  obtain ⟨no_return, free⟩ := not_or.1 (mt List.mem_cons.2 free)
  have control : c ≠ '\\' := fun same => free (by simp [same, Text.texCharacters])
  -- The escapes of a return and of a backslash could begin a delimiter. Neither can occur here.
  unfold Text.quoteChar
  split_ifs
  · exact neutral_silent fun _ => rfl
  · exact neutral_silent fun _ => rfl
  · exact neutral_silent fun _ => rfl
  · exact neutral_silent fun _ => rfl
  · have digits : Neutral (String.ofList (Text.hexDigits c.toNat)) :=
      neutral_free fun _ mem =>
        Text.not_mem_texCharacters_of_hexDigit (String.toList_ofList ▸ mem)
    have word : Neutral "\\u" := neutral_silent fun _ => rfl
    have pieces : String.ofList (['\\', 'u', '\x7b'] ++ Text.hexDigits c.toNat ++ ['\x7d'])
        = "\\u" ++ group (String.ofList (Text.hexDigits c.toNat)) := by
      simp [← String.toList_inj, group]
    exact pieces ▸ word.append digits.group
  · refine neutral_free fun other mem => ?_
    rw [String.toList_ofList, List.mem_singleton] at mem
    exact mem ▸ free

theorem neutral_between_quotes {text : String} (neutral : Neutral text) :
    Neutral ("\"" ++ text ++ "\"") := by
  have quote : Neutral "\"" := neutral_silent fun _ => rfl
  exact (quote.append neutral).append quote

theorem neutral_quoted {text : String} (free : Text.Free ('\r' :: Text.texCharacters) text) :
    Neutral (Text.quoted text) := by
  have inner : Neutral (String.ofList (text.toList.flatMap Text.quoteChar)) := by
    unfold Text.Free at free
    generalize text.toList = chars at free ⊢
    induction chars with
    | nil => exact .empty
    | cons c rest ih =>
      obtain ⟨here, later⟩ := List.forall_mem_cons.1 free
      rw [List.flatMap_cons, String.ofList_append]
      exact (neutral_quoteChar here).append (ih later)
  have whole := neutral_between_quotes inner
  rwa [Text.quoted, List.cons_append, ← List.singleton_append, String.ofList_append,
    String.ofList_append, ← String.append_assoc]

end Render

namespace Value

open Render

mutual

/-- The texts in a value, at any depth: strings, keys and names of units. -/
def texts : Value → List String
  | .string text => [text]
  | .unit _ name => [name]
  | .matrix items => itemTexts items
  | .object entries => entryTexts entries
  | .resultSet items => itemTexts items
  | _ => []

def itemTexts : List Value → List String
  | [] => []
  | item :: rest => texts item ++ itemTexts rest

def entryTexts : List (String × Value) → List String
  | [] => []
  | (key, value) :: rest => key :: texts value ++ entryTexts rest

end

theorem neutral_numbers (x : Float) : Neutral (numbers.write x) := by
  refine neutral_free fun c mem => ?_
  rw [Double.Layout.write, String.toList_ofList] at mem
  rcases List.mem_append.1 mem with sign | mem
  · cases negative : Double.isNegative x <;> simp_all [Text.texCharacters]
  · rcases Double.mem_magnitude mem with rfl | digit
    · decide
    · exact Text.not_mem_texCharacters_of_isDigit digit

theorem neutral_writePart (x : Float) : Neutral (writePart x) := by
  unfold writePart
  split_ifs
  · exact neutral_silent fun _ => rfl
  · exact neutral_silent fun _ => rfl
  · exact neutral_silent fun _ => rfl
  · exact neutral_numbers x

theorem neutral_writeNumber (x : Float) : Neutral (writeNumber x) := by
  unfold writeNumber
  split_ifs
  · exact neutral_silent fun _ => rfl
  · exact neutral_silent fun _ => rfl
  · exact neutral_silent fun _ => rfl
  · exact neutral_numbers x

theorem neutral_writeDecimal (d : Decimal) : Neutral d.write := by
  obtain ⟨l, before, after, blank, same⟩ := Decimal.exists_literal (Decimal.ofLiteral?_write d)
  refine neutral_free fun c mem => ?_
  rw [same, List.append_assoc, List.mem_append, List.mem_append] at mem
  have around (padding : c ∈ before ++ after) : c ∉ Text.texCharacters := by
    intro special
    have none : Text.texCharacters.all (fun c => !Text.isBlank c) = true := by decide
    have visible := List.all_eq_true.1 none c special
    simp [blank c padding] at visible
  rcases mem with mem | mem | mem
  · exact around (List.mem_append_left _ mem)
  · rcases Decimal.Literal.mem_chars mem with sign | digit
    · simp only [List.mem_cons, List.not_mem_nil, or_false] at sign
      rcases sign with rfl | rfl | rfl | rfl | rfl <;> decide
    · exact Text.not_mem_texCharacters_of_isDigit digit
  · exact around (List.mem_append_right _ mem)

theorem neutral_writeComplex (re im : Float) : Neutral (writeComplex re im) := by
  have unit : Neutral "i" := neutral_silent fun _ => rfl
  have minus : Neutral " - " := neutral_silent fun _ => rfl
  have plus : Neutral " + " := neutral_silent fun _ => rfl
  unfold writeComplex
  split_ifs
  · exact neutral_writePart re
  · exact (neutral_writePart im).append unit
  · exact (((neutral_writePart re).append minus).append (neutral_writePart (-im))).append unit
  · exact (((neutral_writePart re).append plus).append (neutral_writePart im)).append unit

theorem neutral_writeUnit (magnitude : Option Float) {name : String} (neutral : Neutral name) :
    Neutral (writeUnit magnitude name) := by
  have blank : Neutral " " := neutral_silent fun _ => rfl
  cases magnitude with
  | none => exact neutral
  | some x => exact ((neutral_writePart x).append blank).append neutral

theorem neutral_comma : Neutral ", " :=
  neutral_silent fun _ => rfl

theorem neutral_list {items : List String} (all : ∀ item ∈ items, Neutral item) :
    Neutral ("[" ++ ", ".intercalate items ++ "]") := by
  have opened : Neutral "[" := neutral_silent fun _ => rfl
  have closed : Neutral "]" := neutral_silent fun _ => rfl
  exact (opened.append (neutral_comma.intercalate all)).append closed

mutual

theorem neutral_write : ∀ value : Value,
    (∀ text ∈ value.texts, Text.Free ('\r' :: Text.texCharacters) text) → Neutral value.write
  | .null, _ => neutral_silent fun _ => rfl
  | .bool true, _ => neutral_silent fun _ => rfl
  | .bool false, _ => neutral_silent fun _ => rfl
  | .number x, _ => neutral_writeNumber x
  | .string text, free => neutral_quoted (free text List.mem_cons_self)
  | .decimal d, _ => neutral_writeDecimal d
  | .complex re im, _ => neutral_writeComplex re im
  | .unit magnitude name, free =>
    neutral_writeUnit magnitude (neutral_free (free name List.mem_cons_self).of_cons)
  | .matrix items, free => neutral_list (neutral_writeItems items free)
  | .object entries, free => (neutral_comma.intercalate (neutral_writeEntries entries free)).group
  | .resultSet items, free => neutral_list (neutral_writeItems items free)

theorem neutral_writeItems : ∀ items : List Value,
    (∀ text ∈ itemTexts items, Text.Free ('\r' :: Text.texCharacters) text) →
    ∀ written ∈ writeItems items, Neutral written
  | [], _ => nofun
  | item :: rest, free => by
    rw [itemTexts, List.forall_mem_append] at free
    exact List.forall_mem_cons.2 ⟨neutral_write item free.1, neutral_writeItems rest free.2⟩

theorem neutral_writeEntries : ∀ entries : List (String × Value),
    (∀ text ∈ entryTexts entries, Text.Free ('\r' :: Text.texCharacters) text) →
    ∀ written ∈ writeEntries entries, Neutral written
  | [], _ => nofun
  | (key, value) :: rest, free => by
    rw [entryTexts, List.cons_append, List.forall_mem_cons, List.forall_mem_append] at free
    have colon : Neutral ": " := neutral_silent fun _ => rfl
    have entry := ((neutral_quoted free.1).append colon).append (neutral_write value free.2.1)
    exact List.forall_mem_cons.2 ⟨entry, neutral_writeEntries rest free.2.2⟩

end

end Value

namespace Render

theorem neutral_roman {content : String} (neutral : Neutral content) :
    Neutral ("\\mathrm" ++ group content) := by
  have roman : Neutral "\\mathrm" := neutral_silent fun _ => rfl
  exact roman.append neutral.group

theorem neutral_texConstant {value : Value}
    (free : ∀ text ∈ value.texts, Text.Free ('\r' :: Text.texCharacters) text) :
    Neutral (texConstant value) := by
  have written := Value.neutral_write value free
  cases value with
  | number x =>
    rw [texConstant]
    split_ifs
    · exact neutral_silent fun _ => rfl
    · exact neutral_silent fun _ => rfl
    · exact written
  | string text =>
    have typewriter : Neutral "\\mathtt" := neutral_silent fun _ => rfl
    have inner : Neutral text := neutral_free (free text List.mem_cons_self).of_cons
    exact typewriter.append (neutral_between_quotes inner).group
  | bool b => exact neutral_roman written
  | null => exact neutral_roman written
  | _ => exact written

theorem neutral_texSymbol {name : String} (neutral : Neutral name) : Neutral (texSymbol name) := by
  unfold texSymbol
  split_ifs
  · exact neutral_silent fun _ => rfl
  · exact neutral
  · exact neutral_roman neutral

/-- Every control word ends in a space, so that nothing can be read into it. -/
theorem neutral_texOperator {op : String} (neutral : Neutral op) (function : String) :
    Neutral (texOperator op function) := by
  unfold texOperator
  split_ifs
  all_goals first | exact neutral | exact neutral_silent fun _ => rfl

theorem neutral_layoutUnary {op operand : String} (sign : Neutral op) (function : String)
    (neutral : Neutral operand) : Neutral (layoutUnary .tex op function operand) :=
  (neutral_texOperator sign function).append neutral

theorem neutral_layoutBinary {op left left' right right' : String} (sign : Neutral op)
    (function : String) (first : Neutral left) (first' : Neutral left') (second : Neutral right)
    (second' : Neutral right') :
    Neutral (layoutBinary .tex op function left left' right right') := by
  have fraction : Neutral "\\frac" := neutral_silent fun _ => rfl
  have raised : Neutral "^" := neutral_silent fun _ => rfl
  unfold layoutBinary
  split_ifs
  · exact (fraction.append first.group).append second.group
  · exact (first'.group.append raised).append second.group
  · exact (first'.append (neutral_texOperator sign function)).append second'

theorem neutral_layoutCall {function : String} {arguments : List String} (name : Neutral function)
    (all : ∀ argument ∈ arguments, Neutral argument) :
    Neutral (layoutCall .tex function arguments) := by
  have comma : Neutral "," := neutral_silent fun _ => rfl
  have whole := (neutral_roman name).append ((comma.intercalate all).enclose .round)
  simpa only [layoutCall, Delimiter.opening, Delimiter.closing, String.append_assoc] using whole

theorem neutral_layoutAssignment {target value : String} (left : Neutral target)
    (right : Neutral value) : Neutral (layoutAssignment .tex target value) := by
  have sign : Neutral ":=" := neutral_silent fun _ => rfl
  exact (left.append sign).append right

theorem neutral_layoutStatement (visible : Bool) {text : String} (neutral : Neutral text) :
    Neutral (layoutStatement visible text) := by
  have sign : Neutral ";" := neutral_silent fun _ => rfl
  cases visible with
  | false => exact neutral.append sign
  | true => exact neutral

end Render

namespace Formula

open Render

def names : Formula → List String
  | .symbol name => [name]
  | .operation op _ _ => [op]
  | .call function _ => [function]
  | _ => []

def constantTexts : Formula → List String
  | .constant value => value.texts
  | _ => []

/-- What a node adds to the TeX of its parts, besides the fixed pieces of its layout. -/
def insertions : Formula → List String
  | .constant value => [texConstant value]
  | formula => formula.names

theorem neutral_render {formula : Formula}
    (own : ∀ node ∈ formula.nodes, ∀ text ∈ node.insertions, Neutral text) (mode : Parentheses) :
    Neutral (formula.render mode .tex) := by
  induction formula with
  | constant value => exact own _ (mem_nodes_self _) _ List.mem_cons_self
  | symbol name => exact neutral_texSymbol (own _ (mem_nodes_self _) name List.mem_cons_self)
  | assignment target value target_neutral value_neutral =>
    rw [nodes_assignment, List.forall_mem_cons, List.forall_mem_append] at own
    obtain ⟨-, left, right⟩ := own
    exact neutral_layoutAssignment (target_neutral left) ((value_neutral right).parenthesizeIf _)
  | block statements parts =>
    rw [nodes_block, List.forall_mem_cons, List.forall_mem_flatMap] at own
    have separator : Neutral (statementSeparator .tex) := neutral_silent fun _ => rfl
    rw [render, renderStatements_eq_map]
    refine separator.intercalate (List.forall_mem_map.2 fun entry mem => ?_)
    exact neutral_layoutStatement entry.2 (parts entry mem (own.2 entry mem))
  | operation op function operands parts =>
    rw [nodes_operation, List.forall_mem_cons, List.forall_mem_flatMap] at own
    have sign : Neutral op := own.1 op List.mem_cons_self
    have neutral {operand : Formula} (mem : operand ∈ operands) :=
      parts operand mem (own.2 operand mem)
    have wrapped (condition : Bool) {operand : Formula} (mem : operand ∈ operands) :=
      (neutral mem).parenthesizeIf condition
    rw [render, renderAll_eq_map]
    exact layoutOperation_elim mode .tex op function .empty
      (fun operand mem => neutral_layoutUnary sign function (wrapped _ mem))
      (fun left memLeft right memRight => neutral_layoutBinary sign function (neutral memLeft)
        (wrapped _ memLeft) (neutral memRight) (wrapped _ memRight))
  | parenthesis content content_neutral =>
    rw [nodes_parenthesis, List.forall_mem_cons] at own
    have inner := content_neutral own.2
    cases mode with
    | keep => exact inner.enclose .round
    | all => exact inner
  | call function arguments parts =>
    rw [nodes_call, List.forall_mem_cons, List.forall_mem_flatMap] at own
    have name : Neutral function := own.1 function List.mem_cons_self
    rw [render, renderAll_eq_map]
    exact neutral_layoutCall name
      (List.forall_mem_map.2 fun argument mem => parts argument mem (own.2 argument mem))
  | conditional conditions blocks _ _ => exact .empty

def delimiters (formula : Formula) (mode : Parentheses) : List Mark :=
  marks (formula.render mode .tex).toList

/-- Braces and round delimiters are nested, together and each on their own, if no name has a
character of TeX and no text in a constant has one or a carriage return. Inside a container, a
carriage return is written as a control word that the text after it could complete. -/
theorem nested_tex {formula : Formula}
    (named : ∀ node ∈ formula.nodes, ∀ name ∈ node.names, Text.Free Text.texCharacters name)
    (constants : ∀ node ∈ formula.nodes, ∀ text ∈ node.constantTexts,
      Text.Free ('\r' :: Text.texCharacters) text) (mode : Parentheses) :
    Nested (formula.delimiters mode) ∧
      ∀ kind, Nested ((formula.delimiters mode).filter fun mark => mark.delimiter = kind) := by
  have own : ∀ node ∈ formula.nodes, ∀ text ∈ node.insertions, Neutral text := by
    intro node below text mem
    cases node with
    | constant value =>
      rw [List.mem_singleton.1 mem]
      exact neutral_texConstant (constants _ below)
    | _ => exact neutral_free (named _ below text mem)
  have nested := (neutral_render own mode).nested
  exact ⟨nested, nested.filter⟩

/-- A fraction of a call and a container, with a power, a string and a key. -/
theorem nested_tex_fraction :
    let formula : Formula := .binary "/" "divide"
      (.call "f" [.binary "^" "pow" (.parenthesis (.symbol "xy")) (.constant (.string "a(\t"))])
      (.constant (.object [("k", .matrix [.string "b\n", .bool true])]))
    formula.render .keep .tex
        = "\\frac"
          ++ group ("\\mathrm" ++ group "f" ++ "\\left("
            ++ group ("\\left(" ++ "\\mathrm" ++ group "xy" ++ "\\right)")
            ++ "^" ++ group ("\\mathtt" ++ group "\"a(\t\"") ++ "\\right)")
          ++ group (group "\"k\": [\"b\\n\", true]") ∧
      ∀ mode, Nested (formula.delimiters mode) ∧
        ∀ kind, Nested ((formula.delimiters mode).filter fun mark => mark.delimiter = kind) := by
  intro formula
  have free : ∀ node ∈ formula.nodes, (∀ name ∈ node.names, Text.Free Text.texCharacters name) ∧
      ∀ text ∈ node.constantTexts, Text.Free ('\r' :: Text.texCharacters) text := by
    simp only [formula, binary, nodes_operation, nodes_call, nodes_parenthesis, nodes_symbol,
      nodes_constant, List.flatMap_cons, List.flatMap_nil]
    decide
  exact ⟨by decide, nested_tex (fun node mem => (free node mem).1) fun node mem => (free node mem).2⟩

/-- A closing brace in a string closes the group that the string is set in. -/
theorem unclosed_string :
    let formula : Formula := .constant (.string "\x7d")
    formula.WellFormed ∧
      (∀ node ∈ formula.nodes, ∀ name ∈ node.names, Text.Free Text.texCharacters name) ∧
      ∀ mode, formula.render mode .tex = "\\mathtt\x7b\"\x7d\"\x7d" ∧
        ¬ Nested ((formula.delimiters mode).filter fun mark => mark.delimiter = .brace) := by
  intro formula
  refine ⟨.intro formula trivial nofun, ?_, fun mode => ⟨?_, fun nested => ?_⟩⟩
  · simp [formula, names]
  · cases mode <;> decide
  · have counts := nested.count_eq .brace
    revert counts
    cases mode <;> decide

end Formula

end FormulaTree

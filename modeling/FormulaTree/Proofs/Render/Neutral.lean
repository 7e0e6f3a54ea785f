import FormulaTree.Proofs.Render.Layouts

/-!
# Groups and delimiters of TeX

Braces and the delimiters `\left(` and `\right)` are the marks of a TeX text. A text is neutral when
its marks are properly nested and none of them reaches into what follows (`Neutral`). Joined texts
are neutral if their pieces are, and so is a neutral text between two delimiters of one kind.
-/

set_option autoImplicit false

namespace FormulaTree

namespace Text

/-- The characters that groups and control words of TeX begin or end with. -/
def texCharacters : List Char := ['\x7b', '\x7d', '\\']

def Free (characters : List Char) (text : String) : Prop :=
  ∀ c ∈ text.toList, c ∉ characters

instance (characters : List Char) (text : String) : Decidable (Free characters text) :=
  List.decidableBAll (fun c => c ∉ characters) text.toList

theorem Free.of_cons {c : Char} {characters : List Char} {text : String}
    (free : Free (c :: characters) text) : Free characters text :=
  fun other mem special => free other mem (List.mem_cons_of_mem c special)

end Text

namespace Render

inductive Delimiter where
  | brace
  | round
deriving DecidableEq

def Delimiter.opening : Delimiter → String
  | .brace => "\x7b"
  | .round => "\\left("

def Delimiter.closing : Delimiter → String
  | .brace => "\x7d"
  | .round => "\\right)"

structure Mark where
  delimiter : Delimiter
  opens : Bool
deriving DecidableEq

def marks : List Char → List Mark
  | '\x7b' :: rest => ⟨.brace, true⟩ :: marks rest
  | '\x7d' :: rest => ⟨.brace, false⟩ :: marks rest
  | '\\' :: 'l' :: 'e' :: 'f' :: 't' :: '(' :: rest => ⟨.round, true⟩ :: marks rest
  | '\\' :: 'r' :: 'i' :: 'g' :: 'h' :: 't' :: ')' :: rest => ⟨.round, false⟩ :: marks rest
  | _ :: rest => marks rest
  | [] => []

/-- Every delimiter that is opened is closed by its own kind, with nested delimiters between. -/
inductive Nested : List Mark → Prop
  | empty : Nested []
  | pair (delimiter : Delimiter) {inner rest : List Mark} (content : Nested inner)
      (tail : Nested rest) : Nested (⟨delimiter, true⟩ :: inner ++ ⟨delimiter, false⟩ :: rest)

namespace Nested

theorem append {first second : List Mark} (front : Nested first) (back : Nested second) :
    Nested (first ++ second) := by
  induction front with
  | empty => exact back
  | pair delimiter content _ _ ih =>
    rw [List.append_assoc, List.cons_append]
    exact .pair delimiter content ih

theorem filter {list : List Mark} (nested : Nested list) (kept : Delimiter) :
    Nested (list.filter fun mark => mark.delimiter = kept) := by
  induction nested with
  | empty => exact .empty
  | pair delimiter _ _ inner tail =>
    rw [List.filter_append, List.filter_cons, List.filter_cons]
    by_cases same : delimiter = kept
    · simpa [same] using Nested.pair kept inner tail
    · simpa [same] using inner.append tail

theorem count_eq {list : List Mark} (nested : Nested list) (delimiter : Delimiter) :
    list.count ⟨delimiter, true⟩ = list.count ⟨delimiter, false⟩ := by
  induction nested with
  | empty => rfl
  | pair other _ _ inner tail =>
    simp only [List.count_append, List.count_cons, inner, tail]
    by_cases same : other = delimiter
    · simp [same]
      omega
    · simp [same]

end Nested

/-- Wherever it stands, the text has marks of its own only, and these are nested. -/
structure Neutral (text : String) : Prop where
  nested : Nested (marks text.toList)
  apart : ∀ rest, marks (text.toList ++ rest) = marks text.toList ++ marks rest

theorem marks_cons {c : Char} (free : c ∉ Text.texCharacters) (rest : List Char) :
    marks (c :: rest) = marks rest := by
  simp only [Text.texCharacters, List.mem_cons, List.not_mem_nil, or_false, not_or] at free
  obtain ⟨opens, closes, control⟩ := free
  rw [marks]
  · exact opens
  · exact closes
  · exact fun _ same => absurd same control
  · exact fun _ same => absurd same control

theorem neutral_silent {text : String} (silent : ∀ rest, marks (text.toList ++ rest) = marks rest) :
    Neutral text := by
  have none : marks text.toList = [] := by
    have alone := silent []
    rwa [List.append_nil] at alone
  refine ⟨none ▸ .empty, fun rest => ?_⟩
  rw [none, silent, List.nil_append]

theorem neutral_free {text : String} (free : Text.Free Text.texCharacters text) :
    Neutral text := by
  refine neutral_silent fun rest => ?_
  unfold Text.Free at free
  generalize text.toList = chars at free ⊢
  induction chars with
  | nil => rfl
  | cons c tail ih =>
    obtain ⟨here, later⟩ := List.forall_mem_cons.1 free
    rw [List.cons_append, marks_cons here, ih later]

namespace Neutral

theorem empty : Neutral "" :=
  neutral_silent fun _ => rfl

theorem append {first second : String} (front : Neutral first) (back : Neutral second) :
    Neutral (first ++ second) := by
  have together : marks (first ++ second).toList = marks first.toList ++ marks second.toList := by
    rw [String.toList_append, front.apart]
  refine ⟨together ▸ front.nested.append back.nested, fun rest => ?_⟩
  rw [together, String.toList_append, List.append_assoc, front.apart, back.apart,
    List.append_assoc]

theorem enclose (delimiter : Delimiter) {content : String} (inner : Neutral content) :
    Neutral (delimiter.opening ++ content ++ delimiter.closing) := by
  have opened (rest : List Char) :
      marks (delimiter.opening.toList ++ rest) = ⟨delimiter, true⟩ :: marks rest := by
    cases delimiter <;> rfl
  have closed (rest : List Char) :
      marks (delimiter.closing.toList ++ rest) = ⟨delimiter, false⟩ :: marks rest := by
    cases delimiter <;> rfl
  have whole (rest : List Char) :
      marks ((delimiter.opening ++ content ++ delimiter.closing).toList ++ rest)
        = ⟨delimiter, true⟩ :: marks content.toList ++ ⟨delimiter, false⟩ :: marks rest := by
    rw [String.toList_append, String.toList_append, List.append_assoc, List.append_assoc, opened,
      inner.apart, closed]
    rfl
  have alone := whole []
  rw [List.append_nil] at alone
  refine ⟨?_, fun rest => ?_⟩
  · rw [alone]
    exact .pair delimiter inner.nested .empty
  · rw [whole, alone]
    simp [marks]

theorem group {content : String} (inner : Neutral content) : Neutral (Render.group content) :=
  inner.enclose .brace

theorem parenthesizeIf (condition : Bool) {inner : String} (neutral : Neutral inner) :
    Neutral (Render.parenthesizeIf condition .tex inner) := by
  cases condition with
  | false => exact neutral
  | true => exact neutral.enclose .round

theorem intercalate {separator : String} {texts : List String} (between : Neutral separator)
    (all : ∀ text ∈ texts, Neutral text) : Neutral (separator.intercalate texts) :=
  intercalate_elim .empty .append between all

end Neutral

end Render

end FormulaTree

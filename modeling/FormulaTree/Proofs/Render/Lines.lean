import FormulaTree.Proofs.Render.Layouts

/-!
# The layout of a conditional can be undone

The headers of a conditional stand at the margin of its text and the lines of its blocks behind a
tab, however deep conditionals nest in them. So the lines up to the next header are those of one
block (`eq_of_indented`), a header tells its keyword and its condition, and the text of a conditional
determines the texts of its parts (`conditional_layout_unambiguous`).
-/

set_option autoImplicit false

namespace FormulaTree

namespace Render

def lines (text : String) : List (List Char) :=
  text.toList.splitOn '\n'

def indented (lines : List (List Char)) : List (List Char) :=
  lines.map ('\t' :: ·)

theorem lines_injective {text text' : String} (h : lines text = lines text') : text = text' := by
  have joined := congrArg (['\n'].intercalate ·) h
  simp only [lines, List.intercalate_splitOn] at joined
  exact String.toList_inj.1 joined

theorem lines_eq_singleton {text : String} (h : '\n' ∉ text.toList) : lines text = [text.toList] :=
  List.splitOn_eq_singleton h

theorem lines_append_break (first rest : String) :
    lines (first ++ "\n" ++ rest) = lines first ++ lines rest := by
  have broken : (first ++ "\n" ++ rest).toList = first.toList ++ '\n' :: rest.toList := by simp
  rw [lines, broken, List.splitOn_append_cons_self]
  rfl

theorem modifyHead_indented {moved plain : List (List Char)}
    (h : moved.modifyHead ('\t' :: ·) = indented plain) (c : Char) :
    (moved.modifyHead (c :: ·)).modifyHead ('\t' :: ·) = indented (plain.modifyHead (c :: ·)) := by
  cases moved <;> cases plain <;> simp_all [indented]

/-- Every line of a text that is moved to the right begins with the tab that was put there. -/
theorem lines_indent (text : String) : lines ("\t" ++ indent text) = indented (lines text) := by
  have moved : ("\t" ++ indent text).toList
      = '\t' :: text.toList.flatMap fun c => if c = '\n' then ['\n', '\t'] else [c] := by
    simp [indent]
  rw [lines, moved, lines]
  induction text.toList with
  | nil => rfl
  | cons c rest ih =>
    by_cases line : c = '\n'
    · subst line
      simp [List.splitOn_cons_eq_if_modifyHead, indented] at ih ⊢
      exact ih
    · have first : ∀ text : List Char,
          ('\t' :: text).splitOn '\n' = (text.splitOn '\n').modifyHead ('\t' :: ·) :=
        fun text => by simp [List.splitOn_cons_eq_if_modifyHead]
      rw [first] at ih
      simpa [List.splitOn_cons_eq_if_modifyHead, line] using modifyHead_indented ih c

def header (keyword test : String) : List Char :=
  (keyword ++ " " ++ test).toList

def branchLines (keyword : String) : List String → List String → List (List Char)
  | test :: tests, body :: bodies =>
    header keyword test :: indented (lines body) ++ branchLines "else if" tests bodies
  | [], [body] => "else".toList :: indented (lines body) ++ ["end".toList]
  | _, _ => ["end".toList]

def IsKeyword (keyword : String) : Prop :=
  keyword = "if" ∨ keyword = "else if"

theorem header_inj {keyword test test' : String} :
    header keyword test = header keyword test' ↔ test = test' := by
  simp [header, String.toList_inj]

theorem header_ne_else {keyword : String} (h : IsKeyword keyword) (test : String) :
    header keyword test ≠ "else".toList := by
  rcases h with rfl | rfl <;> simp [header]

theorem header_ne_end {keyword : String} (h : IsKeyword keyword) (test : String) :
    header keyword test ≠ "end".toList := by
  rcases h with rfl | rfl <;> simp [header]

theorem lines_layoutBranches {keyword : String} (h : IsKeyword keyword) {tests : List String}
    (oneLine : ∀ test ∈ tests, '\n' ∉ test.toList) (bodies : List String) :
    lines (layoutBranches keyword tests bodies ++ "end") = branchLines keyword tests bodies := by
  fun_induction branchLines keyword tests bodies with
  | case1 keyword test tests body bodies ih =>
    obtain ⟨first, later⟩ := List.forall_mem_cons.1 oneLine
    have pieces : layoutBranches keyword (test :: tests) (body :: bodies) ++ "end"
        = keyword ++ " " ++ test ++ "\n" ++ ("\t" ++ indent body ++ "\n"
          ++ (layoutBranches "else if" tests bodies ++ "end")) := by
      have opening : "\n\t" = "\n" ++ "\t" := rfl
      simp only [layoutBranches, opening, String.append_assoc]
    have whole : '\n' ∉ (keyword ++ " " ++ test).toList := by
      rcases h with rfl | rfl <;> simpa using first
    rw [pieces, lines_append_break, lines_append_break, lines_indent, lines_eq_singleton whole,
      ih (.inr rfl) later]
    rfl
  | case2 keyword body =>
    have pieces : layoutBranches keyword [] [body] ++ "end"
        = "else" ++ "\n" ++ ("\t" ++ indent body ++ "\n" ++ "end") := by
      have opening : "else\n\t" = "else" ++ "\n" ++ "\t" := rfl
      simp only [layoutBranches, opening, String.append_assoc]
    rw [pieces, lines_append_break, lines_append_break, lines_indent]
    rfl
  | case3 keyword tests bodies paired single =>
    rw [layoutBranches.eq_3 _ _ _ paired single]
    rfl

/-- Lines that begin with a header or with nothing. -/
def AtMargin (lines : List (List Char)) : Prop :=
  ∀ line rest, lines ≠ ('\t' :: line) :: rest

theorem atMargin_branchLines {keyword : String} (h : IsKeyword keyword) (tests bodies : List String) :
    AtMargin (branchLines keyword tests bodies) := by
  intro line rest same
  unfold branchLines at same
  split at same
  · rcases h with rfl | rfl <;> simp [header] at same
  · simp at same
  · simp at same

/-- Lines behind a tab end where a line at the margin begins. -/
theorem eq_of_indented {body body' rest rest' : List (List Char)} (margin : AtMargin rest)
    (margin' : AtMargin rest') (h : indented body ++ rest = indented body' ++ rest') :
    body = body' ∧ rest = rest' := by
  induction body generalizing body' with
  | nil =>
    cases body' with
    | nil => exact ⟨rfl, h⟩
    | cons line' body' => exact (margin _ _ h).elim
  | cons line body ih =>
    cases body' with
    | nil => exact (margin' _ _ h.symm).elim
    | cons line' body' =>
      obtain ⟨first, later⟩ := List.cons.inj h
      obtain ⟨rfl, same⟩ := ih later
      exact ⟨by rw [(List.cons.inj first).2], same⟩

/-- The lines of a conditional tell the texts of its conditions and blocks. -/
theorem branchLines_inj {keyword : String} (h : IsKeyword keyword)
    {tests tests' bodies bodies' : List String}
    (count : bodies.length = tests.length ∨ bodies.length = tests.length + 1)
    (count' : bodies'.length = tests'.length ∨ bodies'.length = tests'.length + 1)
    (same : branchLines keyword tests bodies = branchLines keyword tests' bodies') :
    tests = tests' ∧ bodies = bodies' := by
  have later : IsKeyword "else if" := .inr rfl
  -- One branch at a time: what follows a block begins at the margin, so the block ends there.
  induction tests generalizing keyword tests' bodies bodies' with
  | nil =>
    match bodies, tests', bodies', count, count' with
    | [], [], [], _, _ => exact ⟨rfl, rfl⟩
    | [body], [], [body'], _, _ =>
      have margin : AtMargin ["end".toList] := by simp [AtMargin]
      obtain ⟨texts, -⟩ := eq_of_indented margin margin (List.cons.inj same).2
      rw [lines_injective texts]
      exact ⟨rfl, rfl⟩
    | [], [], [body'], _, _ => simp [branchLines] at same
    | [body], [], [], _, _ => simp [branchLines] at same
    | [], test' :: tests', body' :: bodies', _, _ =>
      exact absurd (List.cons.inj same).1.symm (header_ne_end h test')
    | [body], test' :: tests', body' :: bodies', _, _ =>
      exact absurd (List.cons.inj same).1.symm (header_ne_else h test')
  | cons test tests ih =>
    match bodies, tests', bodies', count, count' with
    | body :: bodies, [], [], _, _ =>
      exact absurd (List.cons.inj same).1 (header_ne_end h test)
    | body :: bodies, [], [body'], _, _ =>
      exact absurd (List.cons.inj same).1 (header_ne_else h test)
    | body :: bodies, test' :: tests', body' :: bodies', count, count' =>
      obtain ⟨first, same⟩ := List.cons.inj same
      obtain ⟨texts, same⟩ := eq_of_indented (atMargin_branchLines later tests bodies)
        (atMargin_branchLines later tests' bodies') same
      obtain ⟨rfl, rfl⟩ := ih later (by simpa using count) (by simpa using count') same
      rw [header_inj.1 first, lines_injective texts]
      exact ⟨rfl, rfl⟩

end Render

namespace Formula

open Render

theorem lineBreak_parenthesizeIf (condition : Bool) {text : String} (h : '\n' ∉ text.toList) :
    '\n' ∉ (parenthesizeIf condition .text text).toList := by
  cases condition with
  | false => exact h
  | true => simpa [parenthesizeIf, parenthesize] using h

theorem lines_render_conditional {mode : Parentheses} {conditions : List Formula}
    (oneLine : ∀ test ∈ conditions, '\n' ∉ (test.render mode .text).toList)
    (blocks : List Formula) :
    lines ((conditional conditions blocks).render mode .text)
      = branchLines "if" (renderConditions mode .text conditions)
        (renderAll mode .text blocks) := by
  refine lines_layoutBranches (.inl rfl) ?_ _
  intro text mem
  rw [renderConditions_eq_map, List.mem_map] at mem
  obtain ⟨test, mem, rfl⟩ := mem
  exact lineBreak_parenthesizeIf _ (oneLine test mem)

/-- Conditionals with the same text have as many conditions and blocks as each other, with the same
texts, brackets around the conditions included. Blocks may go over any number of lines. -/
theorem conditional_layout_unambiguous {mode : Parentheses}
    {conditions conditions' blocks blocks' : List Formula}
    (shape : (conditional conditions blocks).Shape)
    (shape' : (conditional conditions' blocks').Shape)
    (oneLine : ∀ test ∈ conditions, '\n' ∉ (test.render mode .text).toList)
    (oneLine' : ∀ test ∈ conditions', '\n' ∉ (test.render mode .text).toList)
    (same : (conditional conditions blocks).render mode .text
      = (conditional conditions' blocks').render mode .text) :
    conditions.length = conditions'.length ∧
      (elseBlock? conditions blocks = none ↔ elseBlock? conditions' blocks' = none) ∧
      renderConditions mode .text conditions = renderConditions mode .text conditions' ∧
      renderAll mode .text blocks = renderAll mode .text blocks' := by
  have sameLines := congrArg lines same
  rw [lines_render_conditional oneLine, lines_render_conditional oneLine'] at sameLines
  have count := shape.2
  have count' := shape'.2
  obtain ⟨tests, bodies⟩ := branchLines_inj (.inl rfl)
    (by simpa [renderConditions_eq_map, renderAll_eq_map] using count)
    (by simpa [renderConditions_eq_map, renderAll_eq_map] using count') sameLines
  have testCount := congrArg List.length tests
  have bodyCount := congrArg List.length bodies
  simp only [renderConditions_eq_map, renderAll_eq_map, List.length_map] at testCount bodyCount
  refine ⟨testCount, ?_, tests, bodies⟩
  rw [elseBlock?_eq_none_iff, elseBlock?_eq_none_iff, testCount, bodyCount]

/-- One text of two conditionals under `all`: in the first one a conditional and two statements nest,
in the second one their lines are the name of a symbol. -/
theorem conditional_layout_unambiguous_nested :
    let conditions : List Formula := [.operation "not" "not" [.symbol "p"]]
    let blocks : List Formula := [.conditional [.symbol "q"]
      [.block [(.symbol "x", true), (.symbol "y", false)]], .symbol "z"]
    let conditions' : List Formula := [.parenthesis (.operation "not" "not" [.symbol "p"])]
    let blocks' : List Formula :=
      [.symbol "if (q)\n\tx\n\ty;\nend", .parenthesis (.symbol "z")]
    (conditional conditions blocks).Shape ∧ (conditional conditions' blocks').Shape ∧
      (∀ test ∈ conditions, '\n' ∉ (test.render .all .text).toList) ∧
      (∀ test ∈ conditions', '\n' ∉ (test.render .all .text).toList) ∧
      (conditional conditions blocks).render .all .text
        = "if (not p)\n\tif (q)\n\t\tx\n\t\ty;\n\tend\nelse\n\tz\nend" ∧
      (conditional conditions blocks).render .all .text
        = (conditional conditions' blocks').render .all .text ∧
      renderConditions .all .text conditions = renderConditions .all .text conditions' ∧
      renderAll .all .text blocks = renderAll .all .text blocks' := by
  intro conditions blocks conditions' blocks'
  have shape : (conditional conditions blocks).Shape := by simp [Shape, conditions, blocks]
  have shape' : (conditional conditions' blocks').Shape := by simp [Shape, conditions', blocks']
  have oneLine : ∀ test ∈ conditions, '\n' ∉ (test.render .all .text).toList := by decide
  have oneLine' : ∀ test ∈ conditions', '\n' ∉ (test.render .all .text).toList := by decide
  have same : (conditional conditions blocks).render .all .text
      = (conditional conditions' blocks').render .all .text := by decide
  exact ⟨shape, shape', oneLine, oneLine', by decide, same,
    (conditional_layout_unambiguous shape shape' oneLine oneLine' same).2.2⟩

end Formula

end FormulaTree

import FormulaTree.Proofs.Render.Layouts

set_option autoImplicit false

namespace FormulaTree.Render

def branchPiece (keyword test body : String) : String :=
  keyword ++ " " ++ test ++ "\n\t" ++ indent body ++ "\n"

def elsePiece (body : String) : String :=
  "else\n\t" ++ indent body ++ "\n"

structure Pieces (keyword : String) (tests bodies pieces : List String) : Prop where
  length : pieces.length = bodies.length
  branch : ∀ i test body, tests[i]? = some test → bodies[i]? = some body →
    pieces[i]? = some (branchPiece (if i = 0 then keyword else "else if") test body)
  last : ∀ body, bodies[tests.length]? = some body → pieces[tests.length]? = some (elsePiece body)

theorem layoutBranches_eq_join (keyword : String) {tests bodies : List String}
    (count : bodies.length = tests.length ∨ bodies.length = tests.length + 1) :
    ∃ pieces, layoutBranches keyword tests bodies = String.join pieces ∧
      Pieces keyword tests bodies pieces := by
  induction tests generalizing keyword bodies with
  | nil =>
    match bodies, count with
    | [], _ => exact ⟨[], rfl, rfl, by simp, by simp⟩
    | [body], _ => exact ⟨[elsePiece body], by simp [layoutBranches, elsePiece], rfl, by simp, by simp⟩
  | cons test tests ih =>
    match bodies, count with
    | body :: bodies, count =>
      have count' : bodies.length = tests.length ∨ bodies.length = tests.length + 1 := by
        simpa using count
      obtain ⟨pieces, text, length, branch, last⟩ := @ih "else if" bodies count'
      refine ⟨branchPiece keyword test body :: pieces, ?_, by simp [length], ?_, ?_⟩
      · simp [layoutBranches, branchPiece, text]
      · intro i test' body' at_tests at_bodies
        cases i with
        | zero => simp_all
        | succ i =>
          have piece := branch i test' body' (by simpa using at_tests) (by simpa using at_bodies)
          simpa using piece
      · intro body' at_bodies
        exact last body' (by simpa using at_bodies)

end FormulaTree.Render

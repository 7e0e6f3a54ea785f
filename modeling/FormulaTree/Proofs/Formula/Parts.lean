import FormulaTree.Formula.Rebuild
import Mathlib.Data.List.Basic
import Mathlib.Data.List.Zip

set_option autoImplicit false

namespace FormulaTree.Formula

/-- Deals out parts that alternate between `count` conditions and their blocks. -/
def unbraid : Nat → List Formula → List Formula × List Formula
  | count + 1, test :: body :: rest =>
    let (tests, bodies) := unbraid count rest
    (test :: tests, body :: bodies)
  | _, blocks => ([], blocks)

/-- The formula with other parts in the places of its own, given in the order of `children`. A
number of parts for which it has no places leaves it as it is. -/
def withParts : Formula → List Formula → Except Error Formula
  | .assignment _ _, [target, value] => checkedAssignment target value
  | .block statements, parts => checkedBlock (parts.zip (statements.map Prod.snd))
  | .operation op function _, parts => checkedOperation op function parts
  | .parenthesis _, [content] => .ok (.parenthesis content)
  | .call function _, parts => .ok (.call function parts)
  | .conditional conditions _, parts =>
    let (conditions, blocks) := unbraid conditions.length parts
    checkedConditional conditions blocks
  | formula, _ => .ok formula

section rebuild

variable {m : Type → Type} [Monad m] [LawfulMonad m]

theorem replaceNumbered_eq (replace : Position → Formula → m Formula) (position : Nat → Position)
    (start : Nat) (parts : List Formula) :
    replaceNumbered replace position start parts
      = (numbered position start parts).mapM fun child => replace child.1 child.2 := by
  induction parts generalizing start with
  | nil => simp [replaceNumbered, numbered]
  | cons part rest ih => simp [replaceNumbered, numbered, ih]

theorem replaceStatements_eq (replace : Position → Formula → m Formula) (start : Nat)
    (statements : List (Formula × Bool)) :
    replaceStatements replace start statements = (do
      let parts ← (numbered .statement start (statements.map Prod.fst)).mapM fun child =>
        replace child.1 child.2
      pure (parts.zip (statements.map Prod.snd))) := by
  induction statements generalizing start with
  | nil => simp [replaceStatements, numbered]
  | cons entry rest ih => simp [replaceStatements, numbered, ih]

theorem replaceBranches_eq (replace : Position → Formula → m Formula) (index : Nat)
    (conditions blocks : List Formula) :
    replaceBranches replace index conditions blocks = (do
      let parts ← (branches index conditions blocks).mapM fun child => replace child.1 child.2
      pure (unbraid conditions.length parts)) := by
  fun_induction branches index conditions blocks with
  | case1 index test tests body bodies ih => simp [replaceBranches, ih, unbraid]
  | case2 => simp [replaceBranches, unbraid]
  | case3 conditions index blocks paired single =>
    rw [replaceBranches.eq_3 _ _ _ _ paired single]
    cases conditions <;> simp [unbraid]

theorem replaceParts_eq [MonadExcept Error m] (replace : Position → Formula → m Formula)
    (formula : Formula) :
    formula.replaceParts replace = (do
      let parts ← formula.children.mapM fun child => replace child.1 child.2
      MonadExcept.ofExcept (formula.withParts parts)) := by
  cases formula with
  | constant value => simp [replaceParts, children, withParts, MonadExcept.ofExcept]
  | symbol name => simp [replaceParts, children, withParts, MonadExcept.ofExcept]
  | assignment target value => simp [replaceParts, children, withParts]
  | block statements => simp [replaceParts, children, withParts, replaceStatements_eq]
  | operation op function operands => simp [replaceParts, children, withParts, replaceNumbered_eq]
  | parenthesis content => simp [replaceParts, children, withParts, MonadExcept.ofExcept]
  | call function arguments =>
    simp [replaceParts, children, withParts, replaceNumbered_eq, MonadExcept.ofExcept]
  | conditional conditions blocks => simp [replaceParts, children, withParts, replaceBranches_eq]

end rebuild

theorem length_numbered (position : Nat → Position) (start : Nat) (parts : List Formula) :
    (numbered position start parts).length = parts.length := by
  induction parts generalizing start with
  | nil => rfl
  | cons part rest ih => simp [numbered, ih]

theorem map_snd_numbered (position : Nat → Position) (start : Nat) (parts : List Formula) :
    (numbered position start parts).map Prod.snd = parts := by
  induction parts generalizing start with
  | nil => rfl
  | cons part rest ih => simp [numbered, ih]

theorem map_fst_numbered (position : Nat → Position) (start : Nat) (parts : List Formula) :
    (numbered position start parts).map Prod.fst = (List.range' start parts.length).map position := by
  induction parts generalizing start with
  | nil => rfl
  | cons part rest ih => simp [numbered, ih, List.range'_succ]

theorem nil_of_unpaired {conditions blocks : List Formula}
    (paired : ∀ test tests body bodies,
      conditions = test :: tests → blocks = body :: bodies → False)
    (single : ∀ body, conditions = [] → blocks = [body] → False)
    (count : blocks.length = conditions.length ∨ blocks.length = conditions.length + 1) :
    conditions = [] ∧ blocks = [] := by
  cases conditions with
  | nil =>
    cases blocks with
    | nil => exact ⟨rfl, rfl⟩
    | cons body bodies =>
      obtain rfl : bodies = [] := by simpa using count
      exact (single body rfl rfl).elim
  | cons test tests =>
    cases blocks with
    | nil => simp at count
    | cons body bodies => exact (paired test tests body bodies rfl rfl).elim

theorem children_unbraid {index : Nat} {conditions blocks parts : List Formula}
    (h : parts.length = (branches index conditions blocks).length) :
    (branches index (unbraid conditions.length parts).1 (unbraid conditions.length parts).2).map
        Prod.snd = parts ∧
      (branches index (unbraid conditions.length parts).1 (unbraid conditions.length parts).2).map
        Prod.fst = (branches index conditions blocks).map Prod.fst := by
  fun_induction branches index conditions blocks generalizing parts with
  | case1 index test tests body bodies ih =>
    obtain ⟨test', parts, rfl⟩ := List.exists_cons_of_length_eq_add_one h
    obtain ⟨body', rest, rfl⟩ := List.exists_cons_of_length_eq_add_one (Nat.succ.inj h)
    have below : rest.length = (branches (index + 1) tests bodies).length := by simpa using h
    obtain ⟨snd, fst⟩ := ih below
    simp [unbraid, branches, snd, fst]
  | case2 index body =>
    obtain ⟨body', rfl⟩ := List.length_eq_one_iff.1 h
    simp [unbraid, branches]
  | case3 conditions index blocks paired single =>
    obtain rfl : parts = [] := by simpa using h
    cases conditions <;> simp [unbraid, branches]

theorem length_unbraid {conditions blocks parts : List Formula} {index : Nat}
    (count : blocks.length = conditions.length ∨ blocks.length = conditions.length + 1)
    (h : parts.length = (branches index conditions blocks).length) :
    (unbraid conditions.length parts).1.length = conditions.length ∧
      (unbraid conditions.length parts).2.length = blocks.length := by
  fun_induction branches index conditions blocks generalizing parts with
  | case1 index test tests body bodies ih =>
    obtain ⟨test', parts, rfl⟩ := List.exists_cons_of_length_eq_add_one h
    obtain ⟨body', rest, rfl⟩ := List.exists_cons_of_length_eq_add_one (Nat.succ.inj h)
    have below : rest.length = (branches (index + 1) tests bodies).length := by simpa using h
    obtain ⟨fst, snd⟩ := ih (by simpa using count) below
    simp [unbraid, fst, snd]
  | case2 index body =>
    obtain ⟨body', rfl⟩ := List.length_eq_one_iff.1 h
    simp [unbraid]
  | case3 conditions index blocks paired single =>
    obtain rfl : parts = [] := by simpa using h
    obtain ⟨rfl, rfl⟩ := nil_of_unpaired paired single count
    simp [unbraid]

theorem unbraid_children {index : Nat} {conditions blocks : List Formula}
    (count : blocks.length = conditions.length ∨ blocks.length = conditions.length + 1) :
    unbraid conditions.length ((branches index conditions blocks).map Prod.snd)
      = (conditions, blocks) := by
  fun_induction branches index conditions blocks with
  | case1 index test tests body bodies ih =>
    simp [unbraid, ih (by simpa using count)]
  | case2 index body => simp [unbraid]
  | case3 conditions index blocks paired single =>
    obtain ⟨rfl, rfl⟩ := nil_of_unpaired paired single count
    simp [unbraid]

/-- No condition and no block of a conditional is left out of its parts. -/
theorem branches_perm (index : Nat) {conditions blocks : List Formula}
    (count : blocks.length = conditions.length ∨ blocks.length = conditions.length + 1) :
    ((branches index conditions blocks).map Prod.snd).Perm (conditions ++ blocks) := by
  fun_induction branches index conditions blocks with
  | case1 index test tests body bodies ih =>
    have rest := (ih (by simpa using count)).cons body
    exact (rest.trans List.perm_middle.symm).cons test
  | case2 index body => exact .refl _
  | case3 conditions index blocks paired single =>
    obtain ⟨rfl, rfl⟩ := nil_of_unpaired paired single count
    exact .refl _

theorem children_withParts {formula result : Formula} {parts : List Formula}
    (count : parts.length = formula.children.length) (h : formula.withParts parts = .ok result) :
    result.children.map Prod.snd = parts ∧
      result.children.map Prod.fst = formula.children.map Prod.fst := by
  cases formula with
  | constant value =>
    obtain rfl : parts = [] := by simpa [children] using count
    cases h
    exact ⟨rfl, rfl⟩
  | symbol name =>
    obtain rfl : parts = [] := by simpa [children] using count
    cases h
    exact ⟨rfl, rfl⟩
  | assignment target value =>
    obtain ⟨target', value', rfl⟩ := List.length_eq_two.1 count
    obtain ⟨rfl, -⟩ := checkedAssignment_shape h
    exact ⟨rfl, rfl⟩
  | block statements =>
    obtain ⟨rfl, -⟩ := checkedBlock_shape h
    have same : (parts.zip (statements.map Prod.snd)).map Prod.fst = parts :=
      List.map_fst_zip (by simp_all [children, length_numbered])
    simp_all [children, map_snd_numbered, map_fst_numbered, length_numbered]
  | operation op function operands =>
    obtain ⟨rfl, -⟩ := checkedOperation_shape h
    simp_all [children, map_snd_numbered, map_fst_numbered, length_numbered]
  | parenthesis content =>
    obtain ⟨content', rfl⟩ := List.length_eq_one_iff.1 count
    cases h
    exact ⟨rfl, rfl⟩
  | call function arguments =>
    cases h
    simp_all [children, map_snd_numbered, map_fst_numbered, length_numbered]
  | conditional conditions blocks =>
    obtain ⟨rfl, -⟩ := checkedConditional_shape h
    exact children_unbraid count

theorem withParts_children {formula : Formula} (shape : formula.Shape) :
    formula.withParts (formula.children.map Prod.snd) = .ok formula := by
  cases formula with
  | constant value => rfl
  | symbol name => rfl
  | assignment target value =>
    cases target with
    | symbol name => rfl
    | _ => cases shape
  | block statements =>
    have same : (statements.map Prod.fst).zip (statements.map Prod.snd) = statements := by
      rw [← List.unzip_fst, ← List.unzip_snd, List.zip_unzip]
    simp only [children, map_snd_numbered, withParts, same]
    exact if_neg (by simpa [Shape] using shape)
  | operation op function operands =>
    simp only [children, map_snd_numbered, withParts]
    exact if_pos shape
  | parenthesis content => rfl
  | call function arguments => simp only [children, map_snd_numbered, withParts]
  | conditional conditions blocks =>
    obtain ⟨some_condition, count⟩ := shape
    have some_condition' := List.length_pos_iff.2 some_condition
    have some_block : blocks ≠ [] := by
      rw [← List.length_pos_iff]
      omega
    simp only [children, withParts, unbraid_children count, checkedConditional]
    simp [some_condition, some_block, count]

/-- Only the target of an assignment can spoil a rebuilding. -/
theorem withParts_eq_error {formula : Formula} {parts : List Formula} {e : Error}
    (shape : formula.Shape) (count : parts.length = formula.children.length)
    (h : formula.withParts parts = .error e) :
    ∃ target value target' value', formula = .assignment target value ∧
      parts = [target', value'] ∧ target'.kind ≠ .symbol ∧
      e = .invalidArgument (.target target'.kind) := by
  cases formula with
  | constant value => simp [withParts] at h
  | symbol name => simp [withParts] at h
  | assignment target value =>
    obtain ⟨target', value', rfl⟩ := List.length_eq_two.1 count
    refine ⟨target, value, target', value', rfl, rfl, ?_⟩
    cases target' <;> simp_all [withParts, checkedAssignment, kind]
  | block statements =>
    have some_part : parts ≠ [] := by
      rintro rfl
      exact shape (List.length_eq_zero_iff.1 (by simpa [children, length_numbered] using count.symm))
    have some_statement : statements ≠ [] := shape
    simp [withParts, checkedBlock, List.zip_eq_nil_iff, some_part, some_statement] at h
  | operation op function operands =>
    have : parts.length = operands.length := by simpa [children, length_numbered] using count
    rw [withParts, checkedOperation, if_pos (by rw [this]; exact shape)] at h
    cases h
  | parenthesis content =>
    obtain ⟨content', rfl⟩ := List.length_eq_one_iff.1 count
    cases h
  | call function arguments => cases h
  | conditional conditions blocks =>
    obtain ⟨some_condition, counts⟩ := shape
    obtain ⟨fst, snd⟩ := length_unbraid counts (show parts.length = _ from count)
    have some_condition' := List.length_pos_iff.2 some_condition
    have conditions' : (unbraid conditions.length parts).1 ≠ [] := by
      rw [← List.length_pos_iff]
      omega
    have blocks' : (unbraid conditions.length parts).2 ≠ [] := by
      rw [← List.length_pos_iff]
      omega
    simp [withParts, checkedConditional, conditions', blocks', fst, snd, counts] at h

theorem mapM_nextReplacement (parent : Kind) (children : List (Position × Formula))
    (parts rest : List Formula) (count : parts.length = children.length) :
    (children.mapM fun child => nextReplacement parent child.1).run (parts ++ rest)
      = .ok (parts, rest) := by
  induction children generalizing parts with
  | nil =>
    obtain rfl : parts = [] := by simpa using count
    rfl
  | cons child children ih =>
    obtain ⟨part, parts, rfl⟩ := List.exists_cons_of_length_eq_add_one count
    have later := ih parts (by simpa using count)
    rw [List.mapM_cons, StateT.run_bind]
    change ((children.mapM fun child => nextReplacement parent child.1) >>= fun parts =>
      pure (part :: parts)).run (parts ++ rest) = _
    rw [StateT.run_bind, later]
    rfl

/-- Replacements that are as many as the parts never run out, and each goes to its own place. -/
theorem rebuildFrom_eq {formula : Formula} {parts : List Formula}
    (count : parts.length = formula.children.length) :
    formula.rebuildFrom parts = formula.withParts parts := by
  have handed := mapM_nextReplacement formula.kind formula.children parts [] count
  rw [List.append_nil] at handed
  rw [rebuildFrom, tryRebuild, replaceParts_eq, StateT.run'_eq, StateT.run_bind, handed]
  change Prod.fst <$> (MonadExcept.ofExcept (formula.withParts parts) :
    StateT (List Formula) (Except Error) Formula).run [] = _
  cases formula.withParts parts <;> rfl

end FormulaTree.Formula

import FormulaTree.Formula.Transform
import FormulaTree.Proofs.Exec
import FormulaTree.Proofs.Formula.Parts

/-!
# Transforming is one pass

`Formula.rewrite` is the plain recursion: rewrite the parts from left to right, put the node
together again, change it. It has no shortcut for parts that came back as they were and hands nothing
out a second time. On a well-formed formula `transformAt` is that recursion, whichever of the
unchanged parts it notices (`transformAt_eq_rewrite`). What is to be shown of a formula and what it
is rewritten to is shown of one node, of which the parts are rewritten already (`rewrite_relates`).
-/

set_option autoImplicit false

namespace FormulaTree.Formula

section rewrite

variable {m : Type → Type} [Monad m] [MonadExcept Error m]

mutual

/-- Rewrites the parts of the node at `address`, puts it together from them and changes it. -/
def rewrite (change : Visit → m Formula) (address : List Position) (parent : Option Formula) :
    Formula → m Formula
  | .constant value => change ⟨.constant value, address, parent⟩
  | .symbol name => change ⟨.symbol name, address, parent⟩
  | .assignment target value => do
    let self := Formula.assignment target value
    let target ← rewrite change (.target :: address) (some self) target
    let value ← rewrite change (.value :: address) (some self) value
    let current ← MonadExcept.ofExcept (checkedAssignment target value)
    change ⟨current, address, parent⟩
  | .block statements => do
    let statements ← rewriteStatements change address (.block statements) 0 statements
    let current ← MonadExcept.ofExcept (checkedBlock statements)
    change ⟨current, address, parent⟩
  | .operation op function operands => do
    let self := Formula.operation op function operands
    let operands ← rewriteArguments change address self 0 operands
    let current ← MonadExcept.ofExcept (checkedOperation op function operands)
    change ⟨current, address, parent⟩
  | .parenthesis content => do
    let content ← rewrite change (.content :: address) (some (.parenthesis content)) content
    change ⟨.parenthesis content, address, parent⟩
  | .call function arguments => do
    let arguments ← rewriteArguments change address (.call function arguments) 0 arguments
    change ⟨.call function arguments, address, parent⟩
  | .conditional conditions blocks => do
    let self := Formula.conditional conditions blocks
    let (conditions, blocks) ← rewriteBranches change address self 0 conditions blocks
    let current ← MonadExcept.ofExcept (checkedConditional conditions blocks)
    change ⟨current, address, parent⟩
termination_by formula => sizeOf formula

def rewriteStatements (change : Visit → m Formula) (address : List Position) (self : Formula)
    (start : Nat) : List (Formula × Bool) → m (List (Formula × Bool))
  | [] => pure []
  | (statement, visible) :: rest => do
    let statement ← rewrite change (.statement start :: address) (some self) statement
    let rest ← rewriteStatements change address self (start + 1) rest
    pure ((statement, visible) :: rest)
termination_by statements => sizeOf statements

def rewriteArguments (change : Visit → m Formula) (address : List Position) (self : Formula)
    (start : Nat) : List Formula → m (List Formula)
  | [] => pure []
  | argument :: rest => do
    let argument ← rewrite change (.argument start :: address) (some self) argument
    let rest ← rewriteArguments change address self (start + 1) rest
    pure (argument :: rest)
termination_by arguments => sizeOf arguments

def rewriteBranches (change : Visit → m Formula) (address : List Position) (self : Formula)
    (index : Nat) : List Formula → List Formula → m (List Formula × List Formula)
  | test :: tests, body :: bodies => do
    let test ← rewrite change (.condition index :: address) (some self) test
    let body ← rewrite change (.block index :: address) (some self) body
    let (tests, bodies) ← rewriteBranches change address self (index + 1) tests bodies
    pure (test :: tests, body :: bodies)
  | [], [body] => do
    let body ← rewrite change (.elseBlock :: address) (some self) body
    pure ([], [body])
  | _, _ => pure ([], [])
termination_by conditions blocks => sizeOf conditions + sizeOf blocks

end

end rewrite

section pass

variable {m : Type → Type} [Monad m] [LawfulMonad m] [MonadExcept Error m]

theorem rewriteStatements_eq (change : Visit → m Formula) (address : List Position)
    (self : Formula) (start : Nat) (statements : List (Formula × Bool)) :
    rewriteStatements change address self start statements
      = replaceStatements
        (fun position part => rewrite change (position :: address) (some self) part)
        start statements := by
  induction statements generalizing start with
  | nil => simp [rewriteStatements, replaceStatements]
  | cons entry rest ih =>
    obtain ⟨statement, visible⟩ := entry
    simp [rewriteStatements, replaceStatements, ih]

theorem rewriteArguments_eq (change : Visit → m Formula) (address : List Position)
    (self : Formula) (start : Nat) (parts : List Formula) :
    rewriteArguments change address self start parts
      = replaceNumbered
        (fun position part => rewrite change (position :: address) (some self) part)
        .argument start parts := by
  induction parts generalizing start with
  | nil => simp [rewriteArguments, replaceNumbered]
  | cons part rest ih => simp [rewriteArguments, replaceNumbered, ih]

theorem rewriteBranches_eq (change : Visit → m Formula) (address : List Position)
    (self : Formula) (index : Nat) (conditions blocks : List Formula) :
    rewriteBranches change address self index conditions blocks
      = replaceBranches
        (fun position part => rewrite change (position :: address) (some self) part)
        index conditions blocks := by
  fun_induction branches index conditions blocks with
  | case1 index test tests body bodies ih => simp [rewriteBranches, replaceBranches, ih]
  | case2 => simp [rewriteBranches, replaceBranches]
  | case3 conditions index blocks paired single =>
    rw [replaceBranches.eq_3 _ _ _ _ paired single, rewriteBranches.eq_3 _ _ _ _ _ _ paired single]

/-- The recursion is the same for all kinds: replace the parts by what they are rewritten to. -/
theorem rewrite_eq_replaceParts (change : Visit → m Formula) (address : List Position)
    (parent : Option Formula) (formula : Formula) :
    formula.rewrite change address parent = (do
      let current ← formula.replaceParts fun position part =>
        part.rewrite change (position :: address) (some formula)
      change ⟨current, address, parent⟩) := by
  cases formula with
  | constant value => simp [rewrite, replaceParts]
  | symbol name => simp [rewrite, replaceParts]
  | assignment target value => simp [rewrite, replaceParts]
  | block statements => simp [rewrite, replaceParts, rewriteStatements_eq]
  | operation op function operands => simp [rewrite, replaceParts, rewriteArguments_eq]
  | parenthesis content => simp [rewrite, replaceParts]
  | call function arguments => simp [rewrite, replaceParts, rewriteArguments_eq]
  | conditional conditions blocks => simp [rewrite, replaceParts, rewriteBranches_eq]

theorem rewrite_eq (change : Visit → m Formula) (address : List Position)
    (parent : Option Formula) (formula : Formula) :
    formula.rewrite change address parent = (do
      let parts ← formula.children.mapM fun child =>
        child.2.rewrite change (child.1 :: address) (some formula)
      let current ← MonadExcept.ofExcept (formula.withParts parts)
      change ⟨current, address, parent⟩) := by
  rw [rewrite_eq_replaceParts, replaceParts_eq, bind_assoc]

omit [MonadExcept Error m] in
theorem mapM_congr_mem {α β : Type} {entries : List α} {step step' : α → m β}
    (h : ∀ entry ∈ entries, step entry = step' entry) :
    entries.mapM step = entries.mapM step' := by
  induction entries with
  | nil => rfl
  | cons entry entries ih =>
    rw [List.mapM_cons, List.mapM_cons, h entry List.mem_cons_self,
      ih fun other mem => h other (List.mem_cons_of_mem entry mem)]

omit [MonadExcept Error m] in
theorem mapM_bind_congr {α β γ : Type} {entries : List α} {step : α → m β}
    {rest rest' : List β → m γ}
    (h : ∀ results, results.length = entries.length → rest results = rest' results) :
    entries.mapM step >>= rest = entries.mapM step >>= rest' := by
  induction entries generalizing rest rest' with
  | nil => simpa using h [] rfl
  | cons entry entries ih =>
    simp only [List.mapM_cons, bind_assoc, pure_bind]
    refine bind_congr fun result => ih fun results count => ?_
    exact h (result :: results) (by simp [count])

theorem parts_of_allReused {reuse : List Position → Bool} {address : List Position}
    {children : List (Position × Formula)} {parts : List Formula}
    (count : parts.length = children.length)
    (h : allReused reuse address children parts = true) : parts = children.map Prod.snd := by
  induction children generalizing parts with
  | nil => simpa using count
  | cons child children ih =>
    obtain ⟨part, parts, rfl⟩ := List.exists_cons_of_length_eq_add_one count
    simp only [allReused, Bool.and_eq_true, decide_eq_true_eq] at h
    obtain ⟨⟨-, rfl⟩, rest⟩ := h
    rw [List.map_cons, ← ih (by simpa using count) rest]

/-- A node that is reused is what a rebuilding would have given. -/
theorem withParts_of_allReused {formula : Formula} {parts : List Formula} (shape : formula.Shape)
    {reuse : List Position → Bool} {address : List Position}
    (count : parts.length = formula.children.length)
    (h : allReused reuse address formula.children parts = true) :
    formula.withParts parts = .ok formula := by
  rw [parts_of_allReused count h, withParts_children shape]

theorem transformAt_eq_rewrite {formula : Formula} (h : formula.WellFormed)
    (reuse : List Position → Bool) (change : Visit → m Formula) (address : List Position)
    (parent : Option Formula) :
    formula.transformAt reuse change address parent = formula.rewrite change address parent := by
  induction h generalizing address parent with
  | intro formula shape _ ih =>
    rw [transformAt_eq, rewrite_eq]
    have parts : (formula.children.mapM fun child =>
        child.2.transformAt reuse change (child.1 :: address) (some formula))
        = formula.children.mapM fun child =>
          child.2.rewrite change (child.1 :: address) (some formula) :=
      mapM_congr_mem fun child mem => ih child mem (child.1 :: address) (some formula)
    rw [parts]
    refine mapM_bind_congr fun results count => ?_
    by_cases reused : allReused reuse address formula.children results = true
    · simp [reused, withParts_of_allReused shape count reused, MonadExcept.ofExcept]
    · simp [reused, rebuildFrom_eq count]

end pass

/-- What holds of a node and its answer when it holds of the parts and what they became holds of a
formula and what it is rewritten to. -/
theorem rewrite_relates (related : Formula → Formula → Prop) {change : Visit → Except Error Formula}
    (step : ∀ (formula current answer : Formula) (parts : List Formula) (address : List Position)
      (parent : Option Formula), formula.Shape →
      List.Forall₂ (fun child part => related child.2 part) formula.children parts →
      formula.withParts parts = .ok current → change ⟨current, address, parent⟩ = .ok answer →
      related formula answer)
    {formula result : Formula} (h : formula.WellFormed) {address : List Position}
    {parent : Option Formula} (rewritten : formula.rewrite change address parent = .ok result) :
    related formula result := by
  induction h generalizing address parent result with
  | intro formula shape _ ih =>
    rw [rewrite_eq] at rewritten
    obtain ⟨parts, replaced, rewritten⟩ := bind_eq_ok.1 rewritten
    obtain ⟨current, made, changed⟩ := bind_eq_ok.1 rewritten
    rw [ofExcept_eq] at made
    have became : List.Forall₂ (fun child part => related child.2 part) formula.children parts :=
      forall₂_imp_mem (mapM_eq_ok.1 replaced) fun child mem _ rewritten => ih child mem rewritten
    exact step formula current result parts address parent shape became made changed

end FormulaTree.Formula

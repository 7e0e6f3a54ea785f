import FormulaTree.Proofs.Exec
import FormulaTree.Proofs.Formula.Pass
import Mathlib.Data.List.Forall2
import Mathlib.Data.List.Perm.Basic

set_option autoImplicit false

namespace FormulaTree

structure Call where
  visit : Visit
  answer : Except Error Formula

variable {σ α β : Type}

def logged (change : Visit → ExceptT Error (StateM σ) Formula) (visit : Visit) :
    ExceptT Error (StateM (σ × List Call)) Formula :=
  ExceptT.mk fun (s, log) =>
    let (answer, s) := exec (change visit) s
    (answer, s, log ++ [⟨visit, answer⟩])

structure Call.At (call : Call) (visit : Visit) : Prop where
  address : call.visit.address = visit.address
  parent : call.visit.parent = visit.parent

def Answered (visit : Visit) (call : Call) : Prop :=
  call.At visit ∧ ∃ result, call.answer = .ok result

/-- The calls of a run that fails, where the whole run would have made a call for each visit of a
plan. -/
inductive Stopped : List Visit → List Call → Error → Prop where
  /-- The last call fails. -/
  | refused {done rest : List Visit} {visit : Visit} {calls : List Call} {call : Call} {e : Error}
      (before : List.Forall₂ Answered done calls) (here : call.At visit)
      (failed : call.answer = .error e) : Stopped (done ++ visit :: rest) (calls ++ [call]) e
  /-- The next visit would be at an assignment, but the new target is not a symbol. -/
  | spoiled {done rest : List Visit} {visit : Visit} {calls : List Call} {call : Call}
      {target : Formula} (before : List.Forall₂ Answered done calls)
      (assignment : visit.formula.kind = .assignment) (mem : call ∈ calls)
      (address : call.visit.address = .target :: visit.address)
      (parent : call.visit.parent = some visit.formula) (answer : call.answer = .ok target)
      (other : target.kind ≠ .symbol) :
      Stopped (done ++ visit :: rest) calls (.invalidArgument (.target target.kind))

/-- The calls of a run with a plan: one for each visit, in order, up to a failure. -/
def Followed (plan : List Visit) (calls : List Call) : Except Error α → Prop
  | .ok _ => List.Forall₂ Answered plan calls
  | .error e => Stopped plan calls e

theorem Stopped.append {plan later : List Visit} {calls : List Call} {e : Error}
    (h : Stopped plan calls e) : Stopped (plan ++ later) calls e := by
  cases h with
  | refused before here failed =>
    rw [List.append_assoc, List.cons_append]
    exact .refused before here failed
  | spoiled before assignment mem address parent answer other =>
    rw [List.append_assoc, List.cons_append]
    exact .spoiled before assignment mem address parent answer other

theorem Stopped.after {earlier plan : List Visit} {first calls : List Call} {e : Error}
    (done : List.Forall₂ Answered earlier first) (h : Stopped plan calls e) :
    Stopped (earlier ++ plan) (first ++ calls) e := by
  cases h with
  | refused before here failed =>
    rw [← List.append_assoc, ← List.append_assoc]
    exact .refused (List.rel_append done before) here failed
  | spoiled before assignment mem address parent answer other =>
    rw [← List.append_assoc]
    exact .spoiled (List.rel_append done before) assignment (List.mem_append_right first mem)
      address parent answer other

theorem Followed.after {earlier plan : List Visit} {first calls : List Call}
    {r : Except Error α} (done : List.Forall₂ Answered earlier first)
    (h : Followed plan calls r) : Followed (earlier ++ plan) (first ++ calls) r := by
  cases r with
  | ok a => exact List.rel_append done h
  | error e => exact Stopped.after done h

/-- The second computation does what the first does, and the calls that it enters in the log are as
said for its outcome. -/
def Notes (plain : ExceptT Error (StateM σ) α) (noted : ExceptT Error (StateM (σ × List Call)) α)
    (holds : List Call → Except Error α → Prop) : Prop :=
  ∀ s log, ∃ calls,
    exec noted (s, log) = ((exec plain s).1, (exec plain s).2, log ++ calls) ∧
      holds calls (exec plain s).1

namespace Notes

theorem ofExcept (r : Except Error α) :
    Notes (σ := σ) (MonadExcept.ofExcept r) (MonadExcept.ofExcept r)
      fun calls r' => calls = [] ∧ r' = r := by
  intro s log
  exact ⟨[], by simp, rfl, by simp⟩

theorem call (change : Visit → ExceptT Error (StateM σ) Formula) (visit : Visit) :
    Notes (change visit) (logged change visit) fun calls r => calls = [⟨visit, r⟩] := by
  intro s log
  exact ⟨[⟨visit, (exec (change visit) s).1⟩], rfl, rfl⟩

theorem map (f : α → β) {x : ExceptT Error (StateM σ) α}
    {x' : ExceptT Error (StateM (σ × List Call)) α} {holds : List Call → Except Error α → Prop}
    (h : Notes x x' holds) :
    Notes (f <$> x) (f <$> x') fun calls r => ∃ r', r = r'.map f ∧ holds calls r' := by
  intro s log
  obtain ⟨calls, run, fact⟩ := h s log
  exact ⟨calls, by simp [run], (exec x s).1, by simp, fact⟩

theorem bind {x : ExceptT Error (StateM σ) α} {x' : ExceptT Error (StateM (σ × List Call)) α}
    {k : α → ExceptT Error (StateM σ) β} {k' : α → ExceptT Error (StateM (σ × List Call)) β}
    {first : List Call → Except Error α → Prop} {next : α → List Call → Except Error β → Prop}
    {both : List Call → Except Error β → Prop}
    (head : Notes x x' first) (tail : ∀ a, Notes (k a) (k' a) (next a))
    (stop : ∀ calls e, first calls (.error e) → both calls (.error e))
    (go : ∀ calls later a r, first calls (.ok a) → next a later r → both (calls ++ later) r) :
    Notes (x >>= k) (x' >>= k') both := by
  intro s log
  obtain ⟨calls, run, fact⟩ := head s log
  rcases plain : exec x s with ⟨r, s'⟩
  rw [plain] at run fact
  cases r with
  | ok a =>
    obtain ⟨later, run', fact'⟩ := tail a s' (log ++ calls)
    refine ⟨calls ++ later, ?_, ?_⟩
    · rw [exec_bind_ok run, exec_bind_ok plain, run', List.append_assoc]
    · rw [exec_bind_ok plain]
      exact go calls later a _ fact fact'
  | error e =>
    refine ⟨calls, ?_, ?_⟩
    · rw [exec_bind_error run, exec_bind_error plain]
    · rw [exec_bind_error plain]
      exact stop calls e fact

end Notes

namespace Formula

/-- The nodes below and at `address`, each after its parts. -/
def postorderFrom (address : List Position) (parent : Option Formula) (formula : Formula) :
    List Visit :=
  (formula.children.attach.flatMap fun child =>
    postorderFrom (child.1.1 :: address) (some formula) child.1.2) ++ [⟨formula, address, parent⟩]
termination_by formula
decreasing_by exact sizeOf_child_lt child.2

def postorder (formula : Formula) : List Visit :=
  formula.postorderFrom [] none

theorem postorderFrom_eq (address : List Position) (parent : Option Formula) (formula : Formula) :
    formula.postorderFrom address parent =
      (formula.children.flatMap fun child =>
        child.2.postorderFrom (child.1 :: address) (some formula)) ++
        [⟨formula, address, parent⟩] := by
  rw [postorderFrom]
  congr 1
  exact (List.flatMap_subtype (g := fun child : Position × Formula =>
    child.2.postorderFrom (child.1 :: address) (some formula)) fun _ _ => rfl).trans
      (by rw [List.unattach_attach])

/-- The nodes are those that a walk meets, each once. -/
theorem postorderFrom_perm (address : List Position) (parent : Option Formula)
    (formula : Formula) :
    (formula.postorderFrom address parent).Perm (formula.visitsFrom address parent) := by
  rw [postorderFrom_eq, visitsFrom_eq]
  refine (List.perm_append_singleton _ _).trans (List.Perm.cons _ ?_)
  exact List.Perm.flatMap_left _ fun child mem =>
    postorderFrom_perm (child.1 :: address) (some formula) child.2
termination_by formula
decreasing_by exact sizeOf_child_lt mem

def NodeLog (address : List Position) (parent : Option Formula) (formula : Formula)
    (calls : List Call) (r : Except Error Formula) : Prop :=
  Followed (formula.postorderFrom address parent) calls r ∧
    ∀ result, r = .ok result → ∃ before visit, calls = before ++ [⟨visit, .ok result⟩] ∧
      visit.address = address ∧ visit.parent = parent

def PartOf (address : List Position) (self : Formula) (calls : List Call)
    (child : Position × Formula) (part : Formula) : Prop :=
  ∃ call ∈ calls, call.visit.address = child.1 :: address ∧ call.visit.parent = some self ∧
    call.answer = .ok part

def PartsLog (address : List Position) (self : Formula) (children : List (Position × Formula))
    (calls : List Call) (r : Except Error (List Formula)) : Prop :=
  Followed
      (children.flatMap fun child => child.2.postorderFrom (child.1 :: address) (some self)) calls r ∧
    ∀ parts, r = .ok parts → List.Forall₂ (PartOf address self calls) children parts

theorem PartOf.append_left {address : List Position} {self : Formula} {calls later : List Call}
    {child : Position × Formula} {part : Formula} (h : PartOf address self calls child part) :
    PartOf address self (later ++ calls) child part := by
  obtain ⟨call, mem, rest⟩ := h
  exact ⟨call, List.mem_append_right later mem, rest⟩

theorem notes_parts (change : Visit → ExceptT Error (StateM σ) Formula) (address : List Position)
    (self : Formula) {children : List (Position × Formula)}
    (h : ∀ child ∈ children,
      Notes (child.2.rewrite change (child.1 :: address) (some self))
        (child.2.rewrite (logged change) (child.1 :: address) (some self))
        (NodeLog (child.1 :: address) (some self) child.2)) :
    Notes (children.mapM fun child => child.2.rewrite change (child.1 :: address) (some self))
      (children.mapM fun child =>
        child.2.rewrite (logged change) (child.1 :: address) (some self))
      (PartsLog address self children) := by
  induction children with
  | nil =>
    intro s log
    refine ⟨[], by simp, .nil, ?_⟩
    intro parts same
    obtain rfl : [] = parts := by simpa using same
    exact .nil
  | cons child children ih =>
    have tail := ih fun other mem => h other (List.mem_cons_of_mem child mem)
    simp only [List.mapM_cons, bind_pure_comp]
    refine (h child List.mem_cons_self).bind (fun part => tail.map (List.cons part)) ?_ ?_
    · rintro calls e ⟨stopped, -⟩
      refine ⟨?_, fun parts same => by cases same⟩
      rw [List.flatMap_cons]
      exact Stopped.append stopped
    · rintro calls later part r ⟨done, last⟩ ⟨r, rfl, followed, parts⟩
      rw [PartsLog, List.flatMap_cons]
      cases r with
      | error e => exact ⟨Stopped.after done followed, fun parts same => by cases same⟩
      | ok rest =>
        refine ⟨List.rel_append done followed, ?_⟩
        intro parts' same
        cases same
        obtain ⟨before, visit, rfl, here⟩ := last part rfl
        refine .cons ⟨⟨visit, .ok part⟩, by simp, here.1, here.2, rfl⟩ ?_
        exact (parts rest rfl).imp fun child part h => h.append_left

/-- Putting a node together either spoils it or makes one call, which is the answer. -/
theorem notes_node (change : Visit → ExceptT Error (StateM σ) Formula) (address : List Position)
    (parent : Option Formula) (result : Except Error Formula) :
    Notes
      (do let current ← MonadExcept.ofExcept result
          change ⟨current, address, parent⟩)
      (do let current ← MonadExcept.ofExcept result
          logged change ⟨current, address, parent⟩)
      fun calls r => (∃ e, result = .error e ∧ r = .error e ∧ calls = []) ∨
        ∃ current, calls = [⟨⟨current, address, parent⟩, r⟩] := by
  refine (Notes.ofExcept result).bind
    (fun current => Notes.call change ⟨current, address, parent⟩) ?_ ?_
  · rintro calls e ⟨rfl, same⟩
    exact .inl ⟨e, same.symm, rfl, rfl⟩
  · rintro calls later current r ⟨rfl, -⟩ rfl
    exact .inr ⟨current, rfl⟩

theorem stopped_of_withParts_eq_error {address : List Position} {parent : Option Formula}
    {formula : Formula} {parts : List Formula} {calls : List Call} {e : Error}
    (shape : formula.Shape)
    (done : List.Forall₂ Answered (formula.children.flatMap fun child =>
      child.2.postorderFrom (child.1 :: address) (some formula)) calls)
    (partOf : List.Forall₂ (PartOf address formula calls) formula.children parts)
    (h : formula.withParts parts = .error e) :
    Stopped (formula.postorderFrom address parent) calls e := by
  obtain ⟨target, value, target', value', rfl, rfl, other, rfl⟩ :=
    withParts_eq_error shape partOf.length_eq.symm h
  obtain ⟨⟨call, mem, place, above, answer⟩, -⟩ := List.forall₂_cons.1 partOf
  rw [postorderFrom_eq]
  exact .spoiled done rfl mem place above answer other

theorem notes_rewrite {formula : Formula} (h : formula.WellFormed)
    (change : Visit → ExceptT Error (StateM σ) Formula) (address : List Position)
    (parent : Option Formula) :
    Notes (formula.rewrite change address parent) (formula.rewrite (logged change) address parent)
      (NodeLog address parent formula) := by
  induction h generalizing address parent with
  | intro formula shape _ ih =>
    rw [rewrite_eq, rewrite_eq]
    have parts := notes_parts change address formula fun child mem =>
      ih child mem (child.1 :: address) (some formula)
    refine parts.bind (fun parts => notes_node change address parent (formula.withParts parts)) ?_ ?_
    · rintro calls e ⟨stopped, -⟩
      refine ⟨?_, fun result same => by cases same⟩
      rw [postorderFrom_eq]
      exact Stopped.append stopped
    · rintro calls later parts r ⟨done, partOf⟩ (⟨e, spoiled, rfl, rfl⟩ | ⟨current, rfl⟩)
      -- All parts have answered, but the node cannot be put together and is never called.
      · rw [List.append_nil]
        refine ⟨?_, fun result same => by cases same⟩
        exact stopped_of_withParts_eq_error shape done (partOf parts rfl) spoiled
      · have here : Call.At ⟨⟨current, address, parent⟩, r⟩ ⟨formula, address, parent⟩ := ⟨rfl, rfl⟩
        refine ⟨?_, ?_⟩
        · rw [postorderFrom_eq]
          refine Followed.after done ?_
          cases r with
          | ok result => exact .cons ⟨here, result, rfl⟩ .nil
          | error e => exact Stopped.refused .nil here rfl
        · rintro result rfl
          exact ⟨calls, ⟨current, address, parent⟩, rfl, rfl, rfl⟩

theorem Stopped.missing_answered {plan : List Visit} {calls : List Call} {kind : Kind}
    {position : Position} (h : Stopped plan calls (.missingReplacement kind position)) :
    ∃ call ∈ calls, call.answer = .error (.missingReplacement kind position) := by
  cases h with
  | refused before here failed => exact ⟨_, by simp, failed⟩

/-- A transformation is the plain recursion, whichever parts it notices to be unchanged. It calls the
changing function once for each node of the formula as it was, at its place, in post-order, up to
the first failure. A failure is the answer of the last call or a new target that is no symbol, so a
missing replacement is never one of its own. -/
theorem transform_one_pass {formula : Formula} (h : formula.WellFormed)
    (change : Visit → ExceptT Error (StateM σ) Formula) :
    formula.transform change = formula.rewrite change [] none ∧
      (∀ reuse, formula.transformAt reuse change [] none = formula.transform change) ∧
      formula.postorder.Perm formula.visits ∧
      ∀ s, ∃ calls,
        exec (formula.transform (logged change)) (s, []) =
            ((exec (formula.transform change) s).1, (exec (formula.transform change) s).2, calls) ∧
          Followed formula.postorder calls (exec (formula.transform change) s).1 ∧
          (∀ result, (exec (formula.transform change) s).1 = .ok result →
            calls.getLast?.map Call.answer = some (.ok result)) ∧
          ∀ kind position,
            (exec (formula.transform change) s).1 = .error (.missingReplacement kind position) →
              ∃ call ∈ calls, call.answer = .error (.missingReplacement kind position) := by
  have plain : formula.transform change = formula.rewrite change [] none :=
    transformAt_eq_rewrite h _ change [] none
  have noted : formula.transform (logged change) = formula.rewrite (logged change) [] none :=
    transformAt_eq_rewrite h _ (logged change) [] none
  refine ⟨plain, fun reuse => ?_, postorderFrom_perm [] none formula, fun s => ?_⟩
  · rw [plain, transformAt_eq_rewrite h]
  · rw [plain, noted]
    obtain ⟨calls, run, followed, last⟩ := notes_rewrite h change [] none s []
    refine ⟨calls, run, followed, ?_, ?_⟩
    · intro result same
      obtain ⟨before, visit, rfl, -⟩ := last result same
      simp
    · intro kind position same
      rw [same] at followed
      exact Stopped.missing_answered followed

/-- Brackets around every symbol, counting the calls, spoil an assignment before it is called. -/
theorem transform_one_pass_bracketed_target :
    (assignTo "x" (.symbol "a")).WellFormed ∧
      exec ((assignTo "x" (.symbol "a")).transform fun visit => do
        modify (· + 1)
        match visit.formula with
        | .symbol name => pure (.parenthesis (.symbol name))
        | other => pure other) 0 = (.error (.invalidArgument (.target .parenthesis)), 2) := by
  have wellFormed : (assignTo "x" (.symbol "a")).WellFormed := by
    refine .intro _ rfl fun child mem => ?_
    simp only [assignTo, children, List.mem_cons, List.not_mem_nil, or_false] at mem
    rcases mem with rfl | rfl
    · exact .intro _ trivial (by simp [children])
    · exact .intro _ trivial (by simp [children])
  refine ⟨wellFormed, ?_⟩
  rw [(transform_one_pass wellFormed _).1]
  simp [assignTo, rewrite, exec_bind, checkedAssignment, kind]

end Formula

end FormulaTree

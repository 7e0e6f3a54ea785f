import FormulaTree.Proofs.Formula.Calls
import FormulaTree.Proofs.Formula.Frame

set_option autoImplicit false

namespace FormulaTree.Formula

variable {σ : Type}

def loggedPart (replace : Position → Formula → Formula → ExceptT Error (StateM σ) Formula)
    (position : Position) (part parent : Formula) :
    ExceptT Error (StateM (σ × List Call)) Formula :=
  logged (fun visit => replace position visit.formula parent) ⟨part, [position], some parent⟩

def required (parent : Kind) (position : Position) : Option Formula → Except Error Formula
  | some part => .ok part
  | none => .error (.missingReplacement parent position)

def requiring (choose : Position → Formula → Formula → StateM σ (Option Formula))
    (position : Position) (part parent : Formula) : ExceptT Error (StateM σ) Formula :=
  ExceptT.mk (required parent.kind position <$> choose position part parent)

/-- The calls of a rebuilding of a formula, and what comes out of it. -/
inductive Rebuilding (formula : Formula) : List Call → Except Error Formula → Prop where
  /-- The last call fails; all calls before it have answered. -/
  | stopped {before : List Call} {visit : Visit} {rest : List Visit} {e : Error}
      (order : formula.partVisits = before.map Call.visit ++ visit :: rest)
      (answered : ∀ call ∈ before, ∃ part, call.answer = .ok part) :
      Rebuilding formula (before ++ [⟨visit, .error e⟩]) (.error e)
  | rebuilt {calls : List Call} {parts : List Formula} {result : Formula}
      (order : calls.map Call.visit = formula.partVisits)
      (answers : calls.map Call.answer = parts.map .ok)
      (target : formula.kind = .assignment → ∀ part ∈ parts.head?, part.kind = .symbol)
      (frame : result.frame = formula.frame)
      (positions : result.children.map Prod.fst = formula.children.map Prod.fst)
      (parts : result.children.map Prod.snd = parts) :
      Rebuilding formula calls (.ok result)
  /-- All calls have answered, but the new target of an assignment is not a symbol. -/
  | refused {calls : List Call} {target : Formula} {parts : List Formula}
      (order : calls.map Call.visit = formula.partVisits)
      (answers : calls.map Call.answer = (target :: parts).map .ok)
      (assignment : formula.kind = .assignment) (other : target.kind ≠ .symbol) :
      Rebuilding formula calls (.error (.invalidArgument (.target target.kind)))

def Asked (plan : List Visit) (calls : List Call) : Except Error (List Formula) → Prop
  | .ok parts => calls.map Call.visit = plan ∧ calls.map Call.answer = parts.map .ok
  | .error e => ∃ before visit rest, calls = before ++ [⟨visit, .error e⟩] ∧
      plan = before.map Call.visit ++ visit :: rest ∧
      ∀ call ∈ before, ∃ part, call.answer = .ok part

theorem notes_asked (replace : Position → Formula → Formula → ExceptT Error (StateM σ) Formula)
    (parent : Formula) (children : List (Position × Formula)) :
    Notes (children.mapM fun child => replace child.1 child.2 parent)
      (children.mapM fun child => loggedPart replace child.1 child.2 parent)
      (Asked (children.map fun child => ⟨child.2, [child.1], some parent⟩)) := by
  induction children with
  | nil =>
    intro s log
    exact ⟨[], by simp, rfl, rfl⟩
  | cons child children ih =>
    have first := Notes.call (fun visit => replace child.1 visit.formula parent)
      ⟨child.2, [child.1], some parent⟩
    simp only [List.mapM_cons, bind_pure_comp]
    refine first.bind (fun part => ih.map (List.cons part)) ?_ ?_
    · rintro calls e rfl
      exact ⟨[], _, _, rfl, rfl, by simp⟩
    · rintro calls later part r rfl ⟨r, rfl, asked⟩
      cases r with
      | ok parts => exact ⟨by simp [asked.1], by simp [asked.2]⟩
      | error e =>
        obtain ⟨before, visit, rest, rfl, order, answered⟩ := asked
        refine ⟨⟨⟨child.2, [child.1], some parent⟩, .ok part⟩ :: before, visit, rest, rfl, ?_, ?_⟩
        · rw [List.map_cons, order]
          rfl
        · exact List.forall_mem_cons.2 ⟨⟨part, rfl⟩, answered⟩

theorem rebuilding_withParts {formula : Formula} (shape : formula.Shape) {calls : List Call}
    {parts : List Formula} (order : calls.map Call.visit = formula.partVisits)
    (answers : calls.map Call.answer = parts.map .ok) :
    Rebuilding formula calls (formula.withParts parts) := by
  have count : parts.length = formula.children.length := by
    have visits := congrArg List.length order
    have given := congrArg List.length answers
    simp only [List.length_map, partVisits] at visits given
    omega
  cases made : formula.withParts parts with
  | ok result =>
    obtain ⟨new, positions⟩ := children_withParts count made
    refine .rebuilt order answers ?_ (frame_withParts shape count made) positions new
    intro assignment
    cases formula with
    | assignment target value =>
      obtain ⟨target', value', rfl⟩ := List.length_eq_two.1 count
      obtain ⟨rfl, symbol⟩ := checkedAssignment_shape made
      intro part first
      obtain rfl : target' = part := by simpa using first
      exact symbol
    | _ => cases assignment
  | error e =>
    obtain ⟨target, value, target', value', rfl, rfl, other, rfl⟩ :=
      withParts_eq_error shape count made
    exact .refused order answers rfl other

theorem notes_tryRebuild {formula : Formula} (shape : formula.Shape)
    (replace : Position → Formula → Formula → ExceptT Error (StateM σ) Formula) :
    Notes (formula.tryRebuild replace) (formula.tryRebuild (loggedPart replace))
      (Rebuilding formula) := by
  rw [tryRebuild, tryRebuild, replaceParts_eq, replaceParts_eq]
  refine (notes_asked replace formula formula.children).bind
    (fun parts => Notes.ofExcept (formula.withParts parts)) ?_ ?_
  · rintro calls e ⟨before, visit, rest, rfl, order, answered⟩
    exact .stopped order answered
  · rintro calls later parts r ⟨order, answers⟩ ⟨rfl, rfl⟩
    rw [List.append_nil]
    exact rebuilding_withParts shape order answers

theorem rebuild_lift (formula : Formula)
    (choose : Position → Formula → Formula → StateM σ (Option Formula)) :
    (formula.rebuild fun position part parent => ExceptT.lift (choose position part parent))
      = formula.tryRebuild (requiring choose) := by
  rw [rebuild]
  congr 1
  funext position part parent
  refine ExceptT.ext ?_
  rw [requiring, ExceptT.run_bind, ExceptT.run_lift, map_eq_pure_bind, bind_assoc]
  simp only [pure_bind, ExceptT.run_mk, map_eq_pure_bind]
  refine bind_congr fun found => ?_
  cases found <;> rfl

theorem rebuild_pure (formula : Formula) (choose : Position → Formula → Option Formula) :
    (formula.rebuild fun position part _ => (pure (choose position part) : Except Error _))
      = formula.tryRebuild fun position part _ =>
        required formula.kind position (choose position part) := rfl

theorem required_bind (parent : Kind) (position : Position) (found : Option Formula)
    (next : Formula → Option Formula) :
    (required parent position found >>= fun part => required parent position (next part))
      = required parent position (found >>= next) := by
  cases found <;> rfl

theorem exists_parts_of_tryRebuild {formula result : Formula}
    {replace : Position → Formula → Except Error Formula}
    (made : (formula.tryRebuild fun position part _ => replace position part) = .ok result) :
    ∃ parts, (formula.children.mapM fun child => replace child.1 child.2) = .ok parts ∧
      parts.length = formula.children.length ∧ formula.withParts parts = .ok result := by
  rw [tryRebuild, replaceParts_eq] at made
  obtain ⟨parts, asked, made⟩ := bind_eq_ok.1 made
  rw [ofExcept_eq] at made
  exact ⟨parts, asked, (mapM_eq_ok.1 asked).length_eq.symm, made⟩

theorem mapM_replaced {replace next : Position → Formula → Except Error Formula}
    {children children' : List (Position × Formula)} {parts : List Formula}
    (asked : (children.mapM fun child => replace child.1 child.2) = .ok parts)
    (positions : children'.map Prod.fst = children.map Prod.fst)
    (new : children'.map Prod.snd = parts) :
    (children'.mapM fun child => next child.1 child.2)
      = children.mapM fun child => replace child.1 child.2 >>= next child.1 := by
  induction children generalizing children' parts with
  | nil =>
    obtain rfl : children' = [] := by simpa using positions
    rfl
  | cons child children ih =>
    cases children' with
    | nil => cases positions
    | cons child' children' =>
      subst new
      obtain ⟨first, later⟩ := List.forall₂_cons.1 (mapM_eq_ok.1 asked)
      have here : child'.1 = child.1 := (List.cons.inj positions).1
      have rest := ih (mapM_eq_ok.2 later) (List.cons.inj positions).2 rfl
      rw [List.mapM_cons, List.mapM_cons, rest, here, first, ok_bind]

theorem kind_of_tryRebuild {formula result : Formula} (shape : formula.Shape)
    {replace : Position → Formula → Except Error Formula}
    (made : (formula.tryRebuild fun position part _ => replace position part) = .ok result) :
    result.kind = formula.kind := by
  obtain ⟨parts, -, count, made⟩ := exists_parts_of_tryRebuild made
  exact kind_eq_of_frame_eq (frame_withParts shape count made)

theorem tryRebuild_tryRebuild {formula result : Formula} (shape : formula.Shape)
    {replace : Position → Formula → Except Error Formula}
    (made : (formula.tryRebuild fun position part _ => replace position part) = .ok result)
    (next : Position → Formula → Except Error Formula) :
    (result.tryRebuild fun position part _ => next position part)
      = formula.tryRebuild fun position part _ => replace position part >>= next position := by
  obtain ⟨parts, asked, count, made⟩ := exists_parts_of_tryRebuild made
  obtain ⟨new, positions⟩ := children_withParts count made
  have frames : formula.frame = result.frame := (frame_withParts shape count made).symm
  rw [tryRebuild, tryRebuild, replaceParts_eq, replaceParts_eq, mapM_replaced asked positions new]
  refine mapM_bind_congr fun others same => ?_
  rw [withParts_congr frames same]

theorem tryRebuild_self {formula : Formula} (shape : formula.Shape) :
    (formula.tryRebuild fun _ part _ => (pure part : Except Error Formula)) = .ok formula := by
  have kept : (formula.children.mapM fun child => (pure child.2 : Except Error Formula))
      = .ok (formula.children.map Prod.snd) := by
    rw [mapM_eq_ok, List.forall₂_map_right_iff]
    exact List.forall₂_same.2 fun child _ => rfl
  rw [tryRebuild, replaceParts_eq, kept, ok_bind, withParts_children shape]
  rfl

/-- A rebuilding calls the replacing function for the parts in their order up to the first failure,
which it returns, and gives the formula with the answers for its parts, unless the new target of an
assignment is no symbol. A missing answer is a failure that names the kind of the formula and the
position. With the parts themselves as answers the formula comes back, and rebuilding the result of
a rebuilding is one rebuilding with both replacements. -/
theorem rebuild_follows_children {formula : Formula} (shape : formula.Shape) :
    (∀ (replace : Position → Formula → Formula → ExceptT Error (StateM σ) Formula) (s : σ),
      ∃ calls,
        exec (formula.tryRebuild (loggedPart replace)) (s, []) =
            ((exec (formula.tryRebuild replace) s).1, (exec (formula.tryRebuild replace) s).2,
              calls) ∧
          Rebuilding formula calls (exec (formula.tryRebuild replace) s).1) ∧
      (∀ choose : Position → Formula → Formula → StateM σ (Option Formula),
        (formula.rebuild fun position part parent => ExceptT.lift (choose position part parent))
          = formula.tryRebuild (requiring choose)) ∧
      (formula.tryRebuild fun _ part _ => (pure part : Except Error Formula)) = .ok formula ∧
      (formula.rebuild fun _ part _ => (pure (some part) : Except Error _)) = .ok formula ∧
      (∀ (replace next : Position → Formula → Except Error Formula) (result : Formula),
        (formula.tryRebuild fun position part _ => replace position part) = .ok result →
          (result.tryRebuild fun position part _ => next position part)
            = formula.tryRebuild fun position part _ => replace position part >>= next position) ∧
      ∀ (choose next : Position → Formula → Option Formula) (result : Formula),
        (formula.rebuild fun position part _ => (pure (choose position part) : Except Error _))
            = .ok result →
          (result.rebuild fun position part _ => (pure (next position part) : Except Error _))
            = formula.rebuild fun position part _ =>
              (pure (choose position part >>= next position) : Except Error _) := by
  refine ⟨fun replace s => ?_, rebuild_lift formula, tryRebuild_self shape, ?_, ?_, ?_⟩
  · obtain ⟨calls, run, fact⟩ := notes_tryRebuild shape replace s []
    exact ⟨calls, run, fact⟩
  · have answers := rebuild_pure formula fun _ part => some part
    exact answers.trans (tryRebuild_self shape)
  · intro replace next result made
    exact tryRebuild_tryRebuild shape made next
  · intro choose next result made
    rw [rebuild_pure] at made
    have twice := tryRebuild_tryRebuild shape made fun position part =>
      required formula.kind position (next position part)
    rw [rebuild_pure, rebuild_pure, kind_of_tryRebuild shape made, twice]
    simp only [required_bind]

def bracketsButElse (position : Position) (part _parent : Formula) :
    StateM Nat (Option Formula) := do
  modify (· + 1)
  pure (if position = .elseBlock then none else some (.parenthesis part))

theorem rebuild_follows_children_missing_else :
    (conditional [.symbol "c"] [.symbol "x", .symbol "y"]).Shape ∧
      exec ((conditional [.symbol "c"] [.symbol "x", .symbol "y"]).rebuild
          fun position part parent => ExceptT.lift (bracketsButElse position part parent)) 0
        = (.error (.missingReplacement .conditional .elseBlock), 3) ∧
      ∃ calls, Rebuilding (conditional [.symbol "c"] [.symbol "x", .symbol "y"]) calls
        (.error (.missingReplacement .conditional .elseBlock)) := by
  have shape : (conditional [.symbol "c"] [.symbol "x", .symbol "y"]).Shape := by
    simp [Shape]
  obtain ⟨follows, missing, -⟩ := rebuild_follows_children (σ := Nat) shape
  have run : exec ((conditional [.symbol "c"] [.symbol "x", .symbol "y"]).tryRebuild
      (requiring bracketsButElse)) 0
        = (.error (.missingReplacement .conditional .elseBlock), 3) := rfl
  obtain ⟨calls, -, fact⟩ := follows (requiring bracketsButElse) 0
  rw [run] at fact
  rw [missing]
  exact ⟨shape, run, calls, fact⟩

end FormulaTree.Formula

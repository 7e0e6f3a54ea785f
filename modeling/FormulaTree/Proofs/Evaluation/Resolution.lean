import FormulaTree.Proofs.Evaluation.Setting
import FormulaTree.Proofs.Formula.Nodes
import FormulaTree.Proofs.Formula.Sound

set_option autoImplicit false

namespace FormulaTree

def Library.firstUndefined (library : Library) (names : List String) : Option String :=
  names.find? fun name => (library.function? name).isNone

namespace Formula

mutual

/-- The functions that compiling resolves, in its order. The target of an assignment is not
compiled; being a symbol, it has no function. -/
def callees : Formula → List String
  | .constant _ => []
  | .symbol _ => []
  | .assignment _ value => callees value
  | .block statements => calleesOfStatements statements
  | .operation _ function operands => function :: calleesOfAll operands
  | .parenthesis content => callees content
  | .call function arguments => function :: calleesOfAll arguments
  | .conditional conditions blocks => calleesOfAll conditions ++ calleesOfAll blocks

def calleesOfAll : List Formula → List String
  | [] => []
  | formula :: rest => callees formula ++ calleesOfAll rest

def calleesOfStatements : List (Formula × Bool) → List String
  | [] => []
  | (statement, _) :: rest => callees statement ++ calleesOfStatements rest

end

theorem calleesOfAll_eq_flatMap (formulas : List Formula) :
    calleesOfAll formulas = formulas.flatMap callees := by
  induction formulas with
  | nil => rfl
  | cons formula rest ih => rw [calleesOfAll, ih, List.flatMap_cons]

theorem calleesOfStatements_eq_flatMap (statements : List (Formula × Bool)) :
    calleesOfStatements statements = (statements.map Prod.fst).flatMap callees := by
  induction statements with
  | nil => rfl
  | cons entry rest ih => rw [calleesOfStatements, ih, List.map_cons, List.flatMap_cons]

theorem functions_symbol {formula : Formula} (h : formula.kind = .symbol) :
    formula.functions = [] := by
  cases formula with
  | symbol name => rw [functions_eq]; rfl
  | _ => cases h

/-- The callees of a well-formed formula are the functions of its nodes, each as often as there are
nodes for it. -/
theorem callees_perm {formula : Formula} (h : formula.WellFormed) :
    formula.callees.Perm formula.functions := by
  induction h with
  | intro formula shape _ ih =>
    have parts : ((formula.children.map Prod.snd).flatMap callees).Perm
        (formula.children.flatMap fun child => child.2.functions) := by
      rw [List.flatMap_map]
      exact List.Perm.flatMap_left _ ih
    rw [functions_eq]
    cases formula with
    | constant value => exact .refl _
    | symbol name => exact .refl _
    | assignment target value =>
      rw [callees]
      have value_callees := ih (.value, value) (by simp [children])
      simpa [children, function?, functions_symbol shape] using value_callees
    | block statements =>
      rw [callees, calleesOfStatements_eq_flatMap]
      rw [children, map_snd_numbered] at parts
      exact parts
    | operation op function operands =>
      rw [callees, calleesOfAll_eq_flatMap]
      rw [children, map_snd_numbered] at parts
      exact parts.cons function
    | parenthesis content =>
      rw [callees]
      simpa [children, function?] using parts
    | call function arguments =>
      rw [callees, calleesOfAll_eq_flatMap]
      rw [children, map_snd_numbered] at parts
      exact parts.cons function
    | conditional conditions blocks =>
      rw [callees, calleesOfAll_eq_flatMap, calleesOfAll_eq_flatMap, ← List.flatMap_append]
      exact ((branches_perm 0 shape.2).flatMap_right callees).symm.trans parts

end Formula

/-- The result is a success if the library has all the functions, and else names the first that it
does not have. -/
def Library.Resolves {α : Type} (library : Library) (names : List String) (r : Except Error α) :
    Prop :=
  match library.firstUndefined names with
  | some name => r = .error (.unknownFunction name)
  | none => ∃ a, r = .ok a

namespace Library.Resolves

variable {α β : Type} {library : Library} {names names' : List String}

theorem ok (a : α) : library.Resolves [] (.ok a) :=
  ⟨a, rfl⟩

theorem resolve (name : String) : library.Resolves [name] (library.resolve name) := by
  unfold Resolves firstUndefined Library.resolve
  cases found : library.function? name with
  | none => simp [found]
  | some f => simp [found]

theorem bind {r : Except Error α} {f : α → Except Error β} (h : library.Resolves names r)
    (next : ∀ a, library.Resolves names' (f a)) : library.Resolves (names ++ names') (r >>= f) := by
  unfold Resolves at h ⊢
  rw [firstUndefined, List.find?_append]
  cases first : names.find? fun name => (library.function? name).isNone with
  | some name =>
    rw [firstUndefined, first] at h
    obtain rfl : r = .error (.unknownFunction name) := h
    rfl
  | none =>
    rw [firstUndefined, first] at h
    obtain ⟨a, rfl⟩ := h
    exact next a

theorem map {r : Except Error α} (f : α → β) (h : library.Resolves names r) :
    library.Resolves names (r >>= fun a => .ok (f a)) := by
  have both := h.bind fun a => ok (f a)
  rwa [List.append_nil] at both

end Library.Resolves

namespace Formula

variable {library : Library} {params : List String}

theorem resolves_all {formulas : List Formula}
    (h : ∀ formula ∈ formulas, library.Resolves formula.callees (formula.compile library params)) :
    library.Resolves (calleesOfAll formulas) (compileAll library params formulas) := by
  induction formulas with
  | nil => exact .ok []
  | cons formula rest ih =>
    obtain ⟨first, later⟩ := List.forall_mem_cons.1 h
    exact first.bind fun compiled => (ih later).map (List.cons compiled)

theorem resolves_statements {statements : List (Formula × Bool)}
    (h : ∀ entry ∈ statements, library.Resolves entry.1.callees (entry.1.compile library params)) :
    library.Resolves (calleesOfStatements statements)
      (compileStatements library params statements) := by
  induction statements with
  | nil => exact .ok []
  | cons entry rest ih =>
    obtain ⟨first, later⟩ := List.forall_mem_cons.1 h
    exact first.bind fun compiled => (ih later).map (List.cons (compiled, entry.2))

/-- A node with a function resolves it before it compiles its operands. -/
theorem resolves_call {function : String} {operands : List Formula}
    (h : ∀ operand ∈ operands,
      library.Resolves operand.callees (operand.compile library params)) :
    library.Resolves (function :: calleesOfAll operands) (do
      let f ← library.resolve function
      let operands ← compileAll library params operands
      .ok (.apply f operands) : Except Error Compiled) :=
  (Library.Resolves.resolve function).bind fun f => (resolves_all h).map (Compiled.apply f)

/-- Compiling a formula succeeds if the library has all of its callees, and otherwise fails at the
first of them that the library does not have. -/
theorem compile_resolves (formula : Formula) :
    library.Resolves formula.callees (formula.compile library params) := by
  induction formula with
  | constant value => exact .ok _
  | symbol name =>
    rw [compile]
    split
    · exact .ok _
    · exact .ok _
  | assignment target value _ ih => exact ih.map _
  | block statements ih => exact (resolves_statements ih).map _
  | operation op function operands ih => exact resolves_call ih
  | parenthesis content ih => exact ih
  | call function arguments ih => exact resolves_call ih
  | conditional conditions blocks ihc ihb =>
    exact (resolves_all ihc).bind fun tests => (resolves_all ihb).map (Compiled.choose tests)

theorem compile_eq_error_iff {formula : Formula} {e : Error} :
    formula.compile library params = .error e ↔
      ∃ name, library.firstUndefined formula.callees = some name ∧ e = .unknownFunction name := by
  have resolved : library.Resolves formula.callees (formula.compile library params) :=
    compile_resolves formula
  unfold Library.Resolves at resolved
  cases first : library.firstUndefined formula.callees with
  | some name =>
    rw [first] at resolved
    rw [resolved]
    simpa using eq_comm
  | none =>
    rw [first] at resolved
    obtain ⟨compiled, same⟩ := resolved
    simp [same]

theorem compile_isOk_iff {formula : Formula} :
    (∃ compiled, formula.compile library params = .ok compiled) ↔
      ∀ name ∈ formula.callees, ∃ f, library.function? name = some f := by
  have resolved : library.Resolves formula.callees (formula.compile library params) :=
    compile_resolves formula
  unfold Library.Resolves at resolved
  cases first : library.firstUndefined formula.callees with
  | some name =>
    rw [first] at resolved
    have missing : library.function? name = none := by simpa using List.find?_some first
    constructor
    · rintro ⟨compiled, same⟩
      rw [resolved] at same
      cases same
    · intro all
      obtain ⟨f, found⟩ := all name (List.mem_of_find?_eq_some first)
      rw [missing] at found
      cases found
  | none =>
    rw [first] at resolved
    refine iff_of_true resolved fun name mem => ?_
    have there := List.find?_eq_none.1 first name mem
    exact Option.ne_none_iff_exists'.1 (by simpa using there)

end Formula

/-- Compiling a formula fails exactly where the library lacks one of the functions of its nodes, in
branches that would never run too, and names the first of them that is missing. An evaluator then
leaves the scope as it is. -/
theorem compile_fails_at_first {formula : Formula} (h : formula.WellFormed) (library : Library)
    (params : List String) :
    formula.callees.Perm formula.functions ∧
      (∀ e, formula.compile library params = .error e ↔
        ∃ name, library.firstUndefined formula.callees = some name ∧
          e = .unknownFunction name) ∧
      ((∃ compiled, formula.compile library params = .ok compiled) ↔
        ∀ name ∈ formula.functions, ∃ f, library.function? name = some f) ∧
      ∀ context scope name, library.firstUndefined formula.callees = some name →
        Evaluator.evaluate ⟨library, context⟩ formula scope
          = (.error (.unknownFunction name), scope) := by
  have same := Formula.callees_perm h
  refine ⟨same, fun e => Formula.compile_eq_error_iff, ?_, fun context scope name first => ?_⟩
  · rw [Formula.compile_isOk_iff]
    exact forall_congr' fun name => imp_congr_left same.mem_iff
  · have failed : formula.compile library [] = .error (.unknownFunction name) :=
      Formula.compile_eq_error_iff.2 ⟨name, first, rfl⟩
    rw [Evaluator.evaluate_eq_runIn, Formula.runIn, failed]

/-- The library has the function of the first condition alone. That of the second one is missed
before that of the first block, and the assignment before all of them sets nothing. -/
theorem compile_fails_at_first_condition :
    ∃ formula library, formula = .block [(.assignTo "x" (.constant .null), true),
        (.conditional [.call "a" [], .call "c" []] [.call "b" [], .symbol "x"], true)] ∧
      library = Library.define {} ⟨"a", 0, fun _ => .ok (.bool true)⟩ ∧ formula.WellFormed ∧
      formula.callees = ["a", "c", "b"] ∧
      formula.compile library [] = .error (.unknownFunction "c") ∧
      Evaluator.evaluate ⟨library, {}⟩ formula ⟨[("y", .null)]⟩
        = (.error (.unknownFunction "c"), ⟨[("y", .null)]⟩) := by
  refine ⟨_, _, rfl, rfl, ?wellFormed, rfl, rfl,
    (compile_fails_at_first ?wellFormed _ []).2.2.2 {} _ "c" rfl⟩
  case wellFormed =>
    exact Formula.Sound.wellFormed (by simp [Formula.sound_block_iff, Formula.assignTo,
      Formula.sound_assignment_iff, Formula.sound_symbol, Formula.sound_constant_iff,
      Formula.sound_call_iff, Formula.sound_conditional_iff, Formula.Shape, Formula.kind,
      Value.Keyed])

end FormulaTree

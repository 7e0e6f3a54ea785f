import FormulaTree.Evaluation.Prelude
import FormulaTree.Proofs.Bindings

set_option autoImplicit false

namespace FormulaTree.Library

inductive Built : Library → Prop where
  | empty : Built {}
  | loadPrelude {library : Library} (earlier : Built library) : Built library.loadPrelude
  | define {library : Library} (earlier : Built library) (f : Builtin) : Built (library.define f)
  | defineConstant {library : Library} (earlier : Built library) (name : String) (value : Value) :
    Built (library.defineConstant name value)

def Named (library : Library) : Prop :=
  ∀ name f, library.function? name = some f → f.name = name

theorem Named.define {library : Library} (h : library.Named) (f : Builtin) :
    (library.define f).Named := by
  intro name g found
  rw [function?, Library.define, Bindings.get?_set] at found
  split at found
  · rename_i same
    cases found
    exact same
  · exact h name g found

theorem Named.defineConstant {library : Library} (h : library.Named) (name : String)
    (value : Value) : (library.defineConstant name value).Named :=
  h

theorem Named.loadPrelude {library : Library} (h : library.Named) : library.loadPrelude.Named := by
  have constants : (Prelude.constants.foldl (fun l pair => l.defineConstant pair.1 pair.2)
      library).Named :=
    List.foldlRecOn _ _ h fun _ named pair _ => named.defineConstant pair.1 pair.2
  exact List.foldlRecOn _ _ constants fun _ named f _ => named.define f

theorem function?_foldl_define_of_notMem {fs : List Builtin} {name : String}
    (h : name ∉ fs.map Builtin.name) (library : Library) :
    (fs.foldl define library).function? name = library.function? name := by
  induction fs generalizing library with
  | nil => rfl
  | cons f rest ih =>
    rw [List.map_cons, List.mem_cons, not_or] at h
    rw [List.foldl_cons, ih h.2, function?, define, Bindings.get?_set, if_neg (Ne.symm h.1)]
    rfl

theorem function?_foldl_define {fs : List Builtin} (distinct : (fs.map Builtin.name).Nodup)
    {f : Builtin} (mem : f ∈ fs) (library : Library) :
    (fs.foldl define library).function? f.name = some f := by
  induction fs generalizing library with
  | nil => cases mem
  | cons g rest ih =>
    obtain ⟨fresh, later⟩ := List.nodup_cons.1 distinct
    rw [List.foldl_cons]
    rcases List.mem_cons.1 mem with rfl | mem
    · rw [function?_foldl_define_of_notMem fresh, function?, define, Bindings.get?_set, if_pos rfl]
    · exact ih later mem _

theorem nodup_names_functions : (Prelude.functions.map Builtin.name).Nodup := by
  simp [Prelude.functions, Prelude.numeric1, Prelude.numeric2, Prelude.comparison,
    Prelude.equality, Prelude.negation, Prelude.conjunction, Prelude.disjunction,
    Prelude.decimalFunction, Prelude.complexFunction, Prelude.unitFunction, Prelude.matrixFunction]

/-- A library that the prelude has been loaded into has all functions of the prelude. -/
theorem function?_loadPrelude (library : Library) {f : Builtin} (mem : f ∈ Prelude.functions) :
    library.loadPrelude.function? f.name = some f := by
  unfold loadPrelude
  exact function?_foldl_define nodup_names_functions mem _

theorem Built.named {library : Library} (h : library.Built) : library.Named := by
  induction h with
  | empty => exact fun name f found => nomatch found
  | loadPrelude _ ih => exact ih.loadPrelude
  | define _ f ih => exact ih.define f
  | defineConstant _ name value ih => exact ih.defineConstant name value

end FormulaTree.Library

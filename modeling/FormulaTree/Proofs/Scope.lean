import FormulaTree.Evaluation.Scope
import FormulaTree.Proofs.Bindings

set_option autoImplicit false

namespace FormulaTree

theorem Bindings.get?_append {β : Type} (name : String) (first later : List (String × β)) :
    get? name (first ++ later) = (get? name first).or (get? name later) := by
  induction first with
  | nil => rfl
  | cons pair rest ih =>
    obtain ⟨key, value⟩ := pair
    by_cases same : key = name
    · simp [get?, same]
    · simp [get?, same, ih]

namespace Scope

def setAll (scope : Scope) (pairs : List (String × Value)) : Scope :=
  pairs.foldl (fun scope pair => scope.set pair.1 pair.2) scope

@[simp] theorem setAll_nil (scope : Scope) : scope.setAll [] = scope := rfl

@[simp] theorem setAll_cons (scope : Scope) (pair : String × Value)
    (rest : List (String × Value)) :
    scope.setAll (pair :: rest) = (scope.set pair.1 pair.2).setAll rest := rfl

theorem setAll_append (scope : Scope) (first later : List (String × Value)) :
    scope.setAll (first ++ later) = (scope.setAll first).setAll later :=
  List.foldl_append

theorem get?_set (scope : Scope) (name other : String) (value : Value) :
    (scope.set name value).get? other = if name = other then some value else scope.get? other :=
  Bindings.get?_set name other value scope.bindings

theorem get?_setAll (scope : Scope) (pairs : List (String × Value)) (name : String) :
    (scope.setAll pairs).get? name = (Bindings.get? name pairs.reverse).or (scope.get? name) := by
  induction pairs generalizing scope with
  | nil => rfl
  | cons pair rest ih =>
    rw [setAll_cons, ih, get?_set, List.reverse_cons, Bindings.get?_append, Option.or_assoc]
    congr 1
    by_cases same : pair.1 = name
    · simp [Bindings.get?, same]
    · simp [Bindings.get?, same]

theorem get?_setAll_of_notMem {scope : Scope} {pairs : List (String × Value)} {name : String}
    (h : name ∉ Bindings.names pairs) : (scope.setAll pairs).get? name = scope.get? name := by
  have none : Bindings.get? name pairs.reverse = none := by
    rw [Bindings.get?_eq_none_iff]
    simpa [Bindings.names] using h
  rw [get?_setAll, none, Option.none_or]

/-- Of two lists of pairs that share no name, either may be set first. -/
theorem get?_setAll_comm {first later : List (String × Value)}
    (apart : List.Disjoint (Bindings.names first) (Bindings.names later)) (scope : Scope)
    (name : String) :
    ((scope.setAll later).setAll first).get? name
      = ((scope.setAll first).setAll later).get? name := by
  by_cases mem : name ∈ Bindings.names first
  · have other : name ∉ Bindings.names later := fun mem' => apart mem mem'
    rw [get?_setAll, get?_setAll_of_notMem other, get?_setAll_of_notMem other, get?_setAll]
  · rw [get?_setAll_of_notMem mem, get?_setAll, get?_setAll, get?_setAll_of_notMem mem]

theorem ofList_eq_setAll (pairs : List (String × Value)) :
    ofList pairs = setAll {} pairs := by
  have folded (bindings : List (String × Value)) :
      (⟨pairs.foldl (fun bindings pair => Bindings.set pair.1 pair.2 bindings) bindings⟩ : Scope)
        = setAll ⟨bindings⟩ pairs := by
    induction pairs generalizing bindings with
    | nil => rfl
    | cons pair rest ih => exact ih _
  exact folded []

theorem mem_names_iff (scope : Scope) (name : String) :
    name ∈ scope.names ↔ ∃ value, scope.get? name = some value := by
  rw [← not_iff_not, ← Option.isSome_iff_exists, Option.not_isSome_iff_eq_none]
  exact (Bindings.get?_eq_none_iff name scope.bindings).symm

theorem names_set (scope : Scope) (name : String) (value : Value) :
    (scope.set name value).names
      = if name ∈ scope.names then scope.names else scope.names ++ [name] :=
  Bindings.names_set name value scope.bindings

theorem names_remove (scope : Scope) (name : String) :
    (scope.remove name).names = scope.names.erase name :=
  Bindings.names_remove name scope.bindings

@[simp] theorem names_clear (scope : Scope) : scope.clear.names = [] := rfl

@[simp] theorem get?_clear (scope : Scope) (name : String) : scope.clear.get? name = none := rfl

theorem get?_remove {scope : Scope} (h : scope.names.Nodup) (name other : String) :
    (scope.remove name).get? other = if name = other then none else scope.get? other :=
  Bindings.get?_remove h name other

theorem names_prefix_set (scope : Scope) (name : String) (value : Value) :
    scope.names <+: (scope.set name value).names := by
  rw [names_set]
  split
  · exact List.prefix_refl _
  · exact List.prefix_append _ _

theorem names_prefix_setAll (scope : Scope) (pairs : List (String × Value)) :
    scope.names <+: (scope.setAll pairs).names := by
  induction pairs generalizing scope with
  | nil => exact List.prefix_refl _
  | cons pair rest ih => exact (scope.names_prefix_set pair.1 pair.2).trans (ih _)

theorem nodup_names_set {scope : Scope} (h : scope.names.Nodup) (name : String) (value : Value) :
    (scope.set name value).names.Nodup := by
  rw [names_set]
  split
  · exact h
  · rename_i fresh
    exact h.append (List.nodup_singleton name) (List.disjoint_singleton.2 fresh)

theorem nodup_names_setAll {scope : Scope} (h : scope.names.Nodup)
    (pairs : List (String × Value)) : (scope.setAll pairs).names.Nodup := by
  induction pairs generalizing scope with
  | nil => exact h
  | cons pair rest ih => exact ih (nodup_names_set h pair.1 pair.2)

/-- The scopes have the same values, or none, for the known names. -/
def AgreeOn (known : String → Prop) (scope scope' : Scope) : Prop :=
  ∀ name, known name → scope.get? name = scope'.get? name

theorem AgreeOn.setAll {known : String → Prop} {scope scope' : Scope}
    (h : AgreeOn known scope scope') (pairs : List (String × Value)) :
    AgreeOn known (scope.setAll pairs) (scope'.setAll pairs) := by
  intro name mem
  rw [get?_setAll, get?_setAll, h name mem]

end Scope

end FormulaTree

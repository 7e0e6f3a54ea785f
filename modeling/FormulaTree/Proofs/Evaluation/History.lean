import FormulaTree.Proofs.Evaluation.Assignments
import FormulaTree.Proofs.Value.Equality
import Mathlib.Order.Lattice.Nat

/-!
# The history of a scope

Whatever is done to a scope comes down to events of three kinds: a variable is set, a variable is
removed, all variables are cleared. The history of a scope says everything about it: a variable has
the value that it was last set to, and the names stand in the order in which they were first set
since they were last removed. `Records` says so of a scope and its history, each event preserves it
(`Records.snoc`), and a program that makes scopes from pairs, sets and removes variables, clears and
runs formulas leaves nothing but events behind (`Step.apply_eq`).
-/

set_option autoImplicit false

namespace FormulaTree.Scope

inductive Event where
  | set (name : String) (value : Value)
  | remove (name : String)
  | clear

namespace Event

def Unbinds (name : String) : Event → Prop
  | .set _ _ => False
  | .remove other => other = name
  | .clear => True

def Decides (name : String) : Event → Prop
  | .set other _ => other = name
  | .remove other => other = name
  | .clear => True

def apply (scope : Scope) : Event → Scope
  | .set name value => scope.set name value
  | .remove name => scope.remove name
  | .clear => scope.clear

end Event

section Places

variable {events : List Event} {event : Event} {name : String} {i : Nat}

/-- The event has happened at `i`, and no event after it ends what it did. -/
def Stands (ends : Event → Prop) (events : List Event) (event : Event) (i : Nat) : Prop :=
  events[i]? = some event ∧ ∀ j later, i < j → events[j]? = some later → ¬ ends later

/-- At `i` the name was set, and it has not been removed since. -/
def SetSince (events : List Event) (name : String) (i : Nat) : Prop :=
  ∃ value, Stands (Event.Unbinds name) events (.set name value) i

/-- At `i` the name was set for the first time since it was last removed. -/
def FirstSet (events : List Event) (name : String) (i : Nat) : Prop :=
  IsLeast {i | SetSince events name i} i

/-- The name was last set to the value, and not removed afterwards. -/
def LastSet (events : List Event) (name : String) (value : Value) : Prop :=
  ∃ i, Stands (Event.Decides name) events (.set name value) i

theorem getElem?_snoc_iff {other : Event} :
    (events ++ [event])[i]? = some other ↔
      events[i]? = some other ∨ i = events.length ∧ event = other := by
  rcases lt_trichotomy i events.length with lt | rfl | gt
  · simp [List.getElem?_append_left lt, lt.ne]
  · simp
  · simp [List.getElem?_eq_none, gt.le, gt.ne', Nat.succ_le_of_lt gt]

theorem Stands.lt_length {ends : Event → Prop} (h : Stands ends events event i) :
    i < events.length :=
  (List.getElem?_eq_some_iff.1 h.1).1

/-- What stands after one more event: the event itself, and what it does not end. -/
theorem stands_snoc_iff {ends : Event → Prop} {other : Event} :
    Stands ends (events ++ [event]) other i ↔
      ¬ ends event ∧ Stands ends events other i ∨ i = events.length ∧ event = other := by
  constructor
  · rintro ⟨here, stands⟩
    rcases getElem?_snoc_iff.1 here with here | last
    · have lt := (List.getElem?_eq_some_iff.1 here).1
      refine .inl ⟨stands _ _ lt (getElem?_snoc_iff.2 (.inr ⟨rfl, rfl⟩)), here, ?_⟩
      exact fun j later more there => stands j later more (getElem?_snoc_iff.2 (.inl there))
    · exact .inr last
  · rintro (⟨kept, here, stands⟩ | ⟨rfl, rfl⟩)
    · refine ⟨getElem?_snoc_iff.2 (.inl here), fun j later more there => ?_⟩
      rcases getElem?_snoc_iff.1 there with there | ⟨-, rfl⟩
      · exact stands j later more there
      · exact kept
    · refine ⟨getElem?_snoc_iff.2 (.inr ⟨rfl, rfl⟩), fun j later more there => ?_⟩
      have lt := (List.getElem?_eq_some_iff.1 there).1
      rw [List.length_append, List.length_singleton] at lt
      omega

theorem setSince_snoc_iff :
    SetSince (events ++ [event]) name i ↔
      ¬ event.Unbinds name ∧ SetSince events name i ∨
        i = events.length ∧ ∃ value, event = .set name value := by
  simp only [SetSince, stands_snoc_iff, exists_or, exists_and_left]

theorem lastSet_snoc_iff {value : Value} :
    LastSet (events ++ [event]) name value ↔
      ¬ event.Decides name ∧ LastSet events name value ∨ event = .set name value := by
  simp only [LastSet, stands_snoc_iff, exists_or, exists_and_left, exists_eq_left]

theorem exists_firstSet_iff : (∃ i, FirstSet events name i) ↔ ∃ i, SetSince events name i := by
  constructor
  · rintro ⟨i, first⟩
    exact ⟨i, first.1⟩
  · rintro ⟨i, set⟩
    have some_set : {i | SetSince events name i}.Nonempty := ⟨i, set⟩
    exact ⟨_, Nat.sInf_mem some_set, fun _ => Nat.sInf_le⟩

theorem exists_firstSet_snoc_iff :
    (∃ i, FirstSet (events ++ [event]) name i) ↔
      ¬ event.Unbinds name ∧ (∃ i, FirstSet events name i) ∨ ∃ value, event = .set name value := by
  simp only [exists_firstSet_iff, setSince_snoc_iff, exists_or, exists_and_left, exists_eq_left]

theorem FirstSet.lt_length (h : FirstSet events name i) : i < events.length := by
  obtain ⟨value, stands⟩ := h.1
  exact stands.lt_length

theorem FirstSet.snoc (h : FirstSet events name i) (kept : ¬ event.Unbinds name) :
    FirstSet (events ++ [event]) name i := by
  refine ⟨setSince_snoc_iff.2 (.inl ⟨kept, h.1⟩), fun j set => ?_⟩
  rcases setSince_snoc_iff.1 set with ⟨-, set⟩ | ⟨rfl, -⟩
  · exact h.2 set
  · exact h.lt_length.le

/-- A name without a value gets the place behind all others. -/
theorem firstSet_snoc_set (fresh : ¬ ∃ i, FirstSet events name i) (value : Value) :
    FirstSet (events ++ [.set name value]) name events.length := by
  rw [exists_firstSet_iff] at fresh
  refine ⟨setSince_snoc_iff.2 (.inr ⟨rfl, value, rfl⟩), fun j set => ?_⟩
  rcases setSince_snoc_iff.1 set with ⟨-, set⟩ | ⟨rfl, -⟩
  · exact absurd ⟨j, set⟩ fresh
  · exact le_rfl

end Places

/-- What the history of a scope says about its names and their values. -/
structure Records (events : List Event) (scope : Scope) : Prop where
  nodup : scope.names.Nodup
  names : ∀ name, name ∈ scope.names ↔ ∃ i, FirstSet events name i
  order : scope.names.Pairwise fun a b =>
    ∃ i j, FirstSet events a i ∧ FirstSet events b j ∧ i < j
  values : ∀ name value, scope.get? name = some value ↔ LastSet events name value

namespace Records

variable {events : List Event} {scope : Scope}

theorem empty : Records [] {} where
  nodup := .nil
  names name := by simp [exists_firstSet_iff, SetSince, Stands, Scope.names, Bindings.names]
  order := .nil
  values name value := by simp [LastSet, Stands, Scope.get?, Bindings.get?]

theorem set (h : Records events scope) (name : String) (value : Value) :
    Records (events ++ [.set name value]) (scope.set name value) where
  nodup := nodup_names_set h.nodup name value
  names other := by
    rw [exists_firstSet_snoc_iff, ← h.names, names_set]
    split
    · rename_i bound
      refine ⟨fun mem => .inl ⟨id, mem⟩, ?_⟩
      rintro (⟨-, mem⟩ | ⟨v, same⟩)
      · exact mem
      · cases same
        exact bound
    · simp [Event.Unbinds, eq_comm]
  order := by
    have kept : scope.names.Pairwise fun a b => ∃ i j,
        FirstSet (events ++ [.set name value]) a i ∧
        FirstSet (events ++ [.set name value]) b j ∧ i < j := by
      refine h.order.imp ?_
      rintro a b ⟨i, j, first, second, lt⟩
      exact ⟨i, j, first.snoc id, second.snoc id, lt⟩
    -- A name that has a value keeps its place, any other gets the place behind all.
    rw [names_set]
    split
    · exact kept
    · rename_i fresh
      refine List.pairwise_append.2 ⟨kept, List.pairwise_singleton _ _, fun a mem b new => ?_⟩
      obtain rfl := List.mem_singleton.1 new
      obtain ⟨i, first⟩ := (h.names a).1 mem
      rw [h.names] at fresh
      exact ⟨i, events.length, first.snoc id, firstSet_snoc_set fresh value, first.lt_length⟩
  values other v := by
    rw [get?_set, lastSet_snoc_iff]
    by_cases same : name = other
    · simp [same, Event.Decides]
    · simp [same, Event.Decides, h.values]

theorem remove (h : Records events scope) (name : String) :
    Records (events ++ [.remove name]) (scope.remove name) where
  nodup := by
    rw [names_remove]
    exact h.nodup.erase name
  names other := by
    rw [exists_firstSet_snoc_iff, ← h.names, names_remove, h.nodup.mem_erase_iff]
    simp [Event.Unbinds, eq_comm]
  order := by
    rw [names_remove]
    refine (h.order.sublist List.erase_sublist).imp_of_mem ?_
    rintro a b mem mem' ⟨i, j, first, second, lt⟩
    have left : name ≠ a := (h.nodup.mem_erase_iff.1 mem).1.symm
    have right : name ≠ b := (h.nodup.mem_erase_iff.1 mem').1.symm
    exact ⟨i, j, first.snoc left, second.snoc right, lt⟩
  values other v := by
    rw [get?_remove h.nodup, lastSet_snoc_iff]
    by_cases same : name = other
    · simp [same, Event.Decides]
    · simp [same, Event.Decides, h.values]

theorem clear (events : List Event) (scope : Scope) :
    Records (events ++ [.clear]) scope.clear where
  nodup := .nil
  names name := by simp [exists_firstSet_snoc_iff, Event.Unbinds]
  order := .nil
  values name value := by simp [lastSet_snoc_iff, Event.Decides]

theorem snoc (h : Records events scope) (event : Event) :
    Records (events ++ [event]) (event.apply scope) := by
  cases event with
  | set name value => exact h.set name value
  | remove name => exact h.remove name
  | clear => exact .clear events scope

theorem append (h : Records events scope) (later : List Event) :
    Records (events ++ later) (later.foldl Event.apply scope) := by
  induction later generalizing events scope with
  | nil => simpa using h
  | cons event rest ih =>
    rw [List.append_cons]
    exact ih (h.snoc event)

theorem mem_names (h : Records events scope) (name : String) :
    name ∈ scope.names ↔ ∃ value, LastSet events name value := by
  simp only [mem_names_iff, h.values]

theorem contains_iff (h : Records events scope) (name : String) :
    scope.contains name = true ↔ ∃ value, LastSet events name value := by
  simp only [← h.values]
  exact Option.isSome_iff_exists

theorem size_eq_card (h : Records events scope) : ∃ bound : Finset String,
    (∀ name, name ∈ bound ↔ ∃ value, LastSet events name value) ∧ scope.size = bound.card := by
  refine ⟨scope.names.toFinset, fun name => List.mem_toFinset.trans (h.mem_names name), ?_⟩
  rw [List.toFinset_card_of_nodup h.nodup, Scope.names, Bindings.names, List.length_map, size]

theorem isEmpty_iff (h : Records events scope) :
    scope.isEmpty = true ↔ ¬ ∃ name value, LastSet events name value := by
  have no_name : scope.isEmpty = true ↔ scope.names = [] := by
    simp [isEmpty, Scope.names, Bindings.names]
  rw [no_name, List.eq_nil_iff_forall_not_mem, not_exists]
  exact forall_congr' fun name => not_congr (h.mem_names name)

end Records

inductive Step where
  | ofList (pairs : List (String × Value))
  | set (name : String) (value : Value)
  | remove (name : String)
  | clear
  | evaluate (setting : Setting) (formula : Formula)

namespace Step

def apply (scope : Scope) : Step → Scope
  | .ofList pairs => Scope.ofList pairs
  | .set name value => (scope.exchange name value).2
  | .remove name => (scope.take name).2
  | .clear => scope.clear
  | .evaluate setting formula => (formula.runIn setting scope).2

def sets (pairs : List (String × Value)) : List Event :=
  pairs.map fun pair => .set pair.1 pair.2

def events (scope : Scope) : Step → List Event
  | .ofList pairs => .clear :: sets pairs
  | .set name value => [.set name value]
  | .remove name => [.remove name]
  | .clear => [.clear]
  | .evaluate setting formula => sets (formula.assignmentsIn setting scope)

theorem foldl_sets (scope : Scope) (pairs : List (String × Value)) :
    (sets pairs).foldl Event.apply scope = scope.setAll pairs :=
  List.foldl_map

theorem apply_eq (scope : Scope) (step : Step) :
    step.apply scope = (step.events scope).foldl Event.apply scope := by
  cases step with
  | ofList pairs =>
    rw [apply, events, List.foldl_cons, foldl_sets]
    exact ofList_eq_setAll pairs
  | set name value =>
    rw [apply, exchange_eq]
    rfl
  | remove name =>
    rw [apply, take_eq]
    rfl
  | clear => rfl
  | evaluate setting formula =>
    rw [apply, events, foldl_sets, Formula.runIn_setAll]

end Step

def after (steps : List Step) : Scope :=
  steps.foldl Step.apply {}

/-- The events of the steps, the first of which is applied to `scope`. -/
def history (scope : Scope) : List Step → List Event
  | [] => []
  | step :: rest => step.events scope ++ history (step.apply scope) rest

theorem foldl_history (scope : Scope) (steps : List Step) :
    steps.foldl Step.apply scope = (history scope steps).foldl Event.apply scope := by
  induction steps generalizing scope with
  | nil => rfl
  | cons step rest ih =>
    rw [List.foldl_cons, history, List.foldl_append, ← Step.apply_eq]
    exact ih _

theorem records_history (steps : List Step) : Records (history {} steps) (after steps) := by
  rw [after, foldl_history]
  exact Records.empty.append (history {} steps)

/-- Scopes without a repeated name are equal if they have equal values, or none, for every name. -/
theorem equal_iff {scope other : Scope} (h : scope.names.Nodup) (h' : other.names.Nodup) :
    scope.equal other = true ↔
      ∀ name, Option.Rel (fun v w => v.equal w = true) (scope.get? name) (other.get? name) := by
  rw [equal, Bool.and_eq_true, beq_iff_eq]
  constructor
  · rintro ⟨size, entries⟩ name
    -- The entries answer for the names on the left; that there are no others follows from the size.
    cases found : scope.get? name with
    | some value =>
      have mem := Bindings.mem_of_get? found
      obtain ⟨value', found', same⟩ := Value.equalEntries_iff.1 entries _ mem
      have found' : other.get? name = some value' := found'
      rw [found']
      exact .some same
    | none =>
      have missing : name ∉ scope.names := (Bindings.get?_eq_none_iff name _).1 found
      have missing' : name ∉ other.names := fun mem =>
        missing (Value.mem_names_of_equalEntries h size entries mem)
      have found' : other.get? name = none := (Bindings.get?_eq_none_iff name _).2 missing'
      rw [found']
      exact .none
  · intro same
    have bound (name : String) : name ∈ scope.names ↔ name ∈ other.names := by
      have related := same name
      rw [mem_names_iff, mem_names_iff]
      generalize scope.get? name = value at related ⊢
      generalize other.get? name = value' at related ⊢
      cases related <;> simp
    have perm : scope.names.Perm other.names := (List.perm_ext_iff_of_nodup h h').2 bound
    refine ⟨by simpa [names, Bindings.names] using perm.length_eq, ?_⟩
    refine Value.equalEntries_iff.2 fun entry mem => ?_
    have found : scope.get? entry.1 = some entry.2 := Bindings.get?_of_mem h mem
    have related := same entry.1
    rw [found] at related
    generalize found' : other.get? entry.1 = value at related
    cases related with
    | some equal => exact ⟨_, found', equal⟩

/-- A scope is an ordered map, whatever has happened to it. Each name is bound to the value that it
was last set to, and the names stand in the order of their first set since their last removal: to set
a name that is bound keeps its place, to remove one keeps the order of the others. -/
theorem ordered_map_after (steps : List Step) :
    (after steps).names.Nodup ∧
    (∀ name, name ∈ (after steps).names ↔ ∃ value, LastSet (history {} steps) name value) ∧
    (∀ name, name ∈ (after steps).names ↔ ∃ i, FirstSet (history {} steps) name i) ∧
    ((after steps).names.Pairwise fun a b => ∃ i j,
      FirstSet (history {} steps) a i ∧ FirstSet (history {} steps) b j ∧ i < j) ∧
    (∀ name value, ((after steps).exchange name value).2.names
      = if name ∈ (after steps).names then (after steps).names
        else (after steps).names ++ [name]) ∧
    (∀ name, ((after steps).take name).2.names = (after steps).names.erase name) ∧
    (∀ name value,
      (after steps).get? name = some value ↔ LastSet (history {} steps) name value) ∧
    (∀ name,
      (after steps).contains name = true ↔ ∃ value, LastSet (history {} steps) name value) ∧
    (∃ bound : Finset String,
      (∀ name, name ∈ bound ↔ ∃ value, LastSet (history {} steps) name value) ∧
      (after steps).size = bound.card) ∧
    ((after steps).isEmpty = true ↔ ¬ ∃ name value, LastSet (history {} steps) name value) ∧
    (∀ name value old, ((after steps).exchange name value).1 = some old ↔
      LastSet (history {} steps) name old) ∧
    (∀ name old, ((after steps).take name).1 = some old ↔
      LastSet (history {} steps) name old) ∧
    ∀ steps', (after steps).equal (after steps') = true ↔
      ∀ name, Option.Rel (fun v w => v.equal w = true)
        ((after steps).get? name) ((after steps').get? name) := by
  have records := records_history steps
  refine ⟨records.nodup, records.mem_names, records.names, records.order, ?_, ?_, records.values,
    records.contains_iff, records.size_eq_card, records.isEmpty_iff, ?_, ?_, ?_⟩
  · intro name value
    rw [exchange_eq, names_set]
  · intro name
    rw [take_eq, names_remove]
  · intro name value old
    rw [exchange_eq]
    exact records.values name old
  · intro name old
    rw [take_eq]
    exact records.values name old
  · intro steps'
    exact equal_iff records.nodup (records_history steps').nodup

/-- The second `x` keeps the place of the first one until it is removed; the run sets it anew. -/
example : (after [.ofList [("x", .null), ("y", .null), ("x", .bool true)], .remove "x",
    .evaluate {} (.assignTo "x" (.symbol "y")), .set "y" (.bool true)]).bindings
      = [("y", .bool true), ("x", .null)] := by
  rfl

end FormulaTree.Scope

/-!
# Named values in order

A finite map from names to values, kept as the list of its pairs. Two disciplines of insertion are
used: `set` keeps the order in which names were first bound, `insert` keeps the names ascending by
code point. Look-up and removal are the same for both.
-/

set_option autoImplicit false

namespace FormulaTree.Bindings

variable {β γ : Type}

def get? (name : String) : List (String × β) → Option β
  | [] => none
  | (key, value) :: rest => if key = name then some value else get? name rest

/-- Binds `name`: a name that is bound already keeps its place, a new one goes to the end. -/
def set (name : String) (value : β) : List (String × β) → List (String × β)
  | [] => [(name, value)]
  | (key, old) :: rest =>
    if key = name then (key, value) :: rest else (key, old) :: set name value rest

/-- Binds `name` in a list whose names ascend, and keeps them ascending. -/
def insert (name : String) (value : β) : List (String × β) → List (String × β)
  | [] => [(name, value)]
  | (key, old) :: rest =>
    if key = name then (key, value) :: rest
    else if name < key then (name, value) :: (key, old) :: rest
    else (key, old) :: insert name value rest

def remove (name : String) : List (String × β) → List (String × β)
  | [] => []
  | (key, value) :: rest => if key = name then rest else (key, value) :: remove name rest

def exchange (name : String) (value : β) :
    List (String × β) → Option β × List (String × β)
  | [] => (none, [(name, value)])
  | (key, old) :: rest =>
    if key = name then (some old, (key, value) :: rest)
    else
      let (previous, rest) := exchange name value rest
      (previous, (key, old) :: rest)

def take (name : String) : List (String × β) → Option β × List (String × β)
  | [] => (none, [])
  | (key, value) :: rest =>
    if key = name then (some value, rest)
    else
      let (previous, rest) := take name rest
      (previous, (key, value) :: rest)

def names (bindings : List (String × β)) : List String :=
  bindings.map Prod.fst

def contains (name : String) (bindings : List (String × β)) : Bool :=
  (get? name bindings).isSome

def ofList (pairs : List (String × β)) : List (String × β) :=
  pairs.foldl (fun bindings pair => set pair.1 pair.2 bindings) []

/-- The pairs by ascending name, the last value of a repeated one. -/
def ascending (pairs : List (String × β)) : List (String × β) :=
  pairs.foldl (fun bindings pair => insert pair.1 pair.2 bindings) []

theorem get?_set (name other : String) (value : β) (bindings : List (String × β)) :
    get? other (set name value bindings)
      = if name = other then some value else get? other bindings := by
  induction bindings with
  | nil => rfl
  | cons pair rest ih =>
    obtain ⟨key, old⟩ := pair
    by_cases hk : key = name
    · subst hk
      by_cases ho : key = other <;> simp [set, get?, ho]
    · by_cases ho : key = other
      · subst ho
        simp [set, get?, hk, Ne.symm hk]
      · simp [set, get?, hk, ho, ih]

theorem get?_eq_none_iff (name : String) (bindings : List (String × β)) :
    get? name bindings = none ↔ name ∉ names bindings := by
  induction bindings with
  | nil => simp [get?, names]
  | cons pair rest ih =>
    obtain ⟨key, value⟩ := pair
    by_cases hk : key = name
    · simp [get?, names, hk]
    · simpa [get?, names, hk, Ne.symm hk] using ih

theorem names_set (name : String) (value : β) (bindings : List (String × β)) :
    names (set name value bindings)
      = if name ∈ names bindings then names bindings else names bindings ++ [name] := by
  induction bindings with
  | nil => rfl
  | cons pair rest ih =>
    obtain ⟨key, old⟩ := pair
    by_cases hk : key = name
    · simp [set, names, hk]
    · by_cases hm : name ∈ names rest
      · simp only [hm, if_true] at ih
        simp_all [set, names]
      · simp only [hm, if_false] at ih
        simp_all [set, names, Ne.symm hk]

theorem names_remove (name : String) (bindings : List (String × β)) :
    names (remove name bindings) = (names bindings).erase name := by
  induction bindings with
  | nil => rfl
  | cons pair rest ih =>
    obtain ⟨key, value⟩ := pair
    by_cases hk : key = name
    · simp [remove, names, hk]
    · rw [remove, if_neg hk]
      simp_all [names]

theorem get?_remove {bindings : List (String × β)} (h : (names bindings).Nodup)
    (name other : String) :
    get? other (remove name bindings) = if name = other then none else get? other bindings := by
  induction bindings with
  | nil => simp [remove, get?]
  | cons pair rest ih =>
    obtain ⟨key, value⟩ := pair
    obtain ⟨fresh, later⟩ := List.nodup_cons.1 h
    by_cases hk : key = name
    · subst hk
      by_cases ho : key = other
      · subst ho
        simpa [remove] using (get?_eq_none_iff key rest).2 fresh
      · simp [remove, get?, ho]
    · by_cases ho : key = other
      · subst ho
        simp [remove, get?, hk, Ne.symm hk]
      · simp [remove, get?, hk, ho, ih later]

theorem exchange_eq (name : String) (value : β) (bindings : List (String × β)) :
    exchange name value bindings = (get? name bindings, set name value bindings) := by
  induction bindings with
  | nil => rfl
  | cons pair rest ih =>
    obtain ⟨key, old⟩ := pair
    by_cases hk : key = name
    · simp [exchange, get?, set, hk]
    · simp [exchange, get?, set, hk, ih]

theorem take_eq (name : String) (bindings : List (String × β)) :
    take name bindings = (get? name bindings, remove name bindings) := by
  induction bindings with
  | nil => rfl
  | cons pair rest ih =>
    obtain ⟨key, old⟩ := pair
    by_cases hk : key = name
    · simp [take, get?, remove, hk]
    · simp [take, get?, remove, hk, ih]

end FormulaTree.Bindings

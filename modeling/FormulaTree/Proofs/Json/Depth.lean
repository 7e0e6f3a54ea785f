import FormulaTree.Proofs.Json.Keyed

set_option autoImplicit false

namespace FormulaTree.Json

mutual

/-- The most arrays and objects that are open at once. -/
def depth : Json → Nat
  | .array items => itemsDepth items + 1
  | .object fields => fieldsDepth fields + 1
  | _ => 0

def itemsDepth : List Json → Nat
  | [] => 0
  | item :: rest => max (depth item) (itemsDepth rest)

def fieldsDepth : List (String × Json) → Nat
  | [] => 0
  | (_, value) :: rest => max (depth value) (fieldsDepth rest)

end

theorem fieldsDepth_le_iff {fields : List (String × Json)} {n : Nat} :
    fieldsDepth fields ≤ n ↔ ∀ field ∈ fields, field.2.depth ≤ n := by
  induction fields with
  | nil => simp [fieldsDepth]
  | cons field rest ih =>
    obtain ⟨key, value⟩ := field
    rw [fieldsDepth, Nat.max_le, ih, List.forall_mem_cons]

theorem depth_ofFields {fields : List (String × Json)} (distinct : (Bindings.names fields).Nodup) :
    (ofFields fields).depth = fieldsDepth fields + 1 := by
  have same := Bindings.ascending_perm distinct
  refine congrArg (· + 1) (Nat.le_antisymm ?_ ?_)
  · exact fieldsDepth_le_iff.2 fun field mem =>
      fieldsDepth_le_iff.1 (Nat.le_refl _) field (same.mem_iff.1 mem)
  · exact fieldsDepth_le_iff.2 fun field mem =>
      fieldsDepth_le_iff.1 (Nat.le_refl _) field (same.mem_iff.2 mem)

mutual

def tokens : Json → List Token
  | .null => [.null]
  | .bool b => [.bool b]
  | .number n => [.number n]
  | .string text => [.string text]
  | .array [] => [.openArray, .closeArray]
  | .array (item :: rest) => .openArray :: (tokens item ++ laterItems rest)
  | .object [] => [.openObject, .closeObject]
  | .object ((key, value) :: rest) =>
    .openObject :: .string key :: .colon :: (tokens value ++ laterFields rest)

def laterItems : List Json → List Token
  | [] => [.closeArray]
  | item :: rest => .comma :: (tokens item ++ laterItems rest)

def laterFields : List (String × Json) → List Token
  | [] => [.closeObject]
  | (key, value) :: rest => .comma :: .string key :: .colon :: (tokens value ++ laterFields rest)

end

/-- Induction over JSON values, where an array or object may assume the property of its members. -/
@[elab_as_elim]
theorem members_induction {motive : Json → Prop} (null : motive .null)
    (bool : ∀ b, motive (.bool b)) (number : ∀ n, motive (.number n))
    (string : ∀ text, motive (.string text))
    (array : ∀ items, (∀ item ∈ items, motive item) → motive (.array items))
    (object : ∀ fields, (∀ field ∈ fields, motive field.2) → motive (.object fields))
    (json : Json) : motive json :=
  @Json.rec motive (fun items => ∀ item ∈ items, motive item)
    (fun fields => ∀ field ∈ fields, motive field.2) (fun field => motive field.2)
    null bool number string array object
    (fun _ mem => nomatch mem) (fun _ _ first rest => List.forall_mem_cons.2 ⟨first, rest⟩)
    (fun _ mem => nomatch mem) (fun _ _ first rest => List.forall_mem_cons.2 ⟨first, rest⟩)
    (fun _ _ value => value) json

section machine

variable {limit : Nat} {stack : List Frame} {rest : List Token}

/-- Run on the tokens of the value, the machine delivers it or, if it is too deep, stops. -/
def Delivers (limit : Nat) (json : Json) : Prop :=
  ∀ stack rest, stack.length ≤ limit →
    (json.tokens ++ rest).foldlM (step limit) (.value stack)
      = if stack.length + json.depth ≤ limit then rest.foldlM (step limit) (deliver json stack)
        else none

theorem foldlM_cons {state next : State} {token : Token}
    (h : step limit state token = some next) :
    (token :: rest).foldlM (step limit) state = rest.foldlM (step limit) next := by
  rw [List.foldlM_cons, h]
  rfl

theorem run_stopped {json : Json} {token : Token} (begins : ∃ later, json.tokens = token :: later)
    (stopped : step limit (.value stack) token = none) :
    (json.tokens ++ rest).foldlM (step limit) (.value stack) = none := by
  obtain ⟨later, tokens⟩ := begins
  rw [tokens, List.cons_append, List.foldlM_cons, stopped]
  rfl

theorem delivers_scalar {json : Json} {token : Token} (tokens : json.tokens = [token])
    (flat : json.depth = 0) (first : ∀ stack, start limit stack token = some (deliver json stack)) :
    Delivers limit json := by
  intro stack rest open_le
  rw [tokens, flat, Nat.add_zero, if_pos open_le]
  exact foldlM_cons (first stack)

theorem exists_tokens (json : Json) :
    ∃ token later, json.tokens = token :: later ∧ token ≠ .closeArray := by
  cases json with
  | null | bool | number | string => exact ⟨_, _, rfl, nofun⟩
  | array items => cases items <;> exact ⟨_, _, rfl, nofun⟩
  | object fields =>
    rcases fields with - | ⟨⟨key, value⟩, fields⟩ <;> exact ⟨_, _, rfl, nofun⟩

theorem run_firstItem (json : Json) :
    (json.tokens ++ rest).foldlM (step limit) (.firstItem stack)
      = (json.tokens ++ rest).foldlM (step limit) (.value (.array [] :: stack)) := by
  obtain ⟨token, later, tokens, other⟩ := exists_tokens json
  have same : step limit (.firstItem stack) token
      = step limit (.value (.array [] :: stack)) token := by
    cases token <;> first | rfl | exact absurd rfl other
  rw [tokens, List.cons_append, List.foldlM_cons, List.foldlM_cons, same]

theorem run_laterItems {items : List Json} (each : ∀ item ∈ items, Delivers limit item)
    (read : List Json) (below : stack.length < limit) :
    (laterItems items ++ rest).foldlM (step limit) (.afterItem stack read)
      = if stack.length + 1 + itemsDepth items ≤ limit then
          rest.foldlM (step limit) (deliver (.array (read.reverse ++ items)) stack)
        else none := by
  -- Each item moves from those to come to those that were read; together they stay the same.
  induction items generalizing read with
  | nil =>
    rw [laterItems, itemsDepth, if_pos (by omega), List.append_nil]
    exact foldlM_cons rfl
  | cons item items ih =>
    obtain ⟨first, later⟩ := List.forall_mem_cons.1 each
    have opened : (Frame.array read :: stack).length ≤ limit := below
    have comma : step limit (.afterItem stack read) .comma = some (.value (.array read :: stack)) :=
      rfl
    rw [laterItems, List.cons_append, foldlM_cons comma, List.append_assoc, first _ _ opened,
      itemsDepth, List.length_cons]
    by_cases fits : stack.length + 1 + item.depth ≤ limit
    · have all : (item :: read).reverse ++ items = read.reverse ++ item :: items := by simp
      rw [if_pos fits, deliver, ih later, all]
      congr 1
      rw [eq_iff_iff]
      omega
    · rw [if_neg fits, if_neg (by omega)]

theorem delivers_array {items : List Json} (each : ∀ item ∈ items, Delivers limit item) :
    Delivers limit (.array items) := by
  intro stack rest open_le
  by_cases below : stack.length < limit
  · have opened : step limit (.value stack) .openArray = some (.firstItem stack) := if_pos below
    cases items with
    | nil =>
      rw [tokens, List.cons_append, foldlM_cons opened, depth, itemsDepth, if_pos (by omega)]
      exact foldlM_cons rfl
    | cons item items =>
      obtain ⟨first, later⟩ := List.forall_mem_cons.1 each
      have inner : (Frame.array [] :: stack).length ≤ limit := below
      rw [tokens, List.cons_append, foldlM_cons opened, List.append_assoc, run_firstItem,
        first _ _ inner, depth, itemsDepth, List.length_cons]
      by_cases fits : stack.length + 1 + item.depth ≤ limit
      · rw [if_pos fits, deliver, run_laterItems later _ below]
        congr 1
        rw [eq_iff_iff]
        omega
      · rw [if_neg fits, if_neg (by omega)]
  · have closed : step limit (.value stack) .openArray = none := if_neg below
    have begins : ∃ later, (Json.array items).tokens = .openArray :: later := by
      cases items <;> exact ⟨_, rfl⟩
    rw [run_stopped begins closed, depth, if_neg (by omega)]

theorem insert_of_ascending {key : String} {value : Json} {read later : List (String × Json)}
    (keyed : Bindings.Ascending (read ++ (key, value) :: later)) :
    Bindings.insert key value read = read ++ [(key, value)] := by
  induction read with
  | nil => rfl
  | cons field read ih =>
    obtain ⟨name, old⟩ := field
    obtain ⟨before, keyed⟩ := List.pairwise_cons.1 keyed
    have less : name < key := before (key, value) (by simp)
    rw [Bindings.insert, if_neg (String.ne_of_lt less), if_neg (String.lt_asymm less), ih keyed]
    rfl

theorem run_laterFields {fields : List (String × Json)}
    (each : ∀ field ∈ fields, Delivers limit field.2) (read : List (String × Json))
    (keyed : Bindings.Ascending (read ++ fields)) (below : stack.length < limit) :
    (laterFields fields ++ rest).foldlM (step limit) (.afterField stack read)
      = if stack.length + 1 + fieldsDepth fields ≤ limit then
          rest.foldlM (step limit) (deliver (.object (read ++ fields)) stack)
        else none := by
  induction fields generalizing read with
  | nil =>
    rw [laterFields, fieldsDepth, if_pos (by omega), List.append_nil]
    exact foldlM_cons rfl
  | cons field fields ih =>
    obtain ⟨key, value⟩ := field
    obtain ⟨first, later⟩ := List.forall_mem_cons.1 each
    have opened : (Frame.object read key :: stack).length ≤ limit := below
    have comma : step limit (.afterField stack read) .comma = some (.key stack read) := rfl
    have name : step limit (.key stack read) (.string key) = some (.colon stack read key) := rfl
    have colon : step limit (.colon stack read key) .colon
        = some (.value (.object read key :: stack)) := rfl
    rw [laterFields, List.cons_append, List.cons_append, List.cons_append, foldlM_cons comma,
      foldlM_cons name, foldlM_cons colon, List.append_assoc, first _ _ opened, fieldsDepth,
      List.length_cons]
    by_cases fits : stack.length + 1 + value.depth ≤ limit
    · have all : read ++ [(key, value)] ++ fields = read ++ (key, value) :: fields := by simp
      rw [if_pos fits, deliver, insert_of_ascending keyed, ih later _ (all ▸ keyed), all]
      congr 1
      rw [eq_iff_iff]
      omega
    · rw [if_neg fits, if_neg (by omega)]

theorem delivers_object {fields : List (String × Json)}
    (each : ∀ field ∈ fields, Delivers limit field.2) (keyed : Bindings.Ascending fields) :
    Delivers limit (.object fields) := by
  intro stack rest open_le
  by_cases below : stack.length < limit
  · have opened : step limit (.value stack) .openObject = some (.firstKey stack) := if_pos below
    rcases fields with - | ⟨⟨key, value⟩, fields⟩
    · rw [tokens, List.cons_append, foldlM_cons opened, depth, fieldsDepth, if_pos (by omega)]
      exact foldlM_cons rfl
    · obtain ⟨first, later⟩ := List.forall_mem_cons.1 each
      have inner : (Frame.object [] key :: stack).length ≤ limit := below
      have name : step limit (.firstKey stack) (.string key) = some (.colon stack [] key) := rfl
      have colon : step limit (.colon stack [] key) .colon
          = some (.value (.object [] key :: stack)) := rfl
      rw [tokens, List.cons_append, List.cons_append, List.cons_append, foldlM_cons opened,
        foldlM_cons name, foldlM_cons colon, List.append_assoc, first _ _ inner, depth, fieldsDepth,
        List.length_cons]
      by_cases fits : stack.length + 1 + value.depth ≤ limit
      · rw [if_pos fits, deliver, Bindings.insert, run_laterFields later _ keyed below]
        congr 1
        rw [eq_iff_iff]
        omega
      · rw [if_neg fits, if_neg (by omega)]
  · have closed : step limit (.value stack) .openObject = none := if_neg below
    have begins : ∃ later, (Json.object fields).tokens = .openObject :: later := by
      cases fields <;> exact ⟨_, rfl⟩
    rw [run_stopped begins closed, depth, if_neg (by omega)]

/-- The machine reads every value whose fields ascend, as long as the bound allows its depth. -/
theorem run_tokens (limit : Nat) {json : Json} (keyed : json.Keyed) : Delivers limit json := by
  induction json using members_induction with
  | null => exact delivers_scalar rfl rfl fun _ => rfl
  | bool b => exact delivers_scalar rfl rfl fun _ => rfl
  | number n => exact delivers_scalar rfl rfl fun _ => rfl
  | string text => exact delivers_scalar rfl rfl fun _ => rfl
  | array items ih =>
    exact delivers_array fun item mem => ih item mem ((allKeyed_iff items).1 keyed item mem)
  | object fields ih =>
    exact delivers_object
      (fun field mem => ih field mem ((fieldsKeyed_iff fields).1 keyed.2 field mem)) keyed.1

theorem ofTokens?_tokens (limit : Nat) {json : Json} (keyed : json.Keyed) :
    ofTokens? limit json.tokens = if json.depth ≤ limit then some json else none := by
  have run := run_tokens limit keyed [] [] (Nat.zero_le _)
  rw [List.append_nil, List.length_nil, Nat.zero_add] at run
  rw [ofTokens?, run]
  split <;> rfl

end machine

end FormulaTree.Json

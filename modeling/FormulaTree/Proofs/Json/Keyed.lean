import FormulaTree.Json.Reader
import FormulaTree.Proofs.Bindings

set_option autoImplicit false

namespace FormulaTree.Json

mutual

/-- The fields of every object in the value ascend. -/
def Keyed : Json → Prop
  | .array items => AllKeyed items
  | .object fields => Bindings.Ascending fields ∧ FieldsKeyed fields
  | _ => True

def AllKeyed : List Json → Prop
  | [] => True
  | item :: rest => Keyed item ∧ AllKeyed rest

def FieldsKeyed : List (String × Json) → Prop
  | [] => True
  | (_, value) :: rest => Keyed value ∧ FieldsKeyed rest

end

def Codec.ReadsKeyed (codec : Codec) : Prop :=
  ∀ {text : String} {json : Json}, codec.read? text = some json → json.Keyed

theorem allKeyed_iff (items : List Json) : AllKeyed items ↔ ∀ item ∈ items, item.Keyed := by
  induction items with
  | nil => simp [AllKeyed]
  | cons item rest ih => simp [AllKeyed, ih]

theorem fieldsKeyed_iff (fields : List (String × Json)) :
    FieldsKeyed fields ↔ ∀ field ∈ fields, field.2.Keyed := by
  induction fields with
  | nil => simp [FieldsKeyed]
  | cons field rest ih =>
    obtain ⟨name, value⟩ := field
    simp [FieldsKeyed, ih]

theorem fieldsKeyed_insert {fields : List (String × Json)} {value : Json} (h : FieldsKeyed fields)
    (hv : value.Keyed) (key : String) : FieldsKeyed (Bindings.insert key value fields) := by
  rw [fieldsKeyed_iff] at h ⊢
  intro field mem
  rcases Bindings.mem_of_mem_insert mem with rfl | mem
  · exact hv
  · exact h field mem

theorem keyed_ofFields {fields : List (String × Json)} (h : ∀ field ∈ fields, field.2.Keyed) :
    (ofFields fields).Keyed :=
  ⟨Bindings.ascending_ascending fields,
    (fieldsKeyed_iff _).2 fun field mem => h field (Bindings.mem_of_mem_ascending mem)⟩

/-- The property holds of null, truth values, finite numbers and strings, and passes from the
members to an array and to an object of given fields. -/
structure Closed (P : Json → Prop) : Prop where
  null : P .null
  bool (b : Bool) : P (.bool b)
  real {x : Float} (finite : x.isFinite = true) : P (.number (.real x))
  string (text : String) : P (.string text)
  array {items : List Json} (each : ∀ item ∈ items, P item) : P (.array items)
  ofFields {fields : List (String × Json)} (each : ∀ field ∈ fields, P field.2) :
    P (ofFields fields)

theorem closed_keyed : Closed Keyed where
  null := trivial
  bool _ := trivial
  real _ := trivial
  string _ := trivial
  array each := (allKeyed_iff _).2 each
  ofFields := keyed_ofFields

def Frame.Keyed : Frame → Prop
  | .array items => AllKeyed items
  | .object fields _ => Bindings.Ascending fields ∧ FieldsKeyed fields

def State.Keyed : State → Prop
  | .value stack | .firstItem stack | .firstKey stack => ∀ frame ∈ stack, frame.Keyed
  | .key stack fields | .colon stack fields _ | .afterField stack fields =>
    (∀ frame ∈ stack, frame.Keyed) ∧ Bindings.Ascending fields ∧ FieldsKeyed fields
  | .afterItem stack items => (∀ frame ∈ stack, frame.Keyed) ∧ AllKeyed items
  | .complete json => json.Keyed

theorem keyed_deliver {value : Json} {stack : List Frame} (hv : value.Keyed)
    (hs : ∀ frame ∈ stack, frame.Keyed) : (deliver value stack).Keyed := by
  cases stack with
  | nil => exact hv
  | cons frame stack =>
    obtain ⟨top, below⟩ := List.forall_mem_cons.1 hs
    cases frame with
    | array items => exact ⟨below, hv, top⟩
    | object fields key =>
      exact ⟨below, top.1.insert key value, fieldsKeyed_insert top.2 hv key⟩

theorem keyed_start {depth : Nat} {stack : List Frame} {token : Token} {state : State}
    (hs : ∀ frame ∈ stack, frame.Keyed) (h : start depth stack token = some state) :
    state.Keyed := by
  cases token with
  | null | bool | number | string =>
    cases h
    exact keyed_deliver trivial hs
  | openArray | openObject =>
    obtain ⟨-, same⟩ := Option.ite_none_right_eq_some.1 h
    cases same
    exact hs
  | _ => cases h

theorem keyed_step {depth : Nat} {state next : State} {token : Token} (hs : state.Keyed)
    (h : step depth state token = some next) : next.Keyed := by
  cases state with
  | value stack => exact keyed_start hs h
  | firstItem stack =>
    by_cases close : token = .closeArray
    · subst close
      cases h
      exact keyed_deliver trivial hs
    · have opened : ∀ frame ∈ .array [] :: stack, frame.Keyed :=
        List.forall_mem_cons.2 ⟨trivial, hs⟩
      have started : start depth (.array [] :: stack) token = some next := by
        cases token <;> first | exact h | exact absurd rfl close
      exact keyed_start opened started
  | firstKey stack =>
    cases token with
    | closeObject =>
      cases h
      exact keyed_deliver ⟨.nil, trivial⟩ hs
    | string key =>
      cases h
      exact ⟨hs, .nil, trivial⟩
    | _ => cases h
  | key stack fields =>
    cases token with
    | string key =>
      cases h
      exact hs
    | _ => cases h
  | colon stack fields key =>
    cases token with
    | colon =>
      cases h
      exact List.forall_mem_cons.2 ⟨hs.2, hs.1⟩
    | _ => cases h
  | afterItem stack items =>
    cases token with
    | comma =>
      cases h
      exact List.forall_mem_cons.2 ⟨hs.2, hs.1⟩
    | closeArray =>
      cases h
      refine keyed_deliver ?_ hs.1
      exact (allKeyed_iff _).2 fun item mem =>
        (allKeyed_iff items).1 hs.2 item (List.mem_reverse.1 mem)
    | _ => cases h
  | afterField stack fields =>
    cases token with
    | comma =>
      cases h
      exact hs
    | closeObject =>
      cases h
      exact keyed_deliver hs.2 hs.1
    | _ => cases h
  | complete value => cases token <;> cases h

theorem keyed_run {depth : Nat} {tokens : List Token} {state final : State} (hs : state.Keyed)
    (h : tokens.foldlM (step depth) state = some final) : final.Keyed := by
  induction tokens generalizing state with
  | nil =>
    cases h
    exact hs
  | cons token tokens ih =>
    obtain ⟨next, first, later⟩ := Option.bind_eq_some_iff.1 h
    exact ih (keyed_step hs first) later

theorem readsKeyed_compact (depth : Nat) : (compact depth).ReadsKeyed := by
  intro text json h
  obtain ⟨tokens, -, parsed⟩ := Option.bind_eq_some_iff.1 h
  obtain ⟨final, run, result⟩ := Option.bind_eq_some_iff.1 parsed
  have initial : (State.value []).Keyed := by simp [State.Keyed]
  have keyed : final.Keyed := keyed_run initial run
  cases final with
  | complete value =>
    cases result
    exact keyed
  | _ => cases result

end FormulaTree.Json

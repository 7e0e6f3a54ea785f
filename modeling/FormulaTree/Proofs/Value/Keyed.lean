import FormulaTree.Proofs.Exec
import FormulaTree.Proofs.Json.Keyed
import FormulaTree.Value.Encoding

set_option autoImplicit false

namespace FormulaTree.Value

mutual

def Keyed : Value → Prop
  | .matrix items => AllKeyed items
  | .object entries => (Bindings.names entries).Nodup ∧ EntriesKeyed entries
  | .resultSet items => AllKeyed items
  | _ => True

def AllKeyed : List Value → Prop
  | [] => True
  | item :: rest => Keyed item ∧ AllKeyed rest

def EntriesKeyed : List (String × Value) → Prop
  | [] => True
  | (_, value) :: rest => Keyed value ∧ EntriesKeyed rest

end

theorem allKeyed_iff (items : List Value) : AllKeyed items ↔ ∀ item ∈ items, item.Keyed := by
  induction items with
  | nil => simp [AllKeyed]
  | cons item rest ih => simp [AllKeyed, ih]

theorem entriesKeyed_iff (entries : List (String × Value)) :
    EntriesKeyed entries ↔ ∀ entry ∈ entries, entry.2.Keyed := by
  induction entries with
  | nil => simp [EntriesKeyed]
  | cons entry rest ih =>
    obtain ⟨key, value⟩ := entry
    simp [EntriesKeyed, ih]

section closed

variable {P : Json → Prop}

theorem holds_tagged (closed : Json.Closed P) {kind : String} {fields : List (String × Json)}
    (each : ∀ field ∈ fields, P field.2) : P (Record.tagged kind fields) :=
  closed.ofFields (List.forall_mem_cons.2 ⟨closed.string kind, each⟩)

theorem holds_partToJson (closed : Json.Closed P) (x : Float) : P (partToJson x) := by
  unfold partToJson
  split
  · rename_i finite
    exact closed.real finite
  · exact closed.string _

mutual

/-- What holds of the pieces of JSON holds of the JSON of every value. -/
theorem holds_toJson (closed : Json.Closed P) : ∀ value : Value, P value.toJson
  | .null => closed.null
  | .bool b => closed.bool b
  | .string text => closed.string text
  | .number x => by
    unfold toJson
    split
    · rename_i finite
      exact closed.real finite
    · exact holds_tagged closed (List.forall_mem_singleton.2 (closed.string _))
  | .decimal d => holds_tagged closed (List.forall_mem_singleton.2 (closed.string _))
  | .complex re im => holds_tagged closed (by simp [holds_partToJson closed])
  | .unit magnitude name => by
    refine holds_tagged closed
      (List.forall_mem_cons.2 ⟨?_, List.forall_mem_singleton.2 (closed.string name)⟩)
    cases magnitude with
    | none => exact closed.null
    | some x => exact holds_partToJson closed x
  | .matrix items | .resultSet items =>
    holds_tagged closed
      (List.forall_mem_singleton.2 (closed.array (holds_itemsToJson closed items)))
  | .object entries =>
    holds_tagged closed
      (List.forall_mem_singleton.2 (closed.ofFields (holds_entriesToJson closed entries)))

theorem holds_itemsToJson (closed : Json.Closed P) : ∀ items : List Value,
    ∀ item ∈ itemsToJson items, P item
  | [] => by simp [itemsToJson]
  | item :: rest => List.forall_mem_cons.2 ⟨holds_toJson closed item, holds_itemsToJson closed rest⟩

theorem holds_entriesToJson (closed : Json.Closed P) : ∀ entries : List (String × Value),
    ∀ field ∈ entriesToJson entries, P field.2
  | [] => by simp [entriesToJson]
  | (key, value) :: rest =>
    List.forall_mem_cons.2 ⟨holds_toJson closed value, holds_entriesToJson closed rest⟩

end

end closed

theorem names_of_entriesOfJson {fields : List (String × Json)} {entries : List (String × Value)}
    (h : entriesOfJson fields = .ok entries) : Bindings.names entries = Bindings.names fields := by
  induction fields generalizing entries with
  | nil =>
    cases h
    rfl
  | cons field rest ih =>
    obtain ⟨key, json⟩ := field
    obtain ⟨value, -, h⟩ := bind_eq_ok.1 h
    obtain ⟨values, hr, h⟩ := bind_eq_ok.1 h
    cases h
    rw [Bindings.names_cons, Bindings.names_cons, ih hr]

mutual

theorem keyed_of_ofJson : ∀ {json : Json} {value : Value}, json.Keyed → ofJson json = .ok value →
    value.Keyed
  | .null, _, _, h | .bool _, _, _, h | .number _, _, _, h | .string _, _, _, h => by
    cases h
    trivial
  | .array items, _, hj, h => by
    obtain ⟨values, hi, rfl⟩ := map_eq_ok.1 h
    exact keyed_of_itemsOfJson hj hi
  | .object fields, _, hj, h => by
    unfold ofJson at h
    split at h
    · obtain ⟨x, -, rfl⟩ := map_eq_ok.1 h
      trivial
    · obtain ⟨text, -, h⟩ := bind_eq_ok.1 h
      obtain ⟨d, -, rfl⟩ := map_eq_ok.1 h
      trivial
    · obtain ⟨re, -, h⟩ := bind_eq_ok.1 h
      obtain ⟨im, -, h⟩ := bind_eq_ok.1 h
      cases h
      trivial
    · obtain ⟨magnitude, -, h⟩ := bind_eq_ok.1 h
      obtain ⟨name, -, h⟩ := bind_eq_ok.1 h
      cases h
      trivial
    · obtain ⟨values, hi, rfl⟩ := map_eq_ok.1 h
      exact keyed_of_listField hj.2 hi
    · obtain ⟨entries, he, rfl⟩ := map_eq_ok.1 h
      exact keyed_of_entriesField hj.2 he
    · obtain ⟨values, hi, rfl⟩ := map_eq_ok.1 h
      exact keyed_of_listField hj.2 hi
    · cases h
    · cases h
termination_by json => sizeOf json

theorem keyed_of_itemsOfJson : ∀ {items : List Json} {values : List Value}, Json.AllKeyed items →
    itemsOfJson items = .ok values → AllKeyed values
  | [], _, _, h => by
    cases h
    trivial
  | item :: rest, _, hj, h => by
    obtain ⟨value, hv, h⟩ := bind_eq_ok.1 h
    obtain ⟨values, hr, h⟩ := bind_eq_ok.1 h
    cases h
    exact ⟨keyed_of_ofJson hj.1 hv, keyed_of_itemsOfJson hj.2 hr⟩
termination_by items => sizeOf items

theorem keyed_of_listField : ∀ {kind name : String} {fields : List (String × Json)}
    {values : List Value}, Json.FieldsKeyed fields → listField kind name fields = .ok values →
    AllKeyed values
  | _, _, [], _, _, h => by cases h
  | kind, name, (key, json) :: rest, _, hj, h => by
    unfold listField at h
    split at h
    · split at h
      · exact keyed_of_itemsOfJson hj.1 h
      · cases h
    · exact keyed_of_listField hj.2 h
termination_by _ _ fields => sizeOf fields

theorem keyed_of_entriesField : ∀ {fields : List (String × Json)} {entries : List (String × Value)},
    Json.FieldsKeyed fields → entriesField fields = .ok entries → (Value.object entries).Keyed
  | [], _, _, h => by cases h
  | (key, json) :: rest, _, hj, h => by
    unfold entriesField at h
    split at h
    · split at h
      · rename_i fields
        refine ⟨?_, keyed_of_entriesOfJson hj.1.2 h⟩
        rw [names_of_entriesOfJson h]
        exact hj.1.1.nodup
      · cases h
    · exact keyed_of_entriesField hj.2 h
termination_by fields => sizeOf fields

theorem keyed_of_entriesOfJson : ∀ {fields : List (String × Json)}
    {entries : List (String × Value)}, Json.FieldsKeyed fields →
    entriesOfJson fields = .ok entries → EntriesKeyed entries
  | [], _, _, h => by
    cases h
    trivial
  | (key, json) :: rest, _, hj, h => by
    obtain ⟨value, hv, h⟩ := bind_eq_ok.1 h
    obtain ⟨values, hr, h⟩ := bind_eq_ok.1 h
    cases h
    exact ⟨keyed_of_ofJson hj.1 hv, keyed_of_entriesOfJson hj.2 hr⟩
termination_by fields => sizeOf fields

end

end FormulaTree.Value

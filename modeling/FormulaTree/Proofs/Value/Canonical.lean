import FormulaTree.Proofs.Double.Equality
import FormulaTree.Proofs.Value.Keyed
import FormulaTree.Value.Equality

set_option autoImplicit false

namespace FormulaTree

def Double.canonical (x : Float) : Float :=
  if x.isNaN then 0.0 / 0.0 else x

namespace Value

mutual

def canonical : Value → Value
  | .number x => .number (Double.canonical x)
  | .complex re im => .complex (Double.canonical re) (Double.canonical im)
  | .unit magnitude name => .unit (magnitude.map Double.canonical) name
  | .matrix items => .matrix (allCanonical items)
  | .object entries => .object (Bindings.sorted (entriesCanonical entries))
  | .resultSet items => .resultSet (allCanonical items)
  | value => value

def allCanonical : List Value → List Value
  | [] => []
  | item :: rest => canonical item :: allCanonical rest

def entriesCanonical : List (String × Value) → List (String × Value)
  | [] => []
  | (key, value) :: rest => (key, canonical value) :: entriesCanonical rest

end

mutual

def hasNaN : Value → Bool
  | .number x => x.isNaN
  | .complex re im => re.isNaN || im.isNaN
  | .unit magnitude _ => magnitude.any Float.isNaN
  | .matrix items => anyNaN items
  | .object entries => entryNaN entries
  | .resultSet items => anyNaN items
  | _ => false

def anyNaN : List Value → Bool
  | [] => false
  | item :: rest => hasNaN item || anyNaN rest

def entryNaN : List (String × Value) → Bool
  | [] => false
  | (_, value) :: rest => hasNaN value || entryNaN rest

end

theorem entriesCanonical_eq_map (entries : List (String × Value)) :
    entriesCanonical entries = entries.map fun entry => (entry.1, entry.2.canonical) := by
  induction entries with
  | nil => rfl
  | cons entry rest ih =>
    obtain ⟨key, value⟩ := entry
    rw [entriesCanonical, ih, List.map_cons]

theorem entriesToJson_eq_map (entries : List (String × Value)) :
    entriesToJson entries = entries.map fun entry => (entry.1, entry.2.toJson) := by
  induction entries with
  | nil => rfl
  | cons entry rest ih =>
    obtain ⟨key, value⟩ := entry
    rw [entriesToJson, ih, List.map_cons]

theorem sorted_entriesCanonical {entries : List (String × Value)}
    (h : (Bindings.names entries).Nodup) :
    Bindings.sorted (entriesCanonical entries)
      = (Bindings.ascending entries).map fun entry => (entry.1, entry.2.canonical) := by
  have same : Bindings.names (entriesCanonical entries) = Bindings.names entries := by
    simp [Bindings.names, entriesCanonical_eq_map, Function.comp_def]
  rw [← Bindings.ascending_eq_sorted (by rw [same]; exact h), entriesCanonical_eq_map,
    Bindings.ascending_map]

theorem canonical_beq {x : Float} (h : x.isNaN = false) : (Double.canonical x == x) = true := by
  rw [Double.canonical, h]
  exact Double.beq_self_iff.2 h

theorem equalEntries_iff {entries others : List (String × Value)} :
    equalEntries entries others = true ↔ ∀ entry ∈ entries, ∃ other,
      Bindings.get? entry.1 others = some other ∧ entry.2.equal other = true := by
  induction entries with
  | nil => simp [equalEntries]
  | cons entry rest ih =>
    obtain ⟨key, value⟩ := entry
    rw [equalEntries, Bool.and_eq_true, ih, List.forall_mem_cons]
    cases Bindings.get? key others <;> simp

mutual

theorem canonical_equal : ∀ value : Value, value.Keyed → value.hasNaN = false →
    value.canonical.equal value = true
  | .null, _, _ => rfl
  | .bool b, _, _ => by simp [canonical, equal]
  | .number x, _, h => canonical_beq h
  | .string text, _, _ => by simp [canonical, equal]
  | .decimal d, _, _ => by simp [canonical, equal]
  | .complex re im, _, h => by
    simp only [hasNaN, Bool.or_eq_false_iff] at h
    simp [canonical, equal, canonical_beq h.1, canonical_beq h.2]
  | .unit none name, _, _ => by simp [canonical, equal, equalMagnitude]
  | .unit (some x) name, _, h => by
    have number : x.isNaN = false := h
    simp [canonical, equal, equalMagnitude, canonical_beq number]
  | .matrix items, hk, h => allCanonical_equal items hk h
  | .object entries, hk, h => by
    have entries_equal := entriesCanonical_equal entries hk.2 h
    have same_length : (Bindings.ascending entries).length = entries.length :=
      (Bindings.ascending_perm hk.1).length_eq
    rw [canonical, sorted_entriesCanonical hk.1]
    -- Equality looks every key up, so the new order of the entries is no matter.
    simp only [equal, List.length_map, same_length, beq_self_eq_true, Bool.true_and]
    refine equalEntries_iff.2 fun entry mem => ?_
    obtain ⟨⟨key, value⟩, value_mem, rfl⟩ := List.mem_map.1 mem
    have value_mem := (Bindings.ascending_perm hk.1).mem_iff.1 value_mem
    exact ⟨value, Bindings.get?_of_mem hk.1 value_mem, entries_equal _ value_mem⟩
  | .resultSet items, hk, h => allCanonical_equal items hk h

theorem allCanonical_equal : ∀ items : List Value, AllKeyed items → anyNaN items = false →
    equalItems (allCanonical items) items = true
  | [], _, _ => rfl
  | item :: rest, hk, h => by
    simp only [anyNaN, Bool.or_eq_false_iff] at h
    simp [allCanonical, equalItems, canonical_equal item hk.1 h.1,
      allCanonical_equal rest hk.2 h.2]

theorem entriesCanonical_equal : ∀ entries : List (String × Value), EntriesKeyed entries →
    entryNaN entries = false → ∀ entry ∈ entries, entry.2.canonical.equal entry.2 = true
  | [], _, _ => by simp
  | (key, value) :: rest, hk, h => by
    simp only [entryNaN, Bool.or_eq_false_iff] at h
    exact List.forall_mem_cons.2
      ⟨canonical_equal value hk.1 h.1, entriesCanonical_equal rest hk.2 h.2⟩

end

end Value

end FormulaTree

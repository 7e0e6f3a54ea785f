import FormulaTree.Bindings
import Mathlib.Data.List.Sort

set_option autoImplicit false

namespace FormulaTree.Bindings

variable {β γ : Type}

def Ascending (bindings : List (String × β)) : Prop :=
  bindings.Pairwise fun a b => a.1 < b.1

theorem names_cons (name : String) (value : β) (rest : List (String × β)) :
    names ((name, value) :: rest) = name :: names rest := rfl

theorem Ascending.nodup {bindings : List (String × β)} (h : Ascending bindings) :
    (names bindings).Nodup := by
  rw [names, List.nodup_iff_pairwise_ne, List.pairwise_map]
  exact h.imp fun less => String.ne_of_lt less

/-- When a search for `name`, which skips every other name and has another result where there is no
such name, has a given result. -/
theorem search_eq_iff (search : List (String × β) → γ) (name : String) (result : γ)
    (accepts : β → Prop) (empty : search [] ≠ result)
    (hit : ∀ value rest, search ((name, value) :: rest) = result ↔ accepts value)
    (miss : ∀ {key : String} (old : β) rest, key ≠ name →
      search ((key, old) :: rest) = search rest) (bindings : List (String × β)) :
    search bindings = result ↔ ∃ value, get? name bindings = some value ∧ accepts value := by
  induction bindings with
  | nil => simpa [get?] using empty
  | cons pair rest ih =>
    obtain ⟨key, value⟩ := pair
    by_cases same : key = name
    · rw [same, hit]
      simp [get?]
    · rw [miss value rest same, ih, get?, if_neg same]

theorem mem_of_get? {name : String} {value : β} {bindings : List (String × β)}
    (h : get? name bindings = some value) : (name, value) ∈ bindings := by
  induction bindings with
  | nil => cases h
  | cons pair rest ih =>
    obtain ⟨key, old⟩ := pair
    unfold get? at h
    split at h
    · rename_i same
      cases h
      rw [same]
      exact List.mem_cons_self
    · exact List.mem_cons_of_mem _ (ih h)

theorem mem_of_mem_set {name : String} {value : β} {bindings : List (String × β)}
    {entry : String × β} (h : entry ∈ set name value bindings) :
    entry = (name, value) ∨ entry ∈ bindings := by
  induction bindings with
  | nil => simpa [set] using h
  | cons pair rest ih =>
    obtain ⟨key, old⟩ := pair
    unfold set at h
    split at h
    · rename_i same
      rcases List.mem_cons.1 h with rfl | h
      · exact .inl (by rw [same])
      · exact .inr (List.mem_cons_of_mem _ h)
    · rcases List.mem_cons.1 h with rfl | h
      · exact .inr List.mem_cons_self
      · exact (ih h).imp_right (List.mem_cons_of_mem _)

theorem mem_of_mem_insert {name : String} {value : β} {bindings : List (String × β)}
    {entry : String × β} (h : entry ∈ insert name value bindings) :
    entry = (name, value) ∨ entry ∈ bindings := by
  induction bindings with
  | nil => simpa [insert] using h
  | cons pair rest ih =>
    obtain ⟨key, old⟩ := pair
    unfold insert at h
    split at h
    · rename_i same
      rcases List.mem_cons.1 h with rfl | h
      · exact .inl (by rw [same])
      · exact .inr (List.mem_cons_of_mem _ h)
    · split at h
      · simpa using h
      · rcases List.mem_cons.1 h with rfl | h
        · exact .inr List.mem_cons_self
        · exact (ih h).imp_right (List.mem_cons_of_mem _)

theorem mem_of_mem_foldl_insert {pairs bindings : List (String × β)} {entry : String × β}
    (h : entry ∈ pairs.foldl (fun bindings pair => insert pair.1 pair.2 bindings) bindings) :
    entry ∈ pairs ∨ entry ∈ bindings := by
  induction pairs generalizing bindings with
  | nil => exact .inr h
  | cons pair rest ih =>
    rcases ih h with mem | mem
    · exact .inl (List.mem_cons_of_mem _ mem)
    · rcases mem_of_mem_insert mem with rfl | mem
      · exact .inl List.mem_cons_self
      · exact .inr mem

theorem mem_of_mem_ascending {pairs : List (String × β)} {entry : String × β}
    (h : entry ∈ ascending pairs) : entry ∈ pairs :=
  (mem_of_mem_foldl_insert h).resolve_right List.not_mem_nil

theorem Ascending.insert {bindings : List (String × β)} (h : Ascending bindings) (name : String)
    (value : β) : Ascending (insert name value bindings) := by
  induction bindings with
  | nil => simp [Bindings.insert, Ascending]
  | cons pair rest ih =>
    obtain ⟨key, old⟩ := pair
    obtain ⟨first, later⟩ := List.pairwise_cons.1 h
    unfold Bindings.insert
    split
    · rename_i same
      subst same
      exact List.pairwise_cons.2 ⟨first, later⟩
    · rename_i other
      split
      · rename_i less
        refine List.pairwise_cons.2 ⟨fun entry mem => ?_, h⟩
        rcases List.mem_cons.1 mem with rfl | mem
        · exact less
        · exact String.lt_trans less (first entry mem)
      · rename_i not_less
        refine List.pairwise_cons.2 ⟨fun entry mem => ?_, ih later⟩
        rcases mem_of_mem_insert mem with rfl | mem
        · rcases String.le_total key name with le | le
          · exact Decidable.byContradiction fun not_lt =>
              other (String.le_antisymm le (String.not_lt.1 not_lt))
          · exact absurd (String.le_antisymm (String.not_lt.1 not_less) le) other
        · exact first entry mem

theorem foldl_insert_ascending {bindings : List (String × β)} (h : Ascending bindings)
    (pairs : List (String × β)) :
    Ascending (pairs.foldl (fun bindings pair => insert pair.1 pair.2 bindings) bindings) := by
  induction pairs generalizing bindings with
  | nil => exact h
  | cons pair rest ih => exact ih (h.insert pair.1 pair.2)

theorem ascending_ascending (pairs : List (String × β)) : Ascending (ascending pairs) :=
  foldl_insert_ascending .nil pairs

theorem insert_perm {name : String} {bindings : List (String × β)} (h : name ∉ names bindings)
    (value : β) : (insert name value bindings).Perm ((name, value) :: bindings) := by
  induction bindings with
  | nil => exact .refl _
  | cons pair rest ih =>
    obtain ⟨key, old⟩ := pair
    rw [names_cons, List.mem_cons, not_or] at h
    unfold insert
    rw [if_neg fun same => h.1 same.symm]
    split
    · exact .refl _
    · exact ((ih h.2).cons (key, old)).trans (.swap _ _ _)

theorem foldl_insert_perm {pairs bindings : List (String × β)}
    (h : (names (pairs ++ bindings)).Nodup) :
    (pairs.foldl (fun bindings pair => insert pair.1 pair.2 bindings) bindings).Perm
      (pairs ++ bindings) := by
  induction pairs generalizing bindings with
  | nil => exact .refl _
  | cons pair rest ih =>
    obtain ⟨name, value⟩ := pair
    have fresh : name ∉ names (rest ++ bindings) := (List.nodup_cons.1 h).1
    have inserted : (insert name value bindings).Perm ((name, value) :: bindings) :=
      insert_perm (fun mem => fresh (by simp_all [names])) value
    have moved : (rest ++ insert name value bindings).Perm ((name, value) :: rest ++ bindings) :=
      (inserted.append_left rest).trans List.perm_middle
    refine (ih ?_).trans moved
    exact (moved.map Prod.fst).nodup_iff.2 h

theorem ascending_perm {pairs : List (String × β)} (h : (names pairs).Nodup) :
    (ascending pairs).Perm pairs := by
  have distinct : (names (pairs ++ [])).Nodup := by
    rw [List.append_nil]
    exact h
  have same := foldl_insert_perm distinct
  rwa [List.append_nil] at same

theorem insert_map (f : β → γ) (name : String) (value : β) (bindings : List (String × β)) :
    insert name (f value) (bindings.map fun entry => (entry.1, f entry.2))
      = (insert name value bindings).map fun entry => (entry.1, f entry.2) := by
  induction bindings with
  | nil => rfl
  | cons pair rest ih =>
    obtain ⟨key, old⟩ := pair
    by_cases same : key = name
    · simp [insert, same]
    · by_cases less : name < key
      · simp [insert, same, less]
      · simp [insert, same, less, ih]

theorem ascending_map (f : β → γ) (pairs : List (String × β)) :
    ascending (pairs.map fun entry => (entry.1, f entry.2))
      = (ascending pairs).map fun entry => (entry.1, f entry.2) := by
  have folded (bindings : List (String × β)) :
      (pairs.map fun entry => (entry.1, f entry.2)).foldl
          (fun bindings pair => insert pair.1 pair.2 bindings)
          (bindings.map fun entry => (entry.1, f entry.2))
        = (pairs.foldl (fun bindings pair => insert pair.1 pair.2 bindings) bindings).map
          fun entry => (entry.1, f entry.2) := by
    induction pairs generalizing bindings with
    | nil => rfl
    | cons pair rest ih =>
      rw [List.map_cons, List.foldl_cons, List.foldl_cons]
      refine Eq.trans ?_ (ih (insert pair.1 pair.2 bindings))
      rw [← insert_map]
  exact folded []

theorem get?_of_mem {bindings : List (String × β)} (h : (names bindings).Nodup) {name : String}
    {value : β} (mem : (name, value) ∈ bindings) : get? name bindings = some value := by
  induction bindings with
  | nil => cases mem
  | cons pair rest ih =>
    obtain ⟨key, old⟩ := pair
    obtain ⟨fresh, later⟩ := List.nodup_cons.1 h
    unfold get?
    rcases List.mem_cons.1 mem with same | mem
    · cases same
      rw [if_pos rfl]
    · have other : key ≠ name := by
        rintro rfl
        exact fresh (List.mem_map.2 ⟨_, mem, rfl⟩)
      rw [if_neg other, ih later mem]

theorem get?_ascending {name : String} {value : β} {pairs : List (String × β)}
    (distinct : (names pairs).Nodup) (h : get? name pairs = some value) :
    get? name (ascending pairs) = some value :=
  get?_of_mem (ascending_ascending pairs).nodup
    ((ascending_perm distinct).mem_iff.2 (mem_of_get? h))

/-- Lists without a repeated name that give every name the same value have the same entries. -/
theorem perm_of_get?_eq {bindings bindings' : List (String × β)} (h : (names bindings).Nodup)
    (h' : (names bindings').Nodup) (same : ∀ name, get? name bindings = get? name bindings') :
    bindings.Perm bindings' := by
  rw [List.perm_ext_iff_of_nodup (.of_map Prod.fst h) (.of_map Prod.fst h')]
  rintro ⟨name, value⟩
  constructor
  · intro mem
    exact mem_of_get? ((same name).symm.trans (get?_of_mem h mem))
  · intro mem
    exact mem_of_get? ((same name).trans (get?_of_mem h' mem))

def sorted (bindings : List (String × β)) : List (String × β) :=
  bindings.insertionSort fun a b => a.1 ≤ b.1

theorem ascending_eq_sorted {pairs : List (String × β)} (h : (names pairs).Nodup) :
    ascending pairs = sorted pairs := by
  have total : Std.Total fun a b : String × β => a.1 ≤ b.1 :=
    ⟨fun a b => String.le_total a.1 b.1⟩
  have transitive : IsTrans (String × β) fun a b => a.1 ≤ b.1 :=
    ⟨fun _ _ _ => String.le_trans⟩
  refine List.Perm.eq_of_pairwise (fun a b ha hb le ge => ?_)
    ((ascending_ascending pairs).imp fun less => ?_) (List.pairwise_insertionSort _ pairs)
    ((ascending_perm h).trans (List.perm_insertionSort _ pairs).symm)
  · have ha := (ascending_perm h).mem_iff.1 ha
    have hb := (List.perm_insertionSort _ pairs).mem_iff.1 hb
    obtain ⟨key, value⟩ := a
    obtain ⟨key', value'⟩ := b
    obtain rfl : key = key' := String.le_antisymm le ge
    have same := (get?_of_mem h ha).symm.trans (get?_of_mem h hb)
    cases same
    rfl
  · exact String.not_lt.1 (String.lt_asymm less)

end FormulaTree.Bindings

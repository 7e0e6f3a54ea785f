import FormulaTree.Proofs.Double.Equality
import FormulaTree.Proofs.Value.Canonical
import Mathlib.Data.List.Forall2

set_option autoImplicit false

namespace FormulaTree

section lists

variable {α β γ : Type} {xs : List α} {ys : List β} {zs : List γ}

theorem forall₂_symm_mem {related : α → β → Prop} {related' : β → α → Prop}
    (h : List.Forall₂ related xs ys)
    (imp : ∀ x ∈ xs, ∀ y ∈ ys, related x y → related' y x) : List.Forall₂ related' ys xs := by
  induction h with
  | nil => exact .nil
  | cons first _ ih =>
    refine .cons (imp _ List.mem_cons_self _ List.mem_cons_self first) (ih fun x hx y hy => ?_)
    exact imp x (List.mem_cons_of_mem _ hx) y (List.mem_cons_of_mem _ hy)

theorem forall₂_trans_mem {left : α → β → Prop} {right : β → γ → Prop} {whole : α → γ → Prop}
    (h : List.Forall₂ left xs ys) (h' : List.Forall₂ right ys zs)
    (imp : ∀ x ∈ xs, ∀ y z, left x y → right y z → whole x z) : List.Forall₂ whole xs zs := by
  induction h generalizing zs with
  | nil =>
    cases h'
    exact .nil
  | cons first _ ih =>
    cases h' with
    | cons first' later' =>
      obtain ⟨here, below⟩ := List.forall_mem_cons.1 imp
      exact .cons (here _ _ first first') (ih later' below)

end lists

/-- The laws of an equality that is not reflexive: it may be turned around and chained, and tells
what is equal to itself. -/
structure PartialEquality {α : Type} (valid : α → Prop) (equal : α → α → Bool)
    (strange : α → Bool) : Prop where
  symm : ∀ a b, valid a → valid b → equal a b = equal b a
  trans : ∀ a b c, valid a → valid b → valid c →
    equal a b = true → equal b c = true → equal a c = true
  self : ∀ a, valid a → (equal a a = true ↔ strange a = false)

namespace Value

/-- Induction over values, where a container may assume the property of all that it holds. -/
@[elab_as_elim]
theorem held_induction {motive : Value → Prop} (null : motive .null)
    (bool : ∀ b, motive (.bool b)) (number : ∀ x, motive (.number x))
    (string : ∀ text, motive (.string text)) (decimal : ∀ d, motive (.decimal d))
    (complex : ∀ re im, motive (.complex re im))
    (unit : ∀ magnitude name, motive (.unit magnitude name))
    (matrix : ∀ items, (∀ item ∈ items, motive item) → motive (.matrix items))
    (object : ∀ entries, (∀ entry ∈ entries, motive entry.2) → motive (.object entries))
    (resultSet : ∀ items, (∀ item ∈ items, motive item) → motive (.resultSet items))
    (value : Value) : motive value :=
  @Value.rec motive (fun items => ∀ item ∈ items, motive item)
    (fun entries => ∀ entry ∈ entries, motive entry.2) (fun entry => motive entry.2)
    null bool number string decimal complex unit matrix object resultSet
    (fun _ mem => nomatch mem) (fun _ _ first rest => List.forall_mem_cons.2 ⟨first, rest⟩)
    (fun _ mem => nomatch mem) (fun _ _ first rest => List.forall_mem_cons.2 ⟨first, rest⟩)
    (fun _ _ first => first) value

section shapes

variable {x re im : Float} {magnitude : Option Float} {name : String} {items : List Value}
variable {entries : List (String × Value)} {b : Value}

-- What is equal to a value of a kind is of that kind too.
theorem number_equal_iff : (number x).equal b = true ↔ ∃ y, b = number y ∧ (x == y) = true := by
  cases b <;> simp [equal]

theorem complex_equal_iff : (complex re im).equal b = true ↔
    ∃ re' im', b = complex re' im' ∧ (re == re') = true ∧ (im == im') = true := by
  cases b <;> simp [equal]

theorem unit_equal_iff : (unit magnitude name).equal b = true ↔
    ∃ magnitude', b = unit magnitude' name ∧ equalMagnitude magnitude magnitude' = true := by
  cases b with
  | unit magnitude' name' =>
    simp only [equal, Bool.and_eq_true, beq_iff_eq]
    constructor
    · rintro ⟨same, rfl⟩
      exact ⟨magnitude', rfl, same⟩
    · rintro ⟨_, ⟨⟩, same⟩
      exact ⟨same, rfl⟩
  | _ => simp [equal]

theorem matrix_equal_iff : (matrix items).equal b = true ↔
    ∃ others, b = matrix others ∧ equalItems items others = true := by
  cases b <;> simp [equal]

theorem object_equal_iff : (object entries).equal b = true ↔ ∃ others, b = object others ∧
    entries.length = others.length ∧ equalEntries entries others = true := by
  cases b <;> simp [equal]

theorem resultSet_equal_iff : (resultSet items).equal b = true ↔
    ∃ others, b = resultSet others ∧ equalItems items others = true := by
  cases b <;> simp [equal]

end shapes

theorem equalItems_iff {xs ys : List Value} :
    equalItems xs ys = true ↔ List.Forall₂ (fun x y => x.equal y = true) xs ys := by
  induction xs generalizing ys with
  | nil => cases ys <;> simp [equalItems]
  | cons x xs ih => cases ys <;> simp [equalItems, ih]

theorem anyNaN_eq_any (items : List Value) : anyNaN items = items.any hasNaN := by
  induction items with
  | nil => rfl
  | cons item rest ih => rw [anyNaN, List.any_cons, ih]

theorem entryNaN_eq_any (entries : List (String × Value)) :
    entryNaN entries = entries.any fun entry => entry.2.hasNaN := by
  induction entries with
  | nil => rfl
  | cons entry rest ih =>
    obtain ⟨key, value⟩ := entry
    rw [entryNaN, List.any_cons, ih]

theorem equalMagnitude_comm (x y : Option Float) : equalMagnitude x y = equalMagnitude y x := by
  cases x with
  | none => cases y <;> rfl
  | some x =>
    cases y with
    | none => rfl
    | some y => exact Double.beq_comm x y

theorem equalMagnitude_trans {x y z : Option Float} (h : equalMagnitude x y = true)
    (h' : equalMagnitude y z = true) : equalMagnitude x z = true := by
  cases x with
  | none =>
    cases y with
    | none => exact h'
    | some y => cases h
  | some x =>
    cases y with
    | none => cases h
    | some y =>
      cases z with
      | none => cases h'
      | some z => exact Double.beq_trans h h'

theorem equalMagnitude_self_iff {x : Option Float} :
    equalMagnitude x x = true ↔ x.any Float.isNaN = false := by
  cases x with
  | none => simp [equalMagnitude]
  | some x => exact Double.beq_self_iff

/-- Objects of one size, the keys of one among those of the other. -/
theorem mem_names_of_equalEntries {es fs : List (String × Value)}
    (distinct : (Bindings.names es).Nodup) (size : es.length = fs.length)
    (h : equalEntries es fs = true) {key : String} (mem : key ∈ Bindings.names fs) :
    key ∈ Bindings.names es := by
  have among : Bindings.names es ⊆ Bindings.names fs := by
    intro name name_mem
    obtain ⟨entry, entry_mem, rfl⟩ := List.mem_map.1 name_mem
    obtain ⟨other, found, -⟩ := equalEntries_iff.1 h entry entry_mem
    exact List.mem_map.2 ⟨_, Bindings.mem_of_get? found, rfl⟩
  have same : (Bindings.names es).Perm (Bindings.names fs) :=
    (distinct.subperm among).perm_of_length_le (by simp [Bindings.names, size])
  exact same.mem_iff.2 mem

theorem equalEntries_symm {es fs : List (String × Value)} (distinct : (Bindings.names es).Nodup)
    (distinct' : (Bindings.names fs).Nodup) (size : es.length = fs.length)
    (turn : ∀ entry ∈ es, ∀ entry' ∈ fs,
      entry.2.equal entry'.2 = true → entry'.2.equal entry.2 = true)
    (h : equalEntries es fs = true) : equalEntries fs es = true := by
  refine equalEntries_iff.2 fun entry' mem' => ?_
  have key_mem := mem_names_of_equalEntries distinct size h (List.mem_map_of_mem mem')
  obtain ⟨entry, mem, key⟩ := List.mem_map.1 key_mem
  obtain ⟨other, found, same⟩ := equalEntries_iff.1 h entry mem
  have here : Bindings.get? entry.1 fs = some entry'.2 := by
    rw [key]
    exact Bindings.get?_of_mem distinct' mem'
  obtain rfl : entry'.2 = other := Option.some.inj (here.symm.trans found)
  refine ⟨entry.2, ?_, turn entry mem entry' mem' same⟩
  rw [← key]
  exact Bindings.get?_of_mem distinct mem

theorem equalItems_symm {xs ys : List Value}
    (turn : ∀ x ∈ xs, ∀ {y : Value}, x.Keyed → y.Keyed → x.equal y = true → y.equal x = true)
    (hx : AllKeyed xs) (hy : AllKeyed ys) (h : equalItems xs ys = true) :
    equalItems ys xs = true := by
  rw [allKeyed_iff] at hx hy
  rw [equalItems_iff] at h ⊢
  exact forall₂_symm_mem h fun x x_mem y y_mem => turn x x_mem (hx x x_mem) (hy y y_mem)

theorem equal_symm {a b : Value} (ha : a.Keyed) (hb : b.Keyed) (h : a.equal b = true) :
    b.equal a = true := by
  induction a using held_induction generalizing b with
  | null | bool | string | decimal => cases b <;> simp_all [equal]
  | number x =>
    obtain ⟨y, rfl, same⟩ := number_equal_iff.1 h
    exact number_equal_iff.2 ⟨x, rfl, by rwa [Double.beq_comm]⟩
  | complex re im =>
    obtain ⟨re', im', rfl, hre, him⟩ := complex_equal_iff.1 h
    exact complex_equal_iff.2 ⟨re, im, rfl, by rwa [Double.beq_comm], by rwa [Double.beq_comm]⟩
  | unit magnitude name =>
    obtain ⟨magnitude', rfl, same⟩ := unit_equal_iff.1 h
    exact unit_equal_iff.2 ⟨magnitude, rfl, by rwa [equalMagnitude_comm]⟩
  | matrix items ih =>
    obtain ⟨others, rfl, same⟩ := matrix_equal_iff.1 h
    exact matrix_equal_iff.2 ⟨items, rfl, equalItems_symm ih ha hb same⟩
  | resultSet items ih =>
    obtain ⟨others, rfl, same⟩ := resultSet_equal_iff.1 h
    exact resultSet_equal_iff.2 ⟨items, rfl, equalItems_symm ih ha hb same⟩
  | object entries ih =>
    obtain ⟨others, rfl, size, same⟩ := object_equal_iff.1 h
    have turn : ∀ entry ∈ entries, ∀ entry' ∈ others,
        entry.2.equal entry'.2 = true → entry'.2.equal entry.2 = true :=
      fun entry mem entry' mem' => ih entry mem ((entriesKeyed_iff _).1 ha.2 entry mem)
        ((entriesKeyed_iff _).1 hb.2 entry' mem')
    exact object_equal_iff.2 ⟨entries, rfl, size.symm, equalEntries_symm ha.1 hb.1 size turn same⟩

theorem equal_comm {a b : Value} (ha : a.Keyed) (hb : b.Keyed) : a.equal b = b.equal a :=
  Bool.eq_iff_iff.2 ⟨equal_symm ha hb, equal_symm hb ha⟩

theorem equalItems_trans {xs ys zs : List Value}
    (chain : ∀ x ∈ xs, ∀ {y z : Value}, x.equal y = true → y.equal z = true → x.equal z = true)
    (h : equalItems xs ys = true) (h' : equalItems ys zs = true) : equalItems xs zs = true := by
  rw [equalItems_iff] at h h' ⊢
  exact forall₂_trans_mem h h' fun x mem y z => chain x mem

theorem equal_trans {a b c : Value} (h : a.equal b = true) (h' : b.equal c = true) :
    a.equal c = true := by
  induction a using held_induction generalizing b c with
  | null | bool | string | decimal => cases b <;> cases c <;> simp_all [equal]
  | number x =>
    obtain ⟨y, rfl, same⟩ := number_equal_iff.1 h
    obtain ⟨z, rfl, same'⟩ := number_equal_iff.1 h'
    exact number_equal_iff.2 ⟨z, rfl, Double.beq_trans same same'⟩
  | complex re im =>
    obtain ⟨_, _, rfl, hre, him⟩ := complex_equal_iff.1 h
    obtain ⟨_, _, rfl, hre', him'⟩ := complex_equal_iff.1 h'
    exact complex_equal_iff.2
      ⟨_, _, rfl, Double.beq_trans hre hre', Double.beq_trans him him'⟩
  | unit magnitude name =>
    obtain ⟨_, rfl, same⟩ := unit_equal_iff.1 h
    obtain ⟨_, rfl, same'⟩ := unit_equal_iff.1 h'
    exact unit_equal_iff.2 ⟨_, rfl, equalMagnitude_trans same same'⟩
  | matrix items ih =>
    obtain ⟨_, rfl, same⟩ := matrix_equal_iff.1 h
    obtain ⟨_, rfl, same'⟩ := matrix_equal_iff.1 h'
    exact matrix_equal_iff.2 ⟨_, rfl, equalItems_trans ih same same'⟩
  | resultSet items ih =>
    obtain ⟨_, rfl, same⟩ := resultSet_equal_iff.1 h
    obtain ⟨_, rfl, same'⟩ := resultSet_equal_iff.1 h'
    exact resultSet_equal_iff.2 ⟨_, rfl, equalItems_trans ih same same'⟩
  | object entries ih =>
    obtain ⟨_, rfl, size, same⟩ := object_equal_iff.1 h
    obtain ⟨_, rfl, size', same'⟩ := object_equal_iff.1 h'
    refine object_equal_iff.2 ⟨_, rfl, size.trans size', equalEntries_iff.2 fun entry mem => ?_⟩
    obtain ⟨other, found, here⟩ := equalEntries_iff.1 same entry mem
    obtain ⟨third, found', here'⟩ := equalEntries_iff.1 same' _ (Bindings.mem_of_get? found)
    exact ⟨third, found', ih entry mem here here'⟩

theorem equalItems_self_iff {items : List Value}
    (self : ∀ item ∈ items, item.Keyed → (item.equal item = true ↔ item.hasNaN = false))
    (h : AllKeyed items) : equalItems items items = true ↔ anyNaN items = false := by
  rw [allKeyed_iff] at h
  rw [equalItems_iff, List.forall₂_same, anyNaN_eq_any, List.any_eq_false]
  refine forall₂_congr fun item mem => ?_
  rw [self item mem (h item mem), Bool.not_eq_true]

/-- A value is equal to itself unless there is a NaN in it. -/
theorem equal_self_iff {a : Value} (h : a.Keyed) : a.equal a = true ↔ a.hasNaN = false := by
  induction a using held_induction with
  | null | bool | string | decimal => simp [equal, hasNaN]
  | number x => exact Double.beq_self_iff
  | complex re im => simp only [equal, hasNaN, Bool.and_eq_true, Bool.or_eq_false_iff,
      Double.beq_self_iff]
  | unit magnitude name => simp only [equal, hasNaN, Bool.and_eq_true, beq_self_eq_true, and_true,
      equalMagnitude_self_iff]
  | matrix items ih => exact equalItems_self_iff ih h
  | resultSet items ih => exact equalItems_self_iff ih h
  | object entries ih =>
    have keyed := (entriesKeyed_iff _).1 h.2
    rw [equal, beq_self_eq_true, Bool.true_and, equalEntries_iff, hasNaN, entryNaN_eq_any,
      List.any_eq_false]
    refine forall₂_congr fun entry mem => ?_
    rw [Bindings.get?_of_mem h.1 mem, Bool.not_eq_true, ← ih entry mem (keyed entry mem)]
    simp

theorem partialEquality_equal : PartialEquality Keyed equal hasNaN where
  symm _ _ := equal_comm
  trans _ _ _ _ _ _ := equal_trans
  self _ := equal_self_iff

end Value

end FormulaTree

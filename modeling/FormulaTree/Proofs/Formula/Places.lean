import FormulaTree.Proofs.Formula.Calls
import FormulaTree.Proofs.Formula.Labels
import FormulaTree.Proofs.Formula.Sound
import Mathlib.Data.List.Permutation

set_option autoImplicit false

namespace FormulaTree

namespace Visit

def toPart (visit : Visit) (child : Formula.Position × Formula) : Visit :=
  ⟨child.2, child.1 :: visit.address, some visit.formula⟩

/-- What is met at a place below the visited formula. -/
def below? (visit : Visit) : List Nat → Option Visit
  | [] => some visit
  | i :: rest =>
    match visit.formula.children[i]? with
    | some child => (visit.toPart child).below? rest
    | none => none

/-- The labels on the way to the visited formula, the outermost first. -/
def labels (visit : Visit) : List String :=
  visit.address.reverse.map Formula.Position.label

variable {root visit visit' : Visit}

theorem below?_cons {i : Nat} {child : Formula.Position × Formula}
    (part : root.formula.children[i]? = some child) (rest : List Nat) :
    root.below? (i :: rest) = (root.toPart child).below? rest := by
  rw [below?, part]

theorem below?_cons_eq_some {i : Nat} {rest : List Nat} (h : root.below? (i :: rest) = some visit) :
    ∃ child, root.formula.children[i]? = some child ∧
      (root.toPart child).below? rest = some visit := by
  unfold below? at h
  split at h
  · rename_i child part
    exact ⟨child, part, h⟩
  · cases h

theorem below?_snoc_eq_some {place : List Nat} {i : Nat}
    (h : root.below? (place ++ [i]) = some visit) :
    ∃ above child, root.below? place = some above ∧ above.formula.children[i]? = some child ∧
      visit = above.toPart child := by
  induction place generalizing root with
  | nil =>
    obtain ⟨child, part, rest⟩ := below?_cons_eq_some h
    exact ⟨root, child, rfl, part, (Option.some.inj rest).symm⟩
  | cons j place ih =>
    obtain ⟨child, part, rest⟩ := below?_cons_eq_some h
    rw [below?_cons part]
    exact ih rest

theorem labels_toPart (child : Formula.Position × Formula) :
    (root.toPart child).labels = root.labels ++ [child.1.label] := by
  simp [labels, toPart]

theorem exists_labels {place : List Nat} (h : root.below? place = some visit) :
    ∃ steps, steps.length = place.length ∧ visit.labels = root.labels ++ steps := by
  induction place generalizing root with
  | nil =>
    cases h
    exact ⟨[], rfl, (List.append_nil _).symm⟩
  | cons i place ih =>
    obtain ⟨child, -, rest⟩ := below?_cons_eq_some h
    obtain ⟨steps, count, labels⟩ := ih rest
    refine ⟨child.1.label :: steps, by simp [count], ?_⟩
    rw [labels, labels_toPart, List.append_assoc, List.singleton_append]

theorem index_eq_of_label {formula : Formula} {i j : Nat}
    {child child' : Formula.Position × Formula} (first : formula.children[i]? = some child)
    (second : formula.children[j]? = some child') (same : child.1.label = child'.1.label) :
    i = j := by
  have labels : (formula.children.map fun child => child.1.label)[i]?
      = (formula.children.map fun child => child.1.label)[j]? := by
    simp [first, second, same]
  refine (List.getElem?_inj ?_ formula.nodup_labels).1 labels
  rw [List.length_map]
  exact (List.getElem?_eq_some_iff.1 first).1

theorem place_eq_of_labels {place place' : List Nat} (h : root.below? place = some visit)
    (h' : root.below? place' = some visit') (same : visit.labels = visit'.labels) :
    place = place' := by
  induction place generalizing root place' with
  | nil =>
    obtain ⟨steps, count, labels⟩ := exists_labels h'
    cases h
    have none : steps = [] := List.append_right_eq_self.1 (labels.symm.trans same.symm)
    exact (List.length_eq_zero_iff.1 (count.symm.trans (congrArg List.length none))).symm
  | cons i place ih =>
    obtain ⟨child, part, rest⟩ := below?_cons_eq_some h
    obtain ⟨steps, -, labels⟩ := exists_labels rest
    cases place' with
    | nil =>
      cases h'
      rw [labels_toPart] at labels
      have longer := congrArg List.length (same.symm.trans labels)
      simp at longer
    | cons j place' =>
      obtain ⟨child', part', rest'⟩ := below?_cons_eq_some h'
      obtain ⟨steps', -, labels'⟩ := exists_labels rest'
      rw [labels, labels', labels_toPart, labels_toPart, List.append_assoc, List.append_assoc] at same
      have step := (List.cons.inj (List.append_cancel_left same)).1
      obtain rfl := index_eq_of_label part part' step
      obtain rfl := Option.some.inj (part.symm.trans part')
      rw [ih rest rest']

end Visit

/-- The visits are what is met at the places, which ascend lexicographically and are all there are:
those below a node follow it, and those below one part come before those below a later one. -/
structure Enumerates (root : Visit) (places : List (List Nat)) (visits : List Visit) : Prop where
  ascending : places.Pairwise (· < ·)
  complete : ∀ place, place ∈ places ↔ ∃ visit, root.below? place = some visit
  visits : places.map root.below? = visits.map some

namespace Formula

/-- The places in the parts that stand behind `before`. -/
theorem exists_places_parts {root : Visit} {before after : List (Position × Formula)}
    (split : root.formula.children = before ++ after)
    (parts : ∀ child ∈ after, ∃ places, Enumerates (root.toPart child) places
      (child.2.visitsFrom (child.1 :: root.address) (some root.formula))) :
    ∃ places : List (List Nat), places.Pairwise (· < ·) ∧
      (∀ place, place ∈ places ↔ (∃ i rest, place = i :: rest ∧ before.length ≤ i) ∧
        ∃ visit, root.below? place = some visit) ∧
      places.map root.below? = (after.flatMap fun child =>
        child.2.visitsFrom (child.1 :: root.address) (some root.formula)).map some := by
  -- The parts that the walk has behind it are those in `before`, so a place goes on with an index
  -- that is at least their number.
  induction after generalizing before with
  | nil =>
    refine ⟨[], .nil, fun place => ⟨fun mem => (nomatch mem), ?_⟩, rfl⟩
    rintro ⟨⟨i, rest, rfl, behind⟩, visit, met⟩
    obtain ⟨child, part, -⟩ := Visit.below?_cons_eq_some met
    rw [split, List.append_nil, List.getElem?_eq_none behind] at part
    cases part
  | cons child after ih =>
    obtain ⟨first, later⟩ := List.forall_mem_cons.1 parts
    obtain ⟨here, enumerates⟩ := first
    have split' : root.formula.children = before ++ [child] ++ after := by simp [split]
    obtain ⟨there, ascending, complete, visits⟩ := ih split' later
    have part : root.formula.children[before.length]? = some child := by simp [split]
    have behind (i : Nat) : (before ++ [child]).length ≤ i ↔ before.length < i := by
      rw [List.length_append, List.length_singleton]
      omega
    refine ⟨here.map (before.length :: ·) ++ there, ?_, fun place => ?_, ?_⟩
    · refine List.pairwise_append.2 ⟨?_, ascending, ?_⟩
      · rw [List.pairwise_map]
        exact enumerates.ascending.imp fun less => List.cons_lt_cons_iff.2 (.inr ⟨rfl, less⟩)
      · intro place mem place' mem'
        obtain ⟨rest, -, rfl⟩ := List.mem_map.1 mem
        obtain ⟨⟨i, rest', rfl, more⟩, -⟩ := (complete place').1 mem'
        exact List.cons_lt_cons_iff.2 (.inl ((behind i).1 more))
    · rw [List.mem_append, List.mem_map, complete]
      constructor
      · rintro (⟨rest, mem, rfl⟩ | ⟨⟨i, rest, rfl, more⟩, met⟩)
        · refine ⟨⟨before.length, rest, rfl, le_rfl⟩, ?_⟩
          rw [Visit.below?_cons part]
          exact (enumerates.complete rest).1 mem
        · exact ⟨⟨i, rest, rfl, ((behind i).1 more).le⟩, met⟩
      · rintro ⟨⟨i, rest, rfl, more⟩, met⟩
        rcases more.eq_or_lt with rfl | more
        · rw [Visit.below?_cons part] at met
          exact .inl ⟨rest, (enumerates.complete rest).2 met, rfl⟩
        · exact .inr ⟨⟨i, rest, rfl, (behind i).2 more⟩, met⟩
    · rw [List.map_append, List.flatMap_cons, List.map_append, visits, List.map_map,
        ← enumerates.visits]
      congr 1
      exact List.map_congr_left fun rest _ => Visit.below?_cons part rest

theorem exists_places (formula : Formula) (address : List Position) (parent : Option Formula) :
    ∃ places, Enumerates ⟨formula, address, parent⟩ places
      (formula.visitsFrom address parent) := by
  have parts : ∀ child ∈ formula.children, ∃ places,
      Enumerates (Visit.toPart ⟨formula, address, parent⟩ child) places
        (child.2.visitsFrom (child.1 :: address) (some formula)) :=
    fun child mem => exists_places child.2 (child.1 :: address) (some formula)
  obtain ⟨places, ascending, complete, visits⟩ :=
    @exists_places_parts ⟨formula, address, parent⟩ [] formula.children rfl parts
  refine ⟨[] :: places, List.pairwise_cons.2 ⟨fun place mem => ?_, ascending⟩, fun place => ?_, ?_⟩
  · obtain ⟨⟨i, rest, rfl, -⟩, -⟩ := (complete place).1 mem
    exact List.nil_lt_cons i rest
  · cases place with
    | nil => simp [Visit.below?]
    | cons i rest => simp [complete]
  · rw [visitsFrom_eq, List.map_cons, List.map_cons, visits]
    rfl
termination_by formula
decreasing_by exact sizeOf_child_lt mem

variable {formula : Formula}

theorem nodup_visits_labels (formula : Formula) : (formula.visits.map Visit.labels).Nodup := by
  obtain ⟨places, enumerates⟩ := exists_places formula [] none
  have places_nodup : places.Nodup := by
    refine enumerates.ascending.imp ?_
    rintro place _ less rfl
    exact List.lt_irrefl place less
  have met := congrArg (List.map (Option.map Visit.labels)) enumerates.visits
  rw [List.map_map, List.map_map] at met
  have labels_nodup : (places.map fun place =>
      (Visit.below? ⟨formula, [], none⟩ place).map Visit.labels).Nodup := by
    refine places_nodup.map_on fun place mem place' mem' same => ?_
    obtain ⟨visit, here⟩ := (enumerates.complete place).1 mem
    obtain ⟨visit', there⟩ := (enumerates.complete place').1 mem'
    rw [here, there, Option.map_some, Option.map_some, Option.some.injEq] at same
    exact Visit.place_eq_of_labels here there same
  refine List.Nodup.of_map some ?_
  rw [List.map_map]
  exact met ▸ labels_nodup

theorem labels_calls_perm (h : formula.WellFormed) {σ : Type}
    {change : Visit → ExceptT Error (StateM σ) Formula} {s s' : σ} {calls : List Call}
    {result : Formula}
    (run : exec (formula.transform (logged change)) (s, []) = (.ok result, s', calls)) :
    (calls.map fun call => call.visit.labels).Perm (formula.visits.map Visit.labels) := by
  obtain ⟨calls', noted, followed, -⟩ := notes_rewrite h change [] none s []
  rw [transform, transformAt_eq_rewrite h, noted, List.nil_append, Prod.mk.injEq,
    Prod.mk.injEq] at run
  obtain ⟨succeeds, -, rfl⟩ := run
  rw [succeeds] at followed
  have answered : List.Forall₂ Answered formula.postorder calls' := followed
  have labels : (calls'.map fun call => call.visit.labels)
      = formula.postorder.map Visit.labels := by
    have same : List.Forall₂ Eq (formula.postorder.map Visit.labels)
        (calls'.map fun call => call.visit.labels) := by
      rw [List.forall₂_map_left_iff, List.forall₂_map_right_iff]
      exact answered.imp fun visit call here => by rw [Visit.labels, Visit.labels, here.1.address]
    rw [List.forall₂_eq_eq_eq] at same
    exact same.symm
  rw [labels]
  exact (postorderFrom_perm [] none formula).map Visit.labels

/-- A walk comes to every node at its place, once and in the order of places, with the node above it
and the position that the node above has it at; the parts of a node have labels of their own, so the
labels on the way tell the visits apart. A filter keeps the visits that pass, in their order, and a
transformation that succeeds calls for the same labels. -/
theorem visits_once_each (h : formula.WellFormed) :
    (∃ places, Enumerates ⟨formula, [], none⟩ places formula.visits) ∧
      (∀ place i visit, Visit.below? ⟨formula, [], none⟩ (place ++ [i]) = some visit →
        ∃ above position, Visit.below? ⟨formula, [], none⟩ place = some above ∧
          visit.parent = some above.formula ∧ visit.address = position :: above.address ∧
          above.formula.partVisits[i]?
            = some ⟨visit.formula, [position], some above.formula⟩) ∧
      (∀ node : Formula, (node.partVisits.map Visit.labels).Nodup) ∧
      (formula.visits.map Visit.labels).Nodup ∧
      (∀ keep, ∃ kept : List Visit, kept.Sublist formula.visits ∧
        (∀ visit ∈ formula.visits, visit ∈ kept ↔ keep visit = true) ∧
        formula.filter keep = kept.map Visit.formula) ∧
      ∀ (σ : Type) (change : Visit → ExceptT Error (StateM σ) Formula) (s s' : σ)
        (calls : List Call) (result : Formula),
        exec (formula.transform (logged change)) (s, []) = (.ok result, s', calls) →
          (calls.map fun call => call.visit.labels).Perm (formula.visits.map Visit.labels) := by
  refine ⟨exists_places formula [] none, fun place i visit met => ?_, fun node => ?_,
    nodup_visits_labels formula, fun keep => ?_, fun σ change s s' calls result run => ?_⟩
  · obtain ⟨above, child, there, part, rfl⟩ := Visit.below?_snoc_eq_some met
    refine ⟨above, child.1, there, rfl, rfl, ?_⟩
    rw [partVisits, List.getElem?_map, part]
    rfl
  · have labels := (nodup_labels node).map List.singleton_injective
    rw [List.map_map] at labels
    rw [partVisits, List.map_map]
    exact labels
  · refine ⟨formula.visits.filter keep, List.filter_sublist, fun visit mem => ?_, rfl⟩
    rw [List.mem_filter]
    exact and_iff_right mem
  · exact labels_calls_perm h run

/-- One symbol stands at five places, twice as an argument of a call. -/
theorem visits_once_each_repeated :
    let x := Formula.symbol "x"
    let formula := Formula.conditional [x, .symbol "p"] [x, x, .call "f" [x, x]]
    formula.WellFormed ∧
      formula.visits.map Visit.labels = [[], ["ifCondition"], ["ifBlock"],
        ["elseIfCondition[1]"], ["elseIfBlock[1]"], ["elseBlock"], ["elseBlock", "args[0]"],
        ["elseBlock", "args[1]"]] ∧
      (∃ places, Enumerates ⟨formula, [], none⟩ places formula.visits) ∧
      (formula.visits.map Visit.labels).Nodup := by
  intro x formula
  have wellFormed : formula.WellFormed := by
    refine Sound.wellFormed ?_
    simp [formula, x, sound_conditional_iff, sound_call_iff, sound_symbol, Shape]
  obtain ⟨enumerated, -, -, apart, -⟩ := visits_once_each wellFormed
  refine ⟨wellFormed, ?_, enumerated, apart⟩
  cbv

end Formula

end FormulaTree

import FormulaTree.Error
import Mathlib.Data.List.Forall2

/-!
# Computations that may fail

Without a state, a computation of several steps succeeds when each of them does. On a state, `exec`
runs a computation from a state that outlives a failure, so the equations say both what comes out
and what is left. Every later proof opens a run through these lemmas alone.
-/

set_option autoImplicit false

namespace FormulaTree

variable {σ α β : Type}

theorem ok_bind {ε : Type} (a : α) (f : α → Except ε β) : (Except.ok a >>= f) = f a := rfl

theorem bind_eq_ok {ε : Type} {x : Except ε α} {f : α → Except ε β} {b : β} :
    (x >>= f) = .ok b ↔ ∃ a, x = .ok a ∧ f a = .ok b := by
  cases x with
  | ok a => simp [bind, Except.bind]
  | error e => simp [bind, Except.bind]

theorem map_eq_ok {ε : Type} {x : Except ε α} {f : α → β} {b : β} :
    f <$> x = .ok b ↔ ∃ a, x = .ok a ∧ f a = b := by
  cases x with
  | ok a => simp [Functor.map, Except.map]
  | error e => simp [Functor.map, Except.map]

@[simp] theorem ofExcept_eq (r : Except Error α) :
    (MonadExcept.ofExcept r : Except Error α) = r := by
  cases r <;> rfl

theorem mapM_eq_ok {ε : Type} {step : α → Except ε β} {entries : List α} {results : List β} :
    entries.mapM step = .ok results ↔
      List.Forall₂ (fun entry result => step entry = .ok result) entries results := by
  induction entries generalizing results with
  | nil => simp [pure, Except.pure, eq_comm]
  | cons entry rest ih =>
    rw [List.mapM_cons, bind_eq_ok, List.forall₂_cons_left_iff]
    refine exists_congr fun result => ?_
    rw [bind_eq_ok]
    constructor
    · rintro ⟨first, others, later, same⟩
      cases same
      exact ⟨others, first, ih.1 later, rfl⟩
    · rintro ⟨others, first, later, rfl⟩
      exact ⟨first, others, ih.2 later, rfl⟩

theorem exists_forall₂_iff {related : α → β → Prop} {entries : List α} :
    (∃ results, List.Forall₂ related entries results) ↔
      ∀ entry ∈ entries, ∃ result, related entry result := by
  induction entries with
  | nil => simp
  | cons entry rest ih =>
    rw [List.forall_mem_cons, ← ih]
    constructor
    · rintro ⟨results, _ | ⟨first, later⟩⟩
      exact ⟨⟨_, first⟩, _, later⟩
    · rintro ⟨⟨result, first⟩, results, later⟩
      exact ⟨result :: results, .cons first later⟩

theorem exists_of_forall₂ {related : α → β → Prop} {entries : List α} {results : List β}
    (h : List.Forall₂ related entries results) :
    ∀ result ∈ results, ∃ entry ∈ entries, related entry result := by
  induction h with
  | nil => simp
  | cons first _ ih =>
    rw [List.forall_mem_cons]
    refine ⟨⟨_, List.mem_cons_self, first⟩, fun result mem => ?_⟩
    obtain ⟨entry, entry_mem, holds⟩ := ih result mem
    exact ⟨entry, List.mem_cons_of_mem _ entry_mem, holds⟩

theorem forall₂_imp_mem {related related' : α → β → Prop} {entries : List α} {results : List β}
    (h : List.Forall₂ related entries results)
    (imp : ∀ entry ∈ entries, ∀ result, related entry result → related' entry result) :
    List.Forall₂ related' entries results := by
  have both := (List.forall₂_and_left entries results).2 ⟨fun entry mem => mem, h⟩
  exact both.imp fun entry result ⟨mem, holds⟩ => imp entry mem result holds

theorem mapM_isOk_iff {ε : Type} {step : α → Except ε β} {entries : List α} :
    (∃ results, entries.mapM step = .ok results) ↔
      ∀ entry ∈ entries, ∃ result, step entry = .ok result := by
  simp only [mapM_eq_ok, exists_forall₂_iff]

def exec (x : ExceptT Error (StateM σ) α) (s : σ) : Except Error α × σ :=
  (x.run.run s).run

@[simp] theorem exec_pure (a : α) (s : σ) :
    exec (pure a : ExceptT Error (StateM σ) α) s = (.ok a, s) := rfl

@[simp] theorem exec_throw (e : Error) (s : σ) :
    exec (throw e : ExceptT Error (StateM σ) α) s = (.error e, s) := rfl

@[simp] theorem exec_get (s : σ) : exec (get : ExceptT Error (StateM σ) σ) s = (.ok s, s) := rfl

@[simp] theorem exec_modify (f : σ → σ) (s : σ) :
    exec (modify f : ExceptT Error (StateM σ) PUnit) s = (.ok ⟨⟩, f s) := rfl

@[simp] theorem exec_ofExcept (r : Except Error α) (s : σ) :
    exec (MonadExcept.ofExcept r : ExceptT Error (StateM σ) α) s = (r, s) := by
  cases r <;> rfl

@[simp] theorem exec_map (f : α → β) (x : ExceptT Error (StateM σ) α) (s : σ) :
    exec (f <$> x) s = ((exec x s).1.map f, (exec x s).2) := by
  simp only [exec, ExceptT.run_map, StateT.run_map, Id.run_map]

theorem exec_bind (x : ExceptT Error (StateM σ) α) (f : α → ExceptT Error (StateM σ) β) (s : σ) :
    exec (x >>= f) s = match exec x s with
      | (.ok a, s') => exec (f a) s'
      | (.error e, s') => (.error e, s') := by
  simp only [exec, ExceptT.run_bind, StateT.run_bind, Id.run_bind]
  rcases (x.run.run s).run with ⟨r, s'⟩
  cases r <;> simp

theorem exec_bind_ok {x : ExceptT Error (StateM σ) α} {s s' : σ} {a : α}
    (h : exec x s = (.ok a, s')) (f : α → ExceptT Error (StateM σ) β) :
    exec (x >>= f) s = exec (f a) s' := by
  rw [exec_bind, h]

theorem exec_bind_error {x : ExceptT Error (StateM σ) α} {s s' : σ} {e : Error}
    (h : exec x s = (.error e, s')) (f : α → ExceptT Error (StateM σ) β) :
    exec (x >>= f) s = (.error e, s') := by
  rw [exec_bind, h]

theorem exec_bind_eq_ok {x : ExceptT Error (StateM σ) α} {f : α → ExceptT Error (StateM σ) β}
    {s s'' : σ} {b : β} (h : exec (x >>= f) s = (.ok b, s'')) :
    ∃ a s', exec x s = (.ok a, s') ∧ exec (f a) s' = (.ok b, s'') := by
  rw [exec_bind] at h
  rcases hx : exec x s with ⟨r, s'⟩
  rw [hx] at h
  cases r with
  | ok a => exact ⟨a, s', rfl, h⟩
  | error e => simp at h

theorem exec_mapM_eq_ok {step : α → ExceptT Error (StateM σ) β} {entries : List α}
    {results : List β} {s s' : σ} (h : exec (entries.mapM step) s = (.ok results, s')) :
    List.Forall₂ (fun entry result => ∃ s₁ s₂, exec (step entry) s₁ = (.ok result, s₂))
      entries results := by
  induction entries generalizing results s with
  | nil =>
    cases h
    exact .nil
  | cons entry rest ih =>
    rw [List.mapM_cons] at h
    obtain ⟨result, s₁, first, h⟩ := exec_bind_eq_ok h
    obtain ⟨others, s₂, later, h⟩ := exec_bind_eq_ok h
    cases h
    exact .cons ⟨s, s₁, first⟩ (ih later)

end FormulaTree

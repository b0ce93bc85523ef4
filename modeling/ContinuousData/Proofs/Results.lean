import ContinuousData.Error
import Mathlib.Data.List.Forall2

/-! Operations in sequence succeed when each of them does, and a check succeeds unless it
refuses. -/
namespace ContinuousData

variable {α β : Type}

theorem bind_eq_ok {first : Except Error α} {next : α → Except Error β} {result : β} :
    (first >>= next) = .ok result ↔ ∃ value, first = .ok value ∧ next value = .ok result := by
  cases first with
  | error reason => simp [bind, Except.bind]
  | ok value => simp [bind, Except.bind]

theorem pure_eq_ok {value result : α} :
    (pure value : Except Error α) = .ok result ↔ value = result :=
  Except.ok.injEq value result ▸ Iff.rfl

theorem throw_ne_ok {reason : Error} {result : α} : (throw reason : Except Error α) ≠ .ok result :=
  nofun

/-- A check in front of other operations. -/
theorem refuse_eq_ok {c : Prop} [Decidable c] {reason : Error} {next : β → Except Error α}
    {others : Except Error α} {result : α} :
    (if c then throw reason >>= next else others) = .ok result ↔ ¬ c ∧ others = .ok result := by
  by_cases h : c
  · simp [h, bind_eq_ok, throw_ne_ok]
  · simp [h]

theorem require_eq_ok {c : Prop} [Decidable c] {reason : Error} {next : β → Except Error α}
    {others : Except Error α} {result : α} :
    (if c then others else throw reason >>= next) = .ok result ↔ c ∧ others = .ok result := by
  by_cases h : c
  · simp [h]
  · simp [h, bind_eq_ok, throw_ne_ok]

/-- A check at the end. -/
theorem refuse_pure_eq_ok {c : Prop} [Decidable c] {reason : Error} {value result : α} :
    (if c then throw reason else pure value : Except Error α) = .ok result ↔
      ¬ c ∧ value = result := by
  by_cases h : c
  · simp [h, throw_ne_ok]
  · simp [h, pure_eq_ok]

/-- The same operation on each element of a list. -/
theorem mapM_eq_ok {f : α → Except Error β} {xs : List α} {ys : List β} :
    xs.mapM f = .ok ys ↔ List.Forall₂ (fun x y => f x = .ok y) xs ys := by
  induction xs generalizing ys with
  | nil =>
    rw [List.mapM_nil, pure_eq_ok, List.forall₂_nil_left_iff]
    exact eq_comm
  | cons x xs ih =>
    rw [List.mapM_cons, List.forall₂_cons_left_iff]
    simp only [bind_eq_ok, pure_eq_ok, ih]
    constructor
    · rintro ⟨y, hy, rest, hr, rfl⟩
      exact ⟨y, rest, hy, hr, rfl⟩
    · rintro ⟨y, rest, hy, hr, rfl⟩
      exact ⟨y, hy, rest, hr, rfl⟩

theorem exists_mapM {f : α → Except Error β} {xs : List α} (h : ∀ x ∈ xs, ∃ y, f x = .ok y) :
    ∃ ys, xs.mapM f = .ok ys := by
  induction xs with
  | nil => exact ⟨[], rfl⟩
  | cons x xs ih =>
    obtain ⟨first, others⟩ := List.forall_mem_cons.mp h
    obtain ⟨y, hy⟩ := first
    obtain ⟨ys, hys⟩ := ih others
    exact ⟨y :: ys, mapM_eq_ok.mpr (.cons hy (mapM_eq_ok.mp hys))⟩

end ContinuousData

import ContinuousData.Proofs.GapInvariant

/-! Gaps are looked up by bisection. Among gaps in ascending order, only the last one of those that
start up to a number can contain it, so the lookup finds what a scan of all gaps finds. -/
namespace ContinuousData

/-- The end of the indices from `low` on that have a property, which those from there up to `high`
do not have. -/
def partitionPoint (before : Nat → Bool) (low high : Nat) : Nat :=
  if low < high then
    if before ((low + high) / 2) then partitionPoint before ((low + high) / 2 + 1) high
    else partitionPoint before low ((low + high) / 2)
  else low
termination_by high - low

/-- All indices before the result have the property if those before `low` have it. -/
theorem before_of_lt_partitionPoint {before : Nat → Bool}
    (parted : ∀ i j, i < j → before j = true → before i = true) {low high : Nat}
    (start : ∀ i, i < low → before i = true) {i : Nat}
    (hi : i < partitionPoint before low high) : before i = true := by
  fun_induction partitionPoint before low high with
  | case1 low high inside found ih =>
    apply ih _ hi
    intro j hj
    rcases Nat.lt_or_eq_of_le (Nat.le_of_lt_succ hj) with below | rfl
    · exact parted j _ below found
    · exact found
  | case2 low high inside notFound ih => exact ih start hi
  | case3 low high done => exact start i hi

theorem not_before_of_partitionPoint_le {before : Nat → Bool}
    (parted : ∀ i j, i < j → before j = true → before i = true) {low high : Nat}
    (range : low ≤ high) (stop : ∀ i, high ≤ i → ¬ before i = true) {i : Nat}
    (hi : partitionPoint before low high ≤ i) : ¬ before i = true := by
  fun_induction partitionPoint before low high with
  | case1 low high inside found ih =>
    apply ih _ stop hi
    omega
  | case2 low high inside notFound ih =>
    apply ih _ _ hi
    · omega
    · intro j hj
      rcases Nat.lt_or_eq_of_le hj with above | rfl
      · exact fun also => notFound (parted _ j above also)
      · exact notFound
  | case3 low high done => exact stop i (Nat.le_trans (Nat.not_lt.mp done) hi)

namespace GapList

variable {gaps : List Gap} {seams : Set UInt64} {n : UInt64} {now : Timestamp}

/-- Whether there is a gap at an index, which starts up to `n`. -/
def startsUpTo (gaps : List Gap) (n : UInt64) (index : Nat) : Bool :=
  gaps[index]?.any (·.first ≤ n)

/-- The index of the gap that contains `n`. -/
def findGap (gaps : List Gap) (n : UInt64) : Option Nat :=
  match partitionPoint (startsUpTo gaps n) 0 gaps.length with
  | 0 => none
  | index + 1 => if gaps[index]?.any (·.contains n) then some index else none

theorem startsUpTo_iff {index : Nat} :
    startsUpTo gaps n index = true ↔ ∃ gap, gaps[index]? = some gap ∧ gap.first ≤ n := by
  simp [startsUpTo, Option.any_eq_true]

theorem first_lt_of_lt (apart : gaps.Pairwise (Gap.Apart seams))
    (ordered : ∀ gap ∈ gaps, gap.first ≤ gap.last) {i j : Nat} (lower : i < j) {a b : Gap}
    (ha : gaps[i]? = some a) (hb : gaps[j]? = some b) : a.first ≤ a.last ∧ a.last < b.first := by
  obtain ⟨hi, rfl⟩ := List.getElem?_eq_some_iff.mp ha
  obtain ⟨hj, rfl⟩ := List.getElem?_eq_some_iff.mp hb
  exact ⟨ordered _ (List.getElem_mem hi), (List.pairwise_iff_getElem.mp apart i j hi hj lower).1⟩

/-- The gaps that start up to a number are the first ones. -/
theorem startsUpTo_of_lt (apart : gaps.Pairwise (Gap.Apart seams))
    (ordered : ∀ gap ∈ gaps, gap.first ≤ gap.last) {i j : Nat} (lower : i < j)
    (h : startsUpTo gaps n j = true) : startsUpTo gaps n i = true := by
  obtain ⟨b, hb, start⟩ := startsUpTo_iff.mp h
  have hj := (List.getElem?_eq_some_iff.mp hb).1
  have ha : gaps[i]? = some gaps[i] := List.getElem?_eq_getElem (Nat.lt_trans lower hj)
  have ascending := first_lt_of_lt apart ordered lower ha hb
  exact startsUpTo_iff.mpr ⟨_, ha, by grind⟩

theorem exists_of_findGap {index : Nat} (h : findGap gaps n = some index) :
    ∃ gap, gaps[index]? = some gap ∧ gap.contains n = true := by
  unfold findGap at h
  split at h
  · contradiction
  · split at h
    case isTrue contains =>
      obtain rfl := Option.some.inj h
      simpa [Option.any_eq_true] using contains
    case isFalse => contradiction

theorem not_contains_of_findGap (apart : gaps.Pairwise (Gap.Apart seams))
    (ordered : ∀ gap ∈ gaps, gap.first ≤ gap.last) (h : findGap gaps n = none) :
    ∀ gap ∈ gaps, ¬ gap.contains n = true := by
  intro gap hg contains
  obtain ⟨i, hi, at_i⟩ := List.mem_iff_getElem.mp hg
  have position : gaps[i]? = some gap := List.getElem?_eq_some_iff.mpr ⟨hi, at_i⟩
  have inside := Gap.contains_iff.mp contains
  have parted := fun i j => @startsUpTo_of_lt gaps seams n apart ordered i j
  have beyond : ∀ index, gaps.length ≤ index → ¬ startsUpTo gaps n index = true := by
    intro index long starts
    obtain ⟨_, found, -⟩ := startsUpTo_iff.mp starts
    rw [List.getElem?_eq_none long] at found
    contradiction
  unfold findGap at h
  -- The gap is one of those that start up to `n`, so there is a last one of them.
  split at h
  case h_1 point =>
    exact not_before_of_partitionPoint_le parted (Nat.zero_le _) beyond (by rw [point]; omega)
      (startsUpTo_iff.mpr ⟨gap, position, inside.1⟩)
  case h_2 last point =>
    have notAfter : i ≤ last := by
      by_contra after
      exact not_before_of_partitionPoint_le parted (Nat.zero_le _) beyond (by rw [point]; omega)
        (startsUpTo_iff.mpr ⟨gap, position, inside.1⟩)
    have starts : startsUpTo gaps n last = true :=
      before_of_lt_partitionPoint parted (fun _ none => absurd none (Nat.not_lt_zero _))
        (by rw [point]; omega)
    obtain ⟨other, found, start⟩ := startsUpTo_iff.mp starts
    rcases Nat.lt_or_eq_of_le notAfter with before | rfl
    · have ascending := first_lt_of_lt apart ordered before position found
      grind
    · rw [position] at h
      simp [contains] at h

theorem removeFrom_of_not_contains (h : ∀ gap ∈ gaps, ¬ gap.contains n = true) :
    removeFrom n now gaps = gaps := by
  induction gaps with
  | nil => rfl
  | cons gap gaps ih =>
    obtain ⟨notHere, notThere⟩ := List.forall_mem_cons.mp h
    rw [removeFrom, if_neg notHere, ih notThere]

theorem removeFrom_of_contains (apart : gaps.Pairwise (Gap.Apart seams)) {index : Nat} {gap : Gap}
    (position : gaps[index]? = some gap) (contains : gap.contains n = true) :
    removeFrom n now gaps = gaps.take index ++ gap.without n now ++ gaps.drop (index + 1) := by
  induction gaps generalizing index with
  | nil => contradiction
  | cons other gaps ih =>
    obtain ⟨before, apart⟩ := List.pairwise_cons.mp apart
    cases index with
    | zero =>
      obtain rfl : other = gap := Option.some.inj position
      rw [removeFrom, if_pos contains]
      rfl
    | succ index =>
      have notHere : ¬ other.contains n = true := by
        have below := (before gap (List.mem_of_getElem? position)).1
        rw [Gap.contains_iff] at contains ⊢
        grind
      rw [removeFrom, if_neg notHere, ih apart position]
      rfl

end GapList

end ContinuousData

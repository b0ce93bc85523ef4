import ContinuousData.Proofs.GapLookup

/-! The operations on gap lists and trackers with checked arithmetic, which have no result where a
number would leave its 64 bits, and with the lookup of gaps by bisection. They always have a result,
and it is the usual one. -/
namespace ContinuousData

/-- The next number, if there is one. -/
def succ? (n : UInt64) : Option UInt64 :=
  if n = GapList.maxNumber then none else some (n + 1)

/-- The number before, if there is one. -/
def pred? (n : UInt64) : Option UInt64 :=
  if n = 0 then none else some (n - 1)

theorem succ?_of_lt {a b : UInt64} (h : a < b) : succ? a = some (a + 1) := by
  refine if_neg ?_
  unfold GapList.maxNumber
  grind

theorem pred?_of_lt {a b : UInt64} (h : a < b) : pred? b = some (b - 1) := by
  refine if_neg ?_
  grind

namespace Gap

def without? (gap : Gap) (n : UInt64) (now : Timestamp) : Option (List Gap) :=
  if gap.first = gap.last then some []
  else if n = gap.first then do return [⟨← succ? gap.first, gap.last, now⟩]
  else if n = gap.last then do return [⟨gap.first, ← pred? gap.last, now⟩]
  else do
    let upper ← succ? n
    let lower ← pred? n
    return [⟨gap.first, lower, now⟩, ⟨upper, gap.last, now⟩]

def below? (gap : Gap) (first : UInt64) (now : Timestamp) : Option (List Gap) :=
  if gap.first < first then do return [⟨gap.first, ← pred? first, now⟩] else some []

def above? (gap : Gap) (last : UInt64) (now : Timestamp) : Option (List Gap) :=
  if last < gap.last then do return [⟨← succ? last, gap.last, now⟩] else some []

def withoutRange? (gap : Gap) (first last : UInt64) (now : Timestamp) : Option (List Gap) :=
  if gap.last < first ∨ last < gap.first then some [gap]
  else do return (← gap.below? first now) ++ (← gap.above? last now)

theorem without?_eq {gap : Gap} {n : UInt64} (now : Timestamp) (h : gap.contains n = true) :
    gap.without? n now = some (gap.without n now) := by
  rw [contains_iff] at h
  unfold without? without
  split_ifs with one start stop
  · rfl
  · rw [succ?_of_lt (show gap.first < gap.last by grind)]
    rfl
  · rw [pred?_of_lt (show gap.first < gap.last by grind)]
    rfl
  · rw [succ?_of_lt (show n < gap.last by grind), pred?_of_lt (show gap.first < n by grind)]
    rfl

theorem withoutRange?_eq (gap : Gap) (first last : UInt64) (now : Timestamp) :
    gap.withoutRange? first last now = some (gap.withoutRange first last now) := by
  have lower : gap.below? first now =
      some (if gap.first < first then [⟨gap.first, first - 1, now⟩] else []) := by
    unfold below?
    split_ifs with below
    · rw [pred?_of_lt below]
      rfl
    · rfl
  have upper : gap.above? last now =
      some (if last < gap.last then [⟨last + 1, gap.last, now⟩] else []) := by
    unfold above?
    split_ifs with above
    · rw [succ?_of_lt above]
      rfl
    · rfl
  unfold withoutRange? withoutRange
  rw [lower, upper]
  split_ifs <;> rfl

end Gap

namespace GapList

variable {list : GapList} {seams : Set UInt64}

def removeFrom? (n : UInt64) (now : Timestamp) (gaps : List Gap) : Option (List Gap) :=
  match findGap gaps n with
  | none => some gaps
  | some index => do
    let gap ← gaps[index]?
    return gaps.take index ++ (← gap.without? n now) ++ gaps.drop (index + 1)

/-- The gap between two received numbers, if they are no neighbours. -/
def between? (low high : UInt64) (now : Timestamp) : Option (List Gap) := do
  if (← succ? low) < high then return [⟨← succ? low, ← pred? high, now⟩]
  return []

def add? (list : GapList) (n : UInt64) (now : Timestamp) : Option GapList :=
  if n < list.min then do
    return { list with min := n, gaps := (← between? n list.min now) ++ list.gaps }
  else if list.max < n then do
    return { list with max := n, gaps := list.gaps ++ (← between? list.max n now) }
  else do return { list with gaps := ← removeFrom? n now list.gaps }

def addRange? (list : GapList) (first last : UInt64) (now : Timestamp) :
    Option (Except Error GapList) :=
  if last < first then some (throw (.reversedRange first last))
  else if first < list.min ∨ list.max < last then
    some (throw (.rangeOutside first last list.min list.max))
  else do
    let parts ← list.gaps.mapM fun gap => gap.withoutRange? first last now
    return .ok { list with gaps := parts.flatten }

theorem removeFrom?_eq {gaps : List Gap} (apart : gaps.Pairwise (Gap.Apart seams))
    (ordered : ∀ gap ∈ gaps, gap.first ≤ gap.last) (n : UInt64) (now : Timestamp) :
    removeFrom? n now gaps = some (removeFrom n now gaps) := by
  unfold removeFrom?
  cases found : findGap gaps n with
  | none =>
    have notMissing := not_contains_of_findGap apart ordered found
    rw [removeFrom_of_not_contains notMissing]
  | some index =>
    obtain ⟨gap, position, contains⟩ := exists_of_findGap found
    rw [removeFrom_of_contains apart position contains]
    dsimp only
    rw [position]
    change (do return gaps.take index ++ (← gap.without? n now) ++ gaps.drop (index + 1)) = _
    rw [Gap.without?_eq now contains]
    rfl

theorem between?_eq {low high : UInt64} (now : Timestamp) (h : low < high) :
    between? low high now = some (if low + 1 < high then [⟨low + 1, high - 1, now⟩] else []) := by
  unfold between?
  rw [succ?_of_lt h, pred?_of_lt h]
  change (if low + 1 < high then _ else _) = _
  split_ifs <;> rfl

theorem add?_eq (h : list.IsSpaced seams) (n : UInt64) (now : Timestamp) :
    list.add? n now = some (list.add n now) := by
  unfold add? add
  by_cases below : n < list.min
  · rw [if_pos below, if_pos below, between?_eq now below]
    by_cases between : n + 1 < list.min
    · rw [if_pos between, if_pos between]
      rfl
    · rw [if_neg between, if_neg between]
      rfl
  rw [if_neg below, if_neg below]
  by_cases above : list.max < n
  · rw [if_pos above, if_pos above, between?_eq now above]
    by_cases between : list.max + 1 < n
    · rw [if_pos between, if_pos between]
      rfl
    · rw [if_neg between, if_neg between]
      change some { list with max := n, gaps := list.gaps ++ [] } = _
      rw [List.append_nil]
  · rw [if_neg above, if_neg above, removeFrom?_eq h.apart fun gap hg => (h.inside gap hg).2.1]
    rfl

theorem addRange?_eq (list : GapList) (first last : UInt64) (now : Timestamp) :
    list.addRange? first last now = some (list.addRange first last now) := by
  have parts : list.gaps.mapM (fun gap => gap.withoutRange? first last now) =
      some (list.gaps.map fun gap => gap.withoutRange first last now) := by
    simp only [Gap.withoutRange?_eq]
    exact List.mapM_pure
  unfold addRange? addRange
  split_ifs
  · rfl
  · rfl
  · rw [parts]
    change some (Except.ok { list with gaps := (list.gaps.map _).flatten }) = _
    rw [← List.flatMap_def]
    rfl

end GapList

namespace Tracker

def add? (tracker : Tracker) (n : UInt64) (now : Timestamp) : Option Tracker :=
  match tracker with
  | some list => do return some (← list.add? n now)
  | none => some (some (.single n))

def addRange? (tracker : Tracker) (first last : UInt64) (now : Timestamp) :
    Option (Except Error Tracker) :=
  if last < first then some (throw (.reversedRange first last))
  else match tracker with
    | some list => do
      let extended ← (← list.add? first now).add? last now
      return some <$> (← extended.addRange? first last now)
    | none => some (some <$> GapList.ofParts first last [])

variable {tracker : Tracker} {seams : Set UInt64}

theorem add?_eq (h : ∀ list ∈ tracker, list.IsSpaced seams) (n : UInt64) (now : Timestamp) :
    tracker.add? n now = some (tracker.add n now) := by
  cases tracker with
  | none => rfl
  | some list =>
    change (do return some (← list.add? n now)) = _
    rw [GapList.add?_eq (h list rfl)]
    rfl

theorem addRange?_eq (h : ∀ list ∈ tracker, list.IsSpaced seams) (first last : UInt64)
    (now : Timestamp) :
    tracker.addRange? first last now = some (tracker.addRange first last now) := by
  unfold addRange? addRange
  split_ifs
  · rfl
  · cases tracker with
    | none => rfl
    | some list =>
      have spaced : list.IsSpaced Set.univ := (h list rfl).loosen (Set.subset_univ seams)
      have extended := spaced.add first now
      dsimp only
      rw [GapList.add?_eq spaced]
      change (do
        let extended ← (list.add first now).add? last now
        return some <$> (← extended.addRange? first last now)) = _
      rw [GapList.add?_eq extended]
      change (do
        return some <$> (← ((list.add first now).add last now).addRange? first last now)) = _
      rw [GapList.addRange?_eq]
      rfl

end Tracker

end ContinuousData

import ContinuousData.Gap.Tracker
import Mathlib.Data.List.Basic
import Mathlib.Data.Set.Insert

/-! What the operations on gap lists preserve. Gaps are ranges in ascending order within the bounds
of their list. Where two of them touch, the upper one starts at one of a few seams, and in an exact
list there are no seams. Each operation is described by the numbers that are missing after it. -/
namespace ContinuousData

theorem succ_le_iff {a b n : UInt64} (h : a < b) : a + 1 ≤ n ↔ a < n := by
  grind

theorem le_pred_iff {a b n : UInt64} (h : a < b) : n ≤ b - 1 ↔ n < b := by
  grind

namespace Gap

/-- A number in the gap. -/
theorem contains_iff {gap : Gap} {n : UInt64} :
    gap.contains n = true ↔ gap.first ≤ n ∧ n ≤ gap.last := by
  simp [contains]

/-- Two gaps in ascending order, which touch at a seam at most. -/
def Apart (seams : Set UInt64) (a b : Gap) : Prop :=
  a.last < b.first ∧ (a.last + 1 = b.first → b.first ∈ seams)

/-- A gap that is a part of another one. -/
def Within (part gap : Gap) : Prop :=
  gap.first ≤ part.first ∧ part.first ≤ part.last ∧ part.last ≤ gap.last

theorem Apart.shrink {seams : Set UInt64} {a b c d : Gap} (h : Apart seams a b) (hc : c.Within a)
    (hd : d.Within b) : Apart seams c d := by
  obtain ⟨below, seam⟩ := h
  obtain ⟨-, -, upper⟩ := hc
  obtain ⟨lower, -, -⟩ := hd
  refine ⟨by grind, fun touch => ?_⟩
  have same : d.first = b.first := by grind
  have last : c.last = a.last := by grind
  rw [same]
  exact seam (by rw [← last, ← same]; exact touch)

section WithoutRange

variable {gap : Gap} {first last : UInt64} {now : Timestamp}

theorem mem_withoutRange {part : Gap} :
    part ∈ gap.withoutRange first last now ↔
      (part = gap ∧ (gap.last < first ∨ last < gap.first)) ∨
      ((part = ⟨gap.first, first - 1, now⟩ ∧ gap.first < first ∨
        part = ⟨last + 1, gap.last, now⟩ ∧ last < gap.last) ∧
        ¬ (gap.last < first ∨ last < gap.first)) := by
  unfold withoutRange
  split_ifs with outside below above above <;> simp [*]

theorem within_of_mem_withoutRange {part : Gap} (ordered : gap.first ≤ gap.last)
    (h : part ∈ gap.withoutRange first last now) : part.Within gap := by
  unfold Within
  rcases mem_withoutRange.mp h with ⟨rfl, -⟩ | ⟨⟨rfl, below⟩ | ⟨rfl, above⟩, overlap⟩
  · exact ⟨UInt64.le_refl _, ordered, UInt64.le_refl _⟩
  · dsimp only
    grind
  · dsimp only
    grind

theorem pairwise_withoutRange (seams : Set UInt64) (range : first ≤ last) :
    (gap.withoutRange first last now).Pairwise (Apart seams) := by
  unfold withoutRange
  split_ifs with outside below above above
  · exact List.pairwise_singleton _ _
  · refine List.pairwise_pair.mpr ⟨?_, fun touch => ?_⟩
    · dsimp only
      grind
    · dsimp only at touch
      grind
  · exact List.pairwise_singleton _ _
  · exact List.pairwise_singleton _ _
  · exact List.Pairwise.nil

/-- The numbers of the gap that are not in the range. -/
theorem exists_mem_withoutRange (ordered : gap.first ≤ gap.last) (n : UInt64) :
    (∃ part ∈ gap.withoutRange first last now, part.contains n = true) ↔
      gap.contains n = true ∧ ¬ (first ≤ n ∧ n ≤ last) := by
  simp only [contains_iff]
  constructor
  · rintro ⟨part, h, inside⟩
    rcases mem_withoutRange.mp h with ⟨rfl, outside⟩ | ⟨⟨rfl, below⟩ | ⟨rfl, above⟩, overlap⟩
    · grind
    · dsimp only at inside
      grind
    · dsimp only at inside
      grind
  · rintro ⟨inside, notInRange⟩
    by_cases outside : gap.last < first ∨ last < gap.first
    · exact ⟨gap, mem_withoutRange.mpr (.inl ⟨rfl, outside⟩), inside⟩
    by_cases below : n < first
    · have kept : gap.first < first := UInt64.lt_of_le_of_lt inside.1 below
      refine ⟨_, mem_withoutRange.mpr (.inr ⟨.inl ⟨rfl, kept⟩, outside⟩), ?_⟩
      dsimp only
      grind
    · have kept : last < gap.last := by grind
      refine ⟨_, mem_withoutRange.mpr (.inr ⟨.inr ⟨rfl, kept⟩, outside⟩), ?_⟩
      dsimp only
      grind

/-- A single number is the range of itself. -/
theorem without_eq {n : UInt64} (h : gap.contains n = true) :
    gap.without n now = gap.withoutRange n n now := by
  rw [contains_iff] at h
  have overlap : ¬ (gap.last < n ∨ n < gap.first) := by grind
  unfold without withoutRange
  rw [if_neg overlap]
  by_cases one : gap.first = gap.last
  · rw [if_pos one, if_neg (by grind), if_neg (by grind)]
    rfl
  rw [if_neg one]
  by_cases start : n = gap.first
  · subst start
    rw [if_pos rfl, if_neg (by grind), if_pos (by grind)]
    rfl
  rw [if_neg start, if_pos (show gap.first < n by grind)]
  by_cases stop : n = gap.last
  · subst stop
    rw [if_pos rfl, if_neg (by grind)]
    rfl
  · rw [if_neg stop, if_pos (by grind)]
    rfl

theorem withoutRange_of_not_contains {n : UInt64} (h : ¬ gap.contains n = true) :
    gap.withoutRange n n now = [gap] := by
  rw [contains_iff] at h
  exact if_pos (by grind)

end WithoutRange

end Gap

namespace GapList

variable {list : GapList} {seams : Set UInt64} {now : Timestamp}

/-- The numbers in the gaps. -/
def missingNumbers (list : GapList) : Set UInt64 :=
  {n | ∃ gap ∈ list.gaps, gap.contains n = true}

/-- The list with a range taken out of its gaps. -/
def cut (list : GapList) (first last : UInt64) (now : Timestamp) : GapList :=
  { list with gaps := list.gaps.flatMap fun gap => gap.withoutRange first last now }

/-- The gaps of a list are ordered ranges within its bounds, and apart from each other. -/
structure IsSpaced (seams : Set UInt64) (list : GapList) : Prop where
  bounds : list.min ≤ list.max
  inside : ∀ gap ∈ list.gaps,
    list.min ≤ gap.first ∧ gap.first ≤ gap.last ∧ gap.last ≤ list.max
  apart : list.gaps.Pairwise (Gap.Apart seams)

theorem IsSpaced.of_missing (h : list.IsSpaced seams) {n : UInt64} (hn : n ∈ list.missingNumbers) :
    list.min ≤ n ∧ n ≤ list.max := by
  obtain ⟨gap, hg, contains⟩ := hn
  have inside := h.inside gap hg
  have := Gap.contains_iff.mp contains
  grind

theorem IsSpaced.loosen (h : list.IsSpaced seams) {more : Set UInt64} (subset : seams ⊆ more) :
    list.IsSpaced more where
  bounds := h.bounds
  inside := h.inside
  apart := h.apart.imp fun apart => ⟨apart.1, fun touch => subset (apart.2 touch)⟩

theorem IsSpaced.first_missing (h : list.IsSpaced seams) {gap : Gap} (hg : gap ∈ list.gaps) :
    gap.first ∈ list.missingNumbers :=
  ⟨gap, hg, Gap.contains_iff.mpr ⟨UInt64.le_refl _, (h.inside gap hg).2.1⟩⟩

theorem IsSpaced.last_missing (h : list.IsSpaced seams) {gap : Gap} (hg : gap ∈ list.gaps) :
    gap.last ∈ list.missingNumbers :=
  ⟨gap, hg, Gap.contains_iff.mpr ⟨(h.inside gap hg).2.1, UInt64.le_refl _⟩⟩

theorem IsSpaced.eq_or_apart (h : list.IsSpaced seams) {a b : Gap} (ha : a ∈ list.gaps)
    (hb : b ∈ list.gaps) : a = b ∨ Gap.Apart seams a b ∨ Gap.Apart seams b a := by
  have either : ∀ ⦃a⦄, a ∈ list.gaps → ∀ ⦃b⦄, b ∈ list.gaps →
      a = b ∨ Gap.Apart seams a b ∨ Gap.Apart seams b a := by
    refine List.Pairwise.forall_of_forall_of_flip (fun _ _ => .inl rfl) ?_ ?_
    · exact h.apart.imp fun apart => .inr (.inl apart)
    · exact h.apart.imp fun apart => .inr (.inr apart)
  exact either ha hb

/-- No number is in two gaps. -/
theorem IsSpaced.unique (h : list.IsSpaced seams) {n : UInt64} {a b : Gap} (ha : a ∈ list.gaps)
    (hb : b ∈ list.gaps) (hna : a.contains n = true) (hnb : b.contains n = true) : a = b := by
  rw [Gap.contains_iff] at hna hnb
  rcases h.eq_or_apart ha hb with same | apart | apart
  · exact same
  · have := apart.1
    grind
  · have := apart.1
    grind

/-- A number is taken out of the gaps like any range. -/
theorem removeFrom_eq {gaps : List Gap} (apart : gaps.Pairwise (Gap.Apart seams))
    (ordered : ∀ gap ∈ gaps, gap.first ≤ gap.last) (n : UInt64) :
    removeFrom n now gaps = gaps.flatMap fun gap => gap.withoutRange n n now := by
  induction gaps with
  | nil => rfl
  | cons gap gaps ih =>
    obtain ⟨before, apart⟩ := List.pairwise_cons.mp apart
    obtain ⟨_, ordered⟩ := List.forall_mem_cons.mp ordered
    rw [removeFrom, List.flatMap_cons]
    by_cases found : gap.contains n = true
    · have others : ∀ other ∈ gaps, other.withoutRange n n now = [other] := by
        intro other ho
        apply Gap.withoutRange_of_not_contains
        have := (before other ho).1
        rw [Gap.contains_iff] at found ⊢
        grind
      rw [if_pos found, Gap.without_eq found, List.flatMap_congr others, List.flatMap_singleton']
    · rw [if_neg found, Gap.withoutRange_of_not_contains found, ih apart ordered]
      rfl

theorem IsSpaced.cut (h : list.IsSpaced seams) {first last : UInt64} (range : first ≤ last)
    (now : Timestamp) : (list.cut first last now).IsSpaced seams where
  bounds := h.bounds
  inside := by
    intro part hp
    obtain ⟨gap, hg, hp⟩ := List.mem_flatMap.mp hp
    have inside := h.inside gap hg
    have within := Gap.within_of_mem_withoutRange inside.2.1 hp
    unfold Gap.Within at within
    unfold GapList.cut
    dsimp only
    grind
  apart := by
    refine List.pairwise_flatMap.mpr ⟨fun gap _ => Gap.pairwise_withoutRange seams range, ?_⟩
    apply h.apart.imp_of_mem
    intro a b ha hb apart c hc d hd
    exact apart.shrink (Gap.within_of_mem_withoutRange (h.inside a ha).2.1 hc)
      (Gap.within_of_mem_withoutRange (h.inside b hb).2.1 hd)

theorem IsSpaced.missing_cut (h : list.IsSpaced seams) (first last n : UInt64) :
    n ∈ (list.cut first last now).missingNumbers ↔
      n ∈ list.missingNumbers ∧ ¬ (first ≤ n ∧ n ≤ last) := by
  constructor
  · rintro ⟨part, hp, contains⟩
    obtain ⟨gap, hg, hp⟩ := List.mem_flatMap.mp hp
    have := (Gap.exists_mem_withoutRange (h.inside gap hg).2.1 n).mp ⟨part, hp, contains⟩
    exact ⟨⟨gap, hg, this.1⟩, this.2⟩
  · rintro ⟨⟨gap, hg, contains⟩, outside⟩
    obtain ⟨part, hp, contains⟩ :=
      (Gap.exists_mem_withoutRange (h.inside gap hg).2.1 n).mpr ⟨contains, outside⟩
    exact ⟨part, List.mem_flatMap.mpr ⟨gap, hg, hp⟩, contains⟩

theorem add_of_inside (h : list.IsSpaced seams) {n : UInt64} (low : list.min ≤ n)
    (high : n ≤ list.max) : list.add n now = list.cut n n now := by
  rw [add, if_neg (UInt64.not_lt.mpr low), if_neg (UInt64.not_lt.mpr high),
    removeFrom_eq h.apart fun gap hg => (h.inside gap hg).2.1]
  rfl

theorem IsSpaced.add_below (h : list.IsSpaced seams) {n : UInt64} (below : n < list.min)
    (seam : list.min ∈ seams ∨ list.min ∉ list.missingNumbers) :
    (list.add n now).IsSpaced seams := by
  have bounds := h.bounds
  have old : ∀ gap ∈ list.gaps, n ≤ gap.first ∧ gap.first ≤ gap.last ∧ gap.last ≤ list.max := by
    intro gap hg
    have := h.inside gap hg
    grind
  rw [add, if_pos below]
  by_cases between : n + 1 < list.min
  · rw [if_pos between]
    have ordered : n + 1 ≤ list.min - 1 := (le_pred_iff below).mpr between
    constructor
    case bounds =>
      dsimp only
      grind
    case inside =>
      intro gap hg
      rcases List.mem_cons.mp hg with rfl | hg
      · dsimp only
        grind
      · exact old gap hg
    case apart =>
      refine List.pairwise_cons.mpr ⟨fun gap hg => ⟨?_, fun touch => ?_⟩, h.apart⟩
      · have inside := h.inside gap hg
        dsimp only
        grind
      · have start : gap.first = list.min := by
          dsimp only at touch
          grind
        rw [start]
        exact seam.resolve_right (not_not.mpr (start ▸ h.first_missing hg))
  · rw [if_neg between]
    constructor
    case bounds =>
      dsimp only
      grind
    case inside => exact old
    case apart => exact h.apart

theorem min_add_below {n : UInt64} (below : n < list.min) (now : Timestamp) :
    (list.add n now).min = n := by
  rw [add, if_pos below]

theorem max_add_below {n : UInt64} (below : n < list.min) (now : Timestamp) :
    (list.add n now).max = list.max := by
  rw [add, if_pos below]

theorem mem_add_below {n : UInt64} (below : n < list.min) {gap : Gap}
    (h : gap ∈ (list.add n now).gaps) :
    gap ∈ list.gaps ∨ n < gap.first ∧ gap.last < list.min := by
  rw [add, if_pos below] at h
  by_cases between : n + 1 < list.min
  · rw [if_pos between] at h
    rcases List.mem_cons.mp h with rfl | h
    · right
      dsimp only
      grind
    · exact .inl h
  · rw [if_neg between] at h
    exact .inl h

theorem missing_add_below {n : UInt64} (below : n < list.min) (x : UInt64) :
    x ∈ (list.add n now).missingNumbers ↔ x ∈ list.missingNumbers ∨ n < x ∧ x < list.min := by
  rw [add, if_pos below]
  by_cases between : n + 1 < list.min
  · rw [if_pos between]
    simp only [missingNumbers, Set.mem_ofPred_eq, List.mem_cons, exists_eq_or_imp, Gap.contains_iff]
    rw [or_comm, succ_le_iff below, le_pred_iff below]
  · rw [if_neg between]
    symm
    apply or_iff_left
    grind

theorem IsSpaced.add_above (h : list.IsSpaced seams) {n : UInt64} (above : list.max < n)
    (seam : list.max + 1 ∈ seams ∨ list.max ∉ list.missingNumbers) :
    (list.add n now).IsSpaced seams := by
  have bounds := h.bounds
  have old : ∀ gap ∈ list.gaps, list.min ≤ gap.first ∧ gap.first ≤ gap.last ∧ gap.last ≤ n := by
    intro gap hg
    have := h.inside gap hg
    grind
  rw [add, if_neg (by grind), if_pos above]
  by_cases between : list.max + 1 < n
  · rw [if_pos between]
    have ordered : list.max + 1 ≤ n - 1 := (le_pred_iff above).mpr between
    constructor
    case bounds =>
      dsimp only
      grind
    case inside =>
      intro gap hg
      rcases List.mem_append.mp hg with hg | hg
      · exact old gap hg
      · obtain rfl := List.mem_singleton.mp hg
        dsimp only
        grind
    case apart =>
      refine List.pairwise_append.mpr ⟨h.apart, List.pairwise_singleton _ _, ?_⟩
      intro gap hg upper hu
      obtain rfl := List.mem_singleton.mp hu
      have inside := h.inside gap hg
      constructor
      · dsimp only
        grind
      · intro touch
        have stop : gap.last = list.max := by
          dsimp only at touch
          grind
        exact seam.resolve_right (not_not.mpr (stop ▸ h.last_missing hg))
  · rw [if_neg between]
    constructor
    case bounds =>
      dsimp only
      grind
    case inside => exact old
    case apart => exact h.apart

theorem min_add_above (bounds : list.min ≤ list.max) {n : UInt64} (above : list.max < n)
    (now : Timestamp) : (list.add n now).min = list.min := by
  have notBelow := UInt64.not_lt.mpr (UInt64.le_of_lt (UInt64.lt_of_le_of_lt bounds above))
  rw [add, if_neg notBelow, if_pos above]

theorem max_add_above (bounds : list.min ≤ list.max) {n : UInt64} (above : list.max < n)
    (now : Timestamp) : (list.add n now).max = n := by
  have notBelow := UInt64.not_lt.mpr (UInt64.le_of_lt (UInt64.lt_of_le_of_lt bounds above))
  rw [add, if_neg notBelow, if_pos above]

theorem mem_add_above (bounds : list.min ≤ list.max) {n : UInt64} (above : list.max < n)
    {gap : Gap} (h : gap ∈ (list.add n now).gaps) :
    gap ∈ list.gaps ∨ list.max < gap.first ∧ gap.last < n := by
  rw [add, if_neg (by grind), if_pos above] at h
  by_cases between : list.max + 1 < n
  · rw [if_pos between] at h
    rcases List.mem_append.mp h with h | h
    · exact .inl h
    · obtain rfl := List.mem_singleton.mp h
      right
      dsimp only
      grind
  · rw [if_neg between] at h
    exact .inl h

theorem missing_add_above (bounds : list.min ≤ list.max) {n : UInt64} (above : list.max < n)
    (x : UInt64) :
    x ∈ (list.add n now).missingNumbers ↔ x ∈ list.missingNumbers ∨ list.max < x ∧ x < n := by
  rw [add, if_neg (by grind), if_pos above]
  by_cases between : list.max + 1 < n
  · rw [if_pos between]
    simp only [missingNumbers, Set.mem_ofPred_eq, List.mem_append, List.mem_singleton, or_and_right,
      exists_or, exists_eq_left, Gap.contains_iff]
    rw [succ_le_iff above, le_pred_iff above]
  · rw [if_neg between]
    symm
    apply or_iff_left
    grind

/-- A list stays in order even where gaps may touch. -/
theorem IsSpaced.add (h : list.IsSpaced Set.univ) (n : UInt64) (now : Timestamp) :
    (list.add n now).IsSpaced Set.univ := by
  by_cases below : n < list.min
  · exact h.add_below below (.inl trivial)
  by_cases above : list.max < n
  · exact h.add_above above (.inl trivial)
  · rw [add_of_inside h (UInt64.not_lt.mp below) (UInt64.not_lt.mp above)]
    exact h.cut (UInt64.le_refl n) now

/-- After a number has been recorded, it lies within bounds, and so does what did before. -/
theorem bounds_add (bounds : list.min ≤ list.max) (n : UInt64) (now : Timestamp) :
    (list.add n now).min ≤ n ∧ n ≤ (list.add n now).max ∧
      (list.add n now).min ≤ list.min ∧ list.max ≤ (list.add n now).max := by
  unfold add
  split_ifs <;> dsimp only <;> grind

/-- Nothing is recorded below the range. -/
theorem min_add_of_le {n : UInt64} (h : list.min ≤ n) (now : Timestamp) :
    (list.add n now).min = list.min := by
  rw [add, if_neg (UInt64.not_lt.mpr h)]
  split_ifs <;> rfl

theorem max_le_max_add (list : GapList) (n : UInt64) (now : Timestamp) :
    list.max ≤ (list.add n now).max := by
  unfold add
  by_cases below : n < list.min
  · rw [if_pos below]
    exact UInt64.le_refl _
  rw [if_neg below]
  by_cases above : list.max < n
  · rw [if_pos above]
    exact UInt64.le_of_lt above
  · rw [if_neg above]
    exact UInt64.le_refl _

theorem addRange_of_inside {first last : UInt64} (range : first ≤ last) (low : list.min ≤ first)
    (high : last ≤ list.max) : list.addRange first last now = .ok (list.cut first last now) := by
  rw [addRange, if_neg (UInt64.not_lt.mpr range), if_neg (by grind)]
  rfl

/-- The ends of a range are recorded first, and extend the list up to them. -/
theorem addRange_some (bounds : list.min ≤ list.max) {first last : UInt64} (range : first ≤ last) :
    Tracker.addRange (some list) first last now =
        .ok (some (((list.add first now).add last now).cut first last now)) ∧
      ((list.add first now).add last now).min ≤ first ∧
      last ≤ ((list.add first now).add last now).max := by
  have low := bounds_add bounds first now
  have high := bounds_add (UInt64.le_trans low.1 low.2.1) last now
  have inside := UInt64.le_trans high.2.2.1 low.1
  refine ⟨?_, inside, high.2.1⟩
  rw [Tracker.addRange, if_neg (UInt64.not_lt.mpr range), addRange_of_inside range inside high.2.1]
  rfl

/-- The numbers of the gaps that `expire` gives up on. -/
def expiredNumbers (list : GapList) (cutoff : Timestamp) : Set UInt64 :=
  {n | ∃ gap ∈ list.gaps, gap.modified < cutoff ∧ gap.contains n = true}

theorem IsSpaced.expire (h : list.IsSpaced seams) (cutoff : Timestamp) :
    (list.expire cutoff).IsSpaced seams where
  bounds := h.bounds
  inside gap hg := h.inside gap (List.mem_of_mem_filter hg)
  apart := h.apart.filter _

theorem IsSpaced.missing_expire (h : list.IsSpaced seams) (cutoff : Timestamp) (n : UInt64) :
    n ∈ (list.expire cutoff).missingNumbers ↔
      n ∈ list.missingNumbers ∧ n ∉ list.expiredNumbers cutoff := by
  constructor
  · rintro ⟨gap, hg, contains⟩
    obtain ⟨hg, kept⟩ := List.mem_filter.mp hg
    refine ⟨⟨gap, hg, contains⟩, ?_⟩
    rintro ⟨other, ho, old, also⟩
    obtain rfl := h.unique hg ho contains also
    exact absurd old (Int.not_lt.mpr (of_decide_eq_true kept))
  · rintro ⟨⟨gap, hg, contains⟩, notExpired⟩
    refine ⟨gap, List.mem_filter.mpr ⟨hg, decide_eq_true ?_⟩, contains⟩
    by_contra old
    exact notExpired ⟨gap, hg, Int.not_le.mp old, contains⟩

end GapList

/-- A range of numbers of a set that cannot be extended in it. -/
structure IsMaximalRun (numbers : Set UInt64) (first last : UInt64) : Prop where
  ordered : first ≤ last
  within : ∀ n, first ≤ n → n ≤ last → n ∈ numbers
  before : ∀ n, n < first → n + 1 = first → n ∉ numbers
  after : ∀ n, last < n → last + 1 = n → n ∉ numbers

namespace GapList

variable {list : GapList}

/-- Two missing numbers that follow each other are in one gap. -/
theorem IsSpaced.eq_of_next (h : list.IsSpaced ∅) {a b : Gap} (ha : a ∈ list.gaps)
    (hb : b ∈ list.gaps) {n : UInt64} (next : n < n + 1) (hna : a.contains n = true)
    (hnb : b.contains (n + 1) = true) : a = b := by
  rw [Gap.contains_iff] at hna hnb
  rcases h.eq_or_apart ha hb with same | apart | apart
  · exact same
  · have touch : a.last + 1 = b.first := by
      have below := apart.1
      grind
    exact absurd (apart.2 touch) (Set.notMem_empty _)
  · have below := apart.1
    grind

/-- Next to a gap, no number is missing. -/
theorem IsSpaced.not_missing_before (h : list.IsSpaced ∅) {gap : Gap} (hg : gap ∈ list.gaps)
    {n : UInt64} (below : n < gap.first) (next : n + 1 = gap.first) : n ∉ list.missingNumbers := by
  rintro ⟨other, ho, contains⟩
  have ordered := (h.inside gap hg).2.1
  have first : gap.contains (n + 1) = true := by
    rw [Gap.contains_iff, next]
    exact ⟨UInt64.le_refl _, ordered⟩
  obtain rfl := h.eq_of_next ho hg (next ▸ below) contains first
  exact absurd (Gap.contains_iff.mp contains).1 (UInt64.not_le.mpr below)

theorem IsSpaced.not_missing_after (h : list.IsSpaced ∅) {gap : Gap} (hg : gap ∈ list.gaps)
    {n : UInt64} (above : gap.last < n) (next : gap.last + 1 = n) : n ∉ list.missingNumbers := by
  subst next
  rintro ⟨other, ho, contains⟩
  have ordered := (h.inside gap hg).2.1
  have last : gap.contains gap.last = true := Gap.contains_iff.mpr ⟨ordered, UInt64.le_refl _⟩
  obtain rfl := h.eq_of_next hg ho above last contains
  exact absurd (Gap.contains_iff.mp contains).2 (UInt64.not_le.mpr above)

/-- Gaps that do not touch are the maximal runs of missing numbers. -/
theorem IsSpaced.mem_bounds_iff (h : list.IsSpaced ∅) {first last : UInt64} :
    (first, last) ∈ list.bounds ↔ IsMaximalRun list.missingNumbers first last := by
  constructor
  · intro member
    obtain ⟨gap, hg, same⟩ := List.mem_map.mp member
    obtain ⟨rfl, rfl⟩ := Prod.mk.inj same
    constructor
    case ordered => exact (h.inside gap hg).2.1
    case within => exact fun n low high => ⟨gap, hg, Gap.contains_iff.mpr ⟨low, high⟩⟩
    case before => exact fun n => h.not_missing_before hg
    case after => exact fun n => h.not_missing_after hg
  · intro run
    obtain ⟨gap, hg, contains⟩ := run.within first (UInt64.le_refl _) run.ordered
    rw [Gap.contains_iff] at contains
    have ordered := run.ordered
    have inGap : ∀ n, gap.first ≤ n → n ≤ gap.last → n ∈ list.missingNumbers :=
      fun n low high => ⟨gap, hg, Gap.contains_iff.mpr ⟨low, high⟩⟩
    have start : gap.first = first := by
      by_contra different
      refine run.before (first - 1) ?_ ?_ (inGap (first - 1) ?_ ?_) <;> grind
    have notShorter : ¬ gap.last < last := by
      intro shorter
      refine h.not_missing_after hg ?_ rfl (run.within (gap.last + 1) ?_ ?_) <;> grind
    have notLonger : ¬ last < gap.last := by
      intro longer
      refine run.after (last + 1) ?_ rfl (inGap (last + 1) ?_ ?_) <;> grind
    have stop : gap.last = last := by grind
    exact List.mem_map.mpr ⟨gap, hg, by rw [← start, ← stop]; rfl⟩

end GapList

end ContinuousData

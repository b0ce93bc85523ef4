import ContinuousData.Proofs.GapHistory
import ContinuousData.Proofs.Results

/-! Stored gap lists are restored unless two gaps touch. A list that is built with its own bounds
missing gets a touching gap where it is extended past such a bound, and is rejected as long as the
numbers on both sides are missing. -/
namespace ContinuousData

namespace GapList

/-- Ordered gaps pass the check exactly when none touches another or the one before. -/
theorem checkGaps_eq_ok {min max : UInt64} {previous : Option UInt64} {gaps : List Gap} :
    checkGaps min max previous gaps = .ok () ↔
      (∀ gap ∈ gaps, min ≤ gap.first ∧ gap.first ≤ gap.last ∧ gap.last ≤ max) ∧
      gaps.Pairwise (Gap.Apart ∅) ∧
      ∀ last, previous = some last → ∀ gap ∈ gaps, last < gap.first ∧ last + 1 ≠ gap.first := by
  induction gaps generalizing previous with
  | nil => simp [checkGaps, pure_eq_ok]
  | cons gap gaps ih =>
    have inside : ¬ (gap.last < gap.first ∨ gap.first < min ∨ max < gap.last) ↔
        min ≤ gap.first ∧ gap.first ≤ gap.last ∧ gap.last ≤ max := by
      grind
    have others : (∀ last, some gap.last = some last →
        ∀ other ∈ gaps, last < other.first ∧ last + 1 ≠ other.first) ↔
        ∀ other ∈ gaps, Gap.Apart ∅ gap other := by
      simp only [Option.some.injEq, forall_eq']
      exact Iff.rfl
    rw [List.forall_mem_cons, List.pairwise_cons]
    unfold checkGaps
    cases previous with
    | none =>
      dsimp only
      simp only [refuse_eq_ok]
      rw [inside, ih, others]
      simp only [reduceCtorEq, false_implies, implies_true, and_true]
      exact ⟨fun ⟨a, b, c, d⟩ => ⟨⟨a, b⟩, d, c⟩, fun ⟨⟨a, b⟩, d, c⟩ => ⟨a, b, c, d⟩⟩
    | some last =>
      dsimp only
      simp only [refuse_eq_ok]
      rw [inside, ih, others]
      simp only [Option.some.injEq, forall_eq', List.forall_mem_cons]
      constructor
      · rintro ⟨ordered, apart, a, b, c⟩
        have before : last < gap.first ∧ last + 1 ≠ gap.first := by
          unfold maxNumber at apart
          grind
        refine ⟨⟨ordered, a⟩, ⟨c, b⟩, before, fun other ho => ?_⟩
        have := (c other ho).1
        grind
      · rintro ⟨⟨ordered, a⟩, ⟨c, b⟩, before, -⟩
        refine ⟨ordered, ?_, a, b, c⟩
        unfold maxNumber
        grind

theorem ofParts_eq_ok {min max : UInt64} {gaps : List Gap} {list : GapList}
    (h : ofParts min max gaps = .ok list) : list.IsSpaced ∅ := by
  unfold ofParts at h
  simp only [refuse_eq_ok, bind_eq_ok, pure_eq_ok] at h
  obtain ⟨ordered, _, checked, rfl⟩ := h
  obtain ⟨inside, apart, -⟩ := checkGaps_eq_ok.mp checked
  exact ⟨UInt64.not_lt.mp ordered, inside, apart⟩

/-- Parts in order are kept as they are. -/
theorem ofParts_of_sorted {min max : UInt64} {gaps : List Gap} (ordered : min ≤ max)
    (sorted : gaps.Pairwise fun a b => a.first ≤ b.first) :
    ofParts min max gaps = (do checkGaps min max none gaps; return ⟨min, max, gaps⟩) := by
  have same : gaps.mergeSort (fun a b => a.first ≤ b.first) = gaps :=
    List.mergeSort_of_pairwise (sorted.imp fun h => decide_eq_true h)
  unfold ofParts
  rw [if_neg (UInt64.not_lt.mpr ordered), same]

end GapList

namespace Gap

/-- The gap that comes back from storage, with a time in milliseconds. -/
def stored (gap : Gap) : Gap :=
  { gap with modified := .ofMillis gap.modified.millis }

/-- Times whose milliseconds fit into 64 bits. -/
def FitsMillis (time : Int) : Prop :=
  Int64.minValue.toInt ≤ time / 1000000 ∧ time / 1000000 ≤ Int64.maxValue.toInt

/-- Times come back rounded down. -/
theorem modified_stored {gap : Gap} (h : FitsMillis gap.modified) :
    gap.stored.modified = (gap.modified : Int) / 1000000 * 1000000 := by
  change (Int64.ofInt ((gap.modified : Int) / 1000000)).toInt * 1000000 = _
  rw [Int64.toInt_ofInt_of_le h.1 (Int.lt_add_one_of_le h.2)]

end Gap

namespace GapList

variable {list : GapList} {seams : Set UInt64}

theorem toList_ofList (h : list.IsSpaced seams) :
    (GapState.ofList list).toList =
      (do checkGaps list.min list.max none (list.gaps.map Gap.stored)
          return ⟨list.min, list.max, list.gaps.map Gap.stored⟩) := by
  have records : (list.gaps.map GapRecord.ofGap).map GapRecord.toGap = list.gaps.map Gap.stored :=
    List.map_map
  have sorted : (list.gaps.map Gap.stored).Pairwise fun a b => a.first ≤ b.first := by
    refine List.pairwise_map.mpr (h.apart.imp_of_mem fun {a b} ha _ apart => ?_)
    have inside := h.inside a ha
    have := apart.1
    change a.first ≤ b.first
    grind
  unfold GapState.toList GapState.ofList
  dsimp only
  rw [records, ofParts_of_sorted h.bounds sorted]

/-- A stored list is accepted exactly when its gaps do not touch. -/
theorem toList_ofList_of_apart (h : list.IsSpaced ∅) :
    (GapState.ofList list).toList = .ok ⟨list.min, list.max, list.gaps.map Gap.stored⟩ := by
  rw [toList_ofList h]
  refine bind_eq_ok.mpr ⟨(), checkGaps_eq_ok.mpr ⟨?_, ?_, nofun⟩, rfl⟩
  · intro part member
    obtain ⟨gap, hg, rfl⟩ := List.mem_map.mp member
    exact h.inside gap hg
  · exact List.pairwise_map.mpr h.apart

theorem apart_of_toList_ofList (h : list.IsSpaced seams) {restored : GapList}
    (accepted : (GapState.ofList list).toList = .ok restored) : list.IsSpaced ∅ := by
  rw [toList_ofList h] at accepted
  obtain ⟨_, checked, -⟩ := bind_eq_ok.mp accepted
  have apart := (checkGaps_eq_ok.mp checked).2.1
  rw [List.pairwise_map] at apart
  exact ⟨h.bounds, h.inside, apart⟩

/-- The lists that operations start from. -/
inductive IsConstructed : GapList → Prop where
  | missing {min max : UInt64} {now : Timestamp} {list : GapList}
      (h : GapList.missing min max now = .ok list) : IsConstructed list
  | single (n : UInt64) : IsConstructed (single n)
  | ofParts {min max : UInt64} {gaps : List Gap} {list : GapList}
      (h : GapList.ofParts min max gaps = .ok list) : IsConstructed list
  | ofState {state : GapState} {list : GapList} (h : state.toList = .ok list) : IsConstructed list

theorem IsConstructed.spaced (h : list.IsConstructed) : list.IsSpaced ∅ := by
  cases h with
  | @missing min max now _ h =>
    unfold GapList.missing at h
    obtain ⟨ordered, rfl⟩ := refuse_pure_eq_ok.mp h
    have bounds := UInt64.not_lt.mp ordered
    refine ⟨bounds, fun gap hg => ?_, List.pairwise_singleton _ _⟩
    obtain rfl := List.mem_singleton.mp hg
    exact ⟨UInt64.le_refl _, bounds, UInt64.le_refl _⟩
  | single n => exact ⟨UInt64.le_refl n, nofun, List.Pairwise.nil⟩
  | ofParts h => exact ofParts_eq_ok h
  | ofState h => exact ofParts_eq_ok h

/-- Where a list that started from `start` was extended past its first bounds. -/
def edges (start : GapList) : Set UInt64 :=
  {start.min, start.max + 1}

/-- What stays true of a list that started from `start`. No gap lies on both sides of a seam, and
only the first bounds can be missing themselves. -/
structure Extends (start list : GapList) : Prop where
  ordered : start.min ≤ start.max
  spaced : list.IsSpaced start.edges
  min_le : list.min ≤ start.min
  le_max : start.max ≤ list.max
  min_missing : list.min ∈ list.missingNumbers → list.min = start.min
  max_missing : list.max ∈ list.missingNumbers → list.max = start.max
  uncrossed : ∀ gap ∈ list.gaps, ¬ (gap.first < start.min ∧ start.min ≤ gap.last) ∧
    ¬ (gap.first ≤ start.max ∧ start.max < gap.last)
  old : ∀ n ∈ list.missingNumbers, start.min ≤ n → n ≤ start.max → n ∈ start.missingNumbers

variable {start : GapList} {now : Timestamp}

theorem Extends.refl (h : start.IsSpaced ∅) : Extends start start where
  ordered := h.bounds
  spaced := h.loosen (Set.empty_subset _)
  min_le := UInt64.le_refl _
  le_max := UInt64.le_refl _
  min_missing _ := rfl
  max_missing _ := rfl
  uncrossed gap hg := by
    have := h.inside gap hg
    grind
  old n missing _ _ := missing

/-- Taking numbers out of gaps, which may split or drop them. -/
theorem Extends.shrink (h : Extends start list) {fewer : GapList}
    (spaced : fewer.IsSpaced start.edges) (min : fewer.min = list.min)
    (max : fewer.max = list.max)
    (within : ∀ part ∈ fewer.gaps, ∃ gap ∈ list.gaps, part.Within gap) : Extends start fewer := by
  have missing : ∀ n ∈ fewer.missingNumbers, n ∈ list.missingNumbers := by
    rintro n ⟨part, hp, contains⟩
    obtain ⟨gap, hg, inside⟩ := within part hp
    unfold Gap.Within at inside
    rw [Gap.contains_iff] at contains
    exact ⟨gap, hg, Gap.contains_iff.mpr (by grind)⟩
  constructor
  case ordered => exact h.ordered
  case spaced => exact spaced
  case min_le => rw [min]; exact h.min_le
  case le_max => rw [max]; exact h.le_max
  case min_missing => rw [min]; exact fun hn => h.min_missing (missing _ hn)
  case max_missing => rw [max]; exact fun hn => h.max_missing (missing _ hn)
  case uncrossed =>
    intro part hp
    obtain ⟨gap, hg, inside⟩ := within part hp
    have := h.uncrossed gap hg
    unfold Gap.Within at inside
    grind
  case old => exact fun n hn => h.old n (missing n hn)

theorem Extends.cut (h : Extends start list) {first last : UInt64} (range : first ≤ last) :
    Extends start (list.cut first last now) := by
  refine h.shrink (h.spaced.cut range now) rfl rfl fun part hp => ?_
  obtain ⟨gap, hg, hp⟩ := List.mem_flatMap.mp hp
  exact ⟨gap, hg, Gap.within_of_mem_withoutRange (h.spaced.inside gap hg).2.1 hp⟩

theorem Extends.expire (h : Extends start list) (cutoff : Timestamp) :
    Extends start (list.expire cutoff) := by
  refine h.shrink (h.spaced.expire cutoff) rfl rfl fun gap hg => ?_
  have hg := List.mem_of_mem_filter hg
  exact ⟨gap, hg, UInt64.le_refl _, (h.spaced.inside gap hg).2.1, UInt64.le_refl _⟩

/-- Where the lower bound is missing, it is still the first one, and gaps may touch there. -/
theorem Extends.min_seam (h : Extends start list) :
    list.min ∈ start.edges ∨ list.min ∉ list.missingNumbers := by
  by_cases missing : list.min ∈ list.missingNumbers
  · exact .inl (.inl (h.min_missing missing))
  · exact .inr missing

theorem Extends.max_seam (h : Extends start list) :
    list.max + 1 ∈ start.edges ∨ list.max ∉ list.missingNumbers := by
  by_cases missing : list.max ∈ list.missingNumbers
  · left
    right
    rw [h.max_missing missing]
    rfl
  · exact .inr missing

theorem Extends.add_below (h : Extends start list) {n : UInt64} (below : n < list.min)
    (now : Timestamp) : Extends start (list.add n now) := by
  have bounds := h.spaced.bounds
  have min_le := h.min_le
  have min := min_add_below below now
  have max := max_add_below below now
  constructor
  case ordered => exact h.ordered
  case spaced => exact h.spaced.add_below below h.min_seam
  case min_le =>
    rw [min]
    exact UInt64.le_trans (UInt64.le_of_lt below) min_le
  case le_max =>
    rw [max]
    exact h.le_max
  case min_missing =>
    rw [min]
    intro missing
    rcases (missing_add_below below n).mp missing with missing | between
    · have := h.spaced.of_missing missing
      grind
    · grind
  case max_missing =>
    rw [max]
    intro missing
    rcases (missing_add_below below _).mp missing with missing | between
    · exact h.max_missing missing
    · grind
  case uncrossed =>
    intro gap hg
    have ordered := h.ordered
    rcases mem_add_below below hg with hg | new
    · exact h.uncrossed gap hg
    · grind
  case old =>
    intro x hx
    rcases (missing_add_below below x).mp hx with missing | between
    · exact h.old x missing
    · grind

theorem Extends.add_above (h : Extends start list) {n : UInt64} (above : list.max < n)
    (now : Timestamp) : Extends start (list.add n now) := by
  have bounds := h.spaced.bounds
  have le_max := h.le_max
  have min := min_add_above bounds above now
  have max := max_add_above bounds above now
  constructor
  case ordered => exact h.ordered
  case spaced => exact h.spaced.add_above above h.max_seam
  case min_le =>
    rw [min]
    exact h.min_le
  case le_max =>
    rw [max]
    exact UInt64.le_trans le_max (UInt64.le_of_lt above)
  case min_missing =>
    rw [min]
    intro missing
    rcases (missing_add_above bounds above _).mp missing with missing | between
    · exact h.min_missing missing
    · grind
  case max_missing =>
    rw [max]
    intro missing
    rcases (missing_add_above bounds above n).mp missing with missing | between
    · have := h.spaced.of_missing missing
      grind
    · grind
  case uncrossed =>
    intro gap hg
    have ordered := h.ordered
    rcases mem_add_above bounds above hg with hg | new
    · exact h.uncrossed gap hg
    · grind
  case old =>
    intro x hx
    rcases (missing_add_above bounds above x).mp hx with missing | between
    · exact h.old x missing
    · grind

theorem Extends.add (h : Extends start list) (n : UInt64) :
    Extends start (list.add n now) := by
  by_cases below : n < list.min
  · exact h.add_below below now
  by_cases above : list.max < n
  · exact h.add_above above now
  · rw [add_of_inside h.spaced (UInt64.not_lt.mp below) (UInt64.not_lt.mp above)]
    exact h.cut (UInt64.le_refl n)

/-- Both of two neighbours are missing. -/
def MissesBoth (list : GapList) (low high : UInt64) : Prop :=
  low < high ∧ low ∈ list.missingNumbers ∧ high ∈ list.missingNumbers

/-- Gaps touch exactly where the numbers on both sides of a seam are missing. -/
theorem Extends.spaced_iff (h : Extends start list) :
    list.IsSpaced ∅ ↔ ¬ list.MissesBoth (start.min - 1) start.min ∧
      ¬ list.MissesBoth start.max (start.max + 1) := by
  constructor
  · intro spaced
    constructor
    · rintro ⟨below, ⟨a, ha, inA⟩, ⟨b, hb, inB⟩⟩
      have next : start.min - 1 + 1 = start.min := UInt64.sub_add_cancel _ _
      obtain rfl := spaced.eq_of_next ha hb (by rwa [next]) inA (by rwa [next])
      rw [Gap.contains_iff] at inA inB
      exact (h.uncrossed a ha).1 ⟨UInt64.lt_of_le_of_lt inA.1 below, inB.2⟩
    · rintro ⟨above, ⟨a, ha, inA⟩, ⟨b, hb, inB⟩⟩
      obtain rfl := spaced.eq_of_next ha hb above inA inB
      rw [Gap.contains_iff] at inA inB
      exact (h.uncrossed a ha).2 ⟨inA.1, UInt64.lt_of_lt_of_le above inB.2⟩
  · rintro ⟨low, high⟩
    refine ⟨h.spaced.bounds, h.spaced.inside, ?_⟩
    apply h.spaced.apart.imp_of_mem
    intro a b ha hb apart
    refine ⟨apart.1, fun touch => ?_⟩
    have below := apart.1
    have missingA := h.spaced.last_missing ha
    have missingB := h.spaced.first_missing hb
    rcases apart.2 touch with seam | seam
    · have last : a.last = start.min - 1 := by grind
      rw [seam] at below missingB
      rw [last] at below missingA
      exact absurd ⟨below, missingA, missingB⟩ low
    · have seam : b.first = start.max + 1 := seam
      have last : a.last = start.max := by grind
      rw [seam] at below missingB
      rw [last] at below missingA
      exact absurd ⟨below, missingA, missingB⟩ high

/-- Gaps are ranges within bounds, in ascending order and disjoint. -/
structure IsOrdered (list : GapList) : Prop where
  inside : ∀ gap ∈ list.gaps,
    list.min ≤ gap.first ∧ gap.first ≤ gap.last ∧ gap.last ≤ list.max
  disjoint : list.gaps.Pairwise fun a b => a.last < b.first

/-- No gap touches another one. -/
def IsNonadjacent (list : GapList) : Prop :=
  list.gaps.Pairwise fun a b => a.last + 1 ≠ b.first

/-- The numbers on both sides of one of the first bounds are missing. -/
def Touches (start list : GapList) : Prop :=
  list.MissesBoth (start.min - 1) start.min ∨ list.MissesBoth start.max (start.max + 1)

theorem Extends.isOrdered (h : Extends start list) : list.IsOrdered :=
  ⟨h.spaced.inside, h.spaced.apart.imp fun apart => apart.1⟩

theorem IsSpaced.isNonadjacent_iff (h : list.IsSpaced seams) :
    list.IsNonadjacent ↔ list.IsSpaced ∅ := by
  constructor
  · intro nonadjacent
    refine ⟨h.bounds, h.inside, ?_⟩
    exact h.apart.imp₂ (fun _ _ apart nonadjacent => ⟨apart.1, nonadjacent⟩) nonadjacent
  · intro spaced
    refine spaced.apart.imp fun {a b} apart (touch : a.last + 1 = b.first) => ?_
    exact Set.notMem_empty _ (apart.2 touch)

theorem Extends.isNonadjacent_iff (h : Extends start list) :
    list.IsNonadjacent ↔ list.IsSpaced ∅ :=
  h.spaced.isNonadjacent_iff

theorem Extends.spaced_of_not_touches (h : Extends start list) (apart : ¬ Touches start list) :
    list.IsSpaced ∅ :=
  h.spaced_iff.mpr (not_or.mp apart)

/-- At the ends of the range of numbers there is no room for a touching gap. -/
theorem Extends.not_touches (h : Extends start list)
    (low : start.min ∉ start.missingNumbers ∨ start.min ≤ 1)
    (high : start.max ∉ start.missingNumbers ∨ maxNumber - 1 ≤ start.max) :
    ¬ Touches start list := by
  have ordered := h.ordered
  rintro (⟨below, beyond, missing⟩ | ⟨above, missing, beyond⟩)
  · have first := low.resolve_left (not_not.mpr (h.old _ missing (UInt64.le_refl _) ordered))
    have inside := h.spaced.of_missing beyond
    have same : list.min = start.min - 1 := by grind
    have := h.min_missing (same ▸ beyond)
    grind
  · have last := high.resolve_left (not_not.mpr (h.old _ missing ordered (UInt64.le_refl _)))
    have inside := h.spaced.of_missing beyond
    unfold maxNumber at last
    have same : list.max = start.max + 1 := by grind
    have := h.max_missing (same ▸ beyond)
    grind

end GapList

/-- What happens to a tracker that is not empty, and leaves it so. -/
inductive GapUpdate where
  | add (addition : Addition)
  | expire (cutoff : Timestamp)

def GapUpdate.apply (tracker : Tracker) : GapUpdate → Except Error Tracker
  | add addition => addition.apply tracker
  | expire cutoff => .ok (tracker.expire cutoff)

namespace Tracker

open GapList

variable {start list : GapList}

def update (tracker : Tracker) (updates : List GapUpdate) : Except Error Tracker :=
  updates.foldlM GapUpdate.apply tracker

/-- The tracker that is restored from the stored state. -/
def reload (tracker : Tracker) : Except Error Tracker :=
  match tracker.toState with
  | some state => ofState state
  | none => .ok .empty

theorem apply_of_extends (h : Extends start list) (step : GapUpdate) :
    ∃ next, step.apply (some list) = .ok (some next) ∧ Extends start next := by
  cases step with
  | expire cutoff => exact ⟨_, rfl, h.expire cutoff⟩
  | add addition =>
    cases addition with
    | number n now => exact ⟨_, rfl, h.add n⟩
    | range first last ordered now =>
      obtain ⟨added, -, -⟩ := addRange_some h.spaced.bounds ordered
      exact ⟨_, added, ((h.add first).add last).cut ordered⟩

theorem update_of_extends (h : Extends start list) (updates : List GapUpdate) :
    ∃ next, update (some list) updates = .ok (some next) ∧ Extends start next := by
  induction updates generalizing list with
  | nil => exact ⟨list, rfl, h⟩
  | cons step updates ih =>
    obtain ⟨next, applied, extended⟩ := apply_of_extends h step
    obtain ⟨last, others, lastExtended⟩ := ih extended
    refine ⟨last, ?_, lastExtended⟩
    rw [update, List.foldlM_cons, applied]
    exact others

theorem reload_of_spaced (h : list.IsSpaced ∅) :
    reload (some list) = .ok (some ⟨list.min, list.max, list.gaps.map Gap.stored⟩) :=
  bind_eq_ok.mpr ⟨_, toList_ofList_of_apart h, rfl⟩

theorem spaced_of_reload {seams : Set UInt64} (h : list.IsSpaced seams) {restored : Tracker}
    (accepted : reload (some list) = .ok restored) : list.IsSpaced ∅ := by
  obtain ⟨_, toList, -⟩ := bind_eq_ok.mp accepted
  exact apart_of_toList_ofList h toList

/-- A missing bound, and room for a gap and a received number beyond it. -/
theorem exists_not_reloaded (h : start.IsConstructed)
    (missing : start.min ∈ start.missingNumbers ∧ 1 < start.min ∨
      start.max ∈ start.missingNumbers ∧ start.max < maxNumber - 1) :
    ∃ n, ∀ restored, reload (some (start.add n 0)) ≠ .ok restored := by
  have unchanged := Extends.refl h.spaced
  rcases missing with ⟨missing, room⟩ | ⟨missing, room⟩
  · have below : start.min - 2 < start.min := by grind
    refine ⟨start.min - 2, fun restored accepted => ?_⟩
    have added := unchanged.add_below below 0
    refine (added.spaced_iff.mp (spaced_of_reload added.spaced accepted)).1 ⟨by grind, ?_, ?_⟩
    · exact (missing_add_below below _).mpr (.inr (by grind))
    · exact (missing_add_below below _).mpr (.inl missing)
  · unfold maxNumber at room
    have above : start.max < start.max + 2 := by grind
    refine ⟨start.max + 2, fun restored accepted => ?_⟩
    have added := unchanged.add_above above 0
    refine (added.spaced_iff.mp (spaced_of_reload added.spaced accepted)).2 ⟨by grind, ?_, ?_⟩
    · exact (missing_add_above h.spaced.bounds above _).mpr (.inl missing)
    · exact (missing_add_above h.spaced.bounds above _).mpr (.inr (by grind))

theorem reload_of_touches (h : Extends start list) (touches : Touches start list) :
    ∃ reason, reload (some list) = .error reason := by
  cases result : reload (some list) with
  | error reason => exact ⟨reason, rfl⟩
  | ok restored =>
    have spaced := h.spaced_iff.mp (spaced_of_reload h.spaced result)
    exact absurd touches (not_or.mpr spaced)

/-- Whatever is recorded or given up on, gaps stay in order. The list is restored from its stored
state, with times in milliseconds, unless gaps touch where it was extended past a first bound that
is still missing. It is always restored if these bounds were received, or lie at the ends of the
range of numbers. -/
theorem reload_iff (h : start.IsConstructed) :
    (∀ updates, ∃ list, update (some start) updates = .ok (some list) ∧ list.IsOrdered ∧
      (¬ Touches start list → list.IsNonadjacent ∧
        reload (some list) = .ok (some ⟨list.min, list.max, list.gaps.map Gap.stored⟩)) ∧
      (∀ gap ∈ list.gaps, Gap.FitsMillis gap.modified →
        gap.stored.modified = (gap.modified : Int) / 1000000 * 1000000) ∧
      (Touches start list → ¬ list.IsNonadjacent ∧
        ∃ reason, reload (some list) = .error reason)) ∧
    ((∀ updates list, update (some start) updates = .ok (some list) →
        ∃ restored, reload (some list) = .ok restored) ↔
      (start.min ∉ start.missingNumbers ∨ start.min ≤ 1) ∧
        (start.max ∉ start.missingNumbers ∨ maxNumber - 1 ≤ start.max)) := by
  have unchanged := Extends.refl h.spaced
  refine ⟨fun updates => ?_, fun always => ?_, fun ⟨low, high⟩ updates list updated => ?_⟩
  · obtain ⟨list, updated, extended⟩ := update_of_extends unchanged updates
    refine ⟨list, updated, extended.isOrdered, fun apart => ?_,
      fun gap _ fits => Gap.modified_stored fits, fun touches => ?_⟩
    · have spaced := extended.spaced_of_not_touches apart
      exact ⟨extended.isNonadjacent_iff.mpr spaced, reload_of_spaced spaced⟩
    · refine ⟨fun nonadjacent => ?_, reload_of_touches extended touches⟩
      have spaced := extended.isNonadjacent_iff.mp nonadjacent
      exact not_or.mpr (extended.spaced_iff.mp spaced) touches
  · by_contra failing
    have missing : start.min ∈ start.missingNumbers ∧ 1 < start.min ∨
        start.max ∈ start.missingNumbers ∧ start.max < maxNumber - 1 := by
      rw [not_and_or, not_or, not_or, not_not, not_not, UInt64.not_le, UInt64.not_le] at failing
      exact failing
    obtain ⟨n, rejected⟩ := exists_not_reloaded h missing
    obtain ⟨restored, accepted⟩ := always [.add (.number n 0)] (start.add n 0) rfl
    exact rejected restored accepted
  · obtain ⟨next, same, extended⟩ := update_of_extends unchanged updates
    obtain rfl := Option.some.inj (Except.ok.inj (same.symm.trans updated))
    exact ⟨_, reload_of_spaced (extended.spaced_of_not_touches (extended.not_touches low high))⟩

/-- A list that starts from a received number. -/
theorem reload_iff_single :
    ∃ list, update (some (.single 5)) [.add (.number 9 0)] = .ok (some list) ∧
      ∃ restored, reload (some list) = .ok restored := by
  have received : (5 : UInt64) ∉ (GapList.single 5).missingNumbers :=
    fun ⟨_, hg, _⟩ => List.not_mem_nil hg
  obtain ⟨runs, restores⟩ := reload_iff (.single 5)
  obtain ⟨list, updated, -⟩ := runs [.add (.number 9 0)]
  exact ⟨list, updated, restores.mpr ⟨.inl received, .inl received⟩ _ list updated⟩

/-- A list whose upper bound is missing gets a gap next to it, and is not restored. -/
theorem reload_ne_of_missing_bound :
    ∃ start list, GapState.toList ⟨5, 10, [⟨5, 10, 0⟩]⟩ = .ok start ∧
      update (some start) [.add (.number 12 0)] = .ok (some list) ∧
      list.bounds = [(5, 10), (11, 11)] ∧ reload (some list) = .error (.gapsTouch 11) := by
  refine ⟨⟨5, 10, [⟨5, 10, 0⟩]⟩, ⟨5, 12, [⟨5, 10, 0⟩, ⟨11, 11, 0⟩]⟩, ?_, rfl, rfl, ?_⟩
  · exact ofParts_of_sorted (by decide) (List.pairwise_singleton _ _)
  · have stored : GapState.toList ⟨5, 12, [⟨5, 10, 0⟩, ⟨11, 11, 0⟩]⟩ = .error (.gapsTouch 11) :=
      ofParts_of_sorted (by decide) (List.pairwise_pair.mpr (by decide))
    change some <$> GapState.toList ⟨5, 12, [⟨5, 10, 0⟩, ⟨11, 11, 0⟩]⟩ = _
    rw [stored]
    rfl

end Tracker

end ContinuousData

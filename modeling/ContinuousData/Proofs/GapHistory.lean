import ContinuousData.Proofs.GapArithmetic
import Mathlib.Order.Bounds.Defs

/-! Trackers are exact. Beside a tracker, a history keeps the numbers that have been added since it
was last empty, and those that count as received: the added ones, and the ones that expiry has given
up on. The tracker's bounds and gaps follow from these two sets. -/
namespace ContinuousData

/-- A number or a range of numbers that is recorded, with the time. -/
inductive Addition where
  | number (n : UInt64) (now : Timestamp)
  | range (first last : UInt64) (ordered : first ≤ last) (now : Timestamp)

namespace Addition

def numbers : Addition → Set UInt64
  | number n _ => {n}
  | range first last _ _ => {n | first ≤ n ∧ n ≤ last}

def apply (tracker : Tracker) : Addition → Except Error Tracker
  | number n now => .ok (tracker.add n now)
  | range first last _ now => tracker.addRange first last now

/-- With checked arithmetic and lookup by bisection. -/
def applyChecked (tracker : Tracker) : Addition → Option (Except Error Tracker)
  | number n now => Except.ok <$> tracker.add? n now
  | range first last _ now => tracker.addRange? first last now

theorem applyChecked_eq {tracker : Tracker} {seams : Set UInt64}
    (h : ∀ list ∈ tracker, list.IsSpaced seams) (addition : Addition) :
    addition.applyChecked tracker = some (addition.apply tracker) := by
  cases addition with
  | number n now =>
    change Except.ok <$> tracker.add? n now = _
    rw [Tracker.add?_eq h]
    rfl
  | range first last ordered now => exact Tracker.addRange?_eq h first last now

/-- All numbers of some additions. -/
def union (additions : List Addition) : Set UInt64 :=
  {n | ∃ addition ∈ additions, n ∈ addition.numbers}

theorem union_cons (addition : Addition) (additions : List Addition) :
    union (addition :: additions) = addition.numbers ∪ union additions := by
  ext n
  simp [union]

end Addition

/-- What can happen to a tracker. -/
inductive TrackerStep where
  | add (addition : Addition)
  | expire (cutoff : Timestamp)
  | reset
  | checkReset (peerLowest peerHighest : UInt64)

def TrackerStep.apply (tracker : Tracker) : TrackerStep → Except Error Tracker
  | add addition => addition.apply tracker
  | expire cutoff => .ok (tracker.expire cutoff)
  | reset => .ok .empty
  | checkReset _ peerHighest => .ok (tracker.forgetIfOutdated peerHighest)

/-- With checked arithmetic and lookup by bisection, which additions alone make use of. -/
def TrackerStep.applyChecked (tracker : Tracker) :
    TrackerStep → Option (Except Error Tracker)
  | add addition => addition.applyChecked tracker
  | step => some (step.apply tracker)

theorem TrackerStep.applyChecked_eq {tracker : Tracker} {seams : Set UInt64}
    (h : ∀ list ∈ tracker, list.IsSpaced seams) (step : TrackerStep) :
    step.applyChecked tracker = some (step.apply tracker) := by
  cases step with
  | add addition => exact Addition.applyChecked_eq h addition
  | expire cutoff => rfl
  | reset => rfl
  | checkReset peerLowest peerHighest => rfl

/-- The numbers that a tracker has seen since it was last empty. -/
@[ext]
structure History where
  added : Set UInt64
  received : Set UInt64

namespace History

def empty : History :=
  ⟨∅, ∅⟩

def add (history : History) (numbers : Set UInt64) : History :=
  ⟨history.added ∪ numbers, history.received ∪ numbers⟩

/-- Gives up on numbers. -/
def drop (history : History) (numbers : Set UInt64) : History :=
  { history with received := history.received ∪ numbers }

theorem add_empty (history : History) : history.add ∅ = history := by
  simp [add]

theorem add_add (history : History) (a b : Set UInt64) :
    (history.add a).add b = history.add (a ∪ b) := by
  simp [add, Set.union_assoc]

theorem drop_empty (history : History) : history.drop ∅ = history := by
  simp [drop]

theorem drop_drop (history : History) (a b : Set UInt64) :
    (history.drop a).drop b = history.drop (a ∪ b) := by
  simp [drop, Set.union_assoc]

theorem drop_add (history : History) (a b : Set UInt64) :
    (history.drop a).add b = (history.add b).drop a := by
  simp [add, drop, Set.union_right_comm]

theorem drop_empty_add (added lost : Set UInt64) :
    (empty.add added).drop lost = ⟨added, added ∪ lost⟩ := by
  simp [empty, add, drop]

/-- The numbers of the gaps that `expire` gives up on. -/
def lost (tracker : Tracker) (cutoff : Timestamp) : Set UInt64 :=
  match tracker with
  | some list => list.expiredNumbers cutoff
  | none => ∅

/-- The history of `tracker` after a step. -/
def next (history : History) (tracker : Tracker) : TrackerStep → History
  | .add addition => history.add addition.numbers
  | .expire cutoff => history.drop (lost tracker cutoff)
  | .reset => empty
  | .checkReset _ peerHighest => if tracker.isOutdatedBy peerHighest then empty else history

end History

theorem numbers_single (n : UInt64) : {x | n ≤ x ∧ x ≤ n} = ({n} : Set UInt64) := by
  ext x
  simp only [Set.mem_ofPred_eq, Set.mem_singleton_iff]
  grind

namespace GapList

variable {list : GapList} {history : History}

/-- The invariant of lists and their histories. -/
structure Follows (history : History) (list : GapList) : Prop where
  spaced : list.IsSpaced ∅
  min_mem : list.min ∈ history.added
  max_mem : list.max ∈ history.added
  subset : history.added ⊆ history.received
  bounds : ∀ n ∈ history.received, list.min ≤ n ∧ n ≤ list.max
  missing : ∀ n, n ∈ list.missingNumbers ↔ (list.min ≤ n ∧ n ≤ list.max) ∧ n ∉ history.received

theorem Follows.min_not_missing (h : list.Follows history) : list.min ∉ list.missingNumbers :=
  fun missing => ((h.missing _).mp missing).2 (h.subset h.min_mem)

theorem Follows.max_not_missing (h : list.Follows history) : list.max ∉ list.missingNumbers :=
  fun missing => ((h.missing _).mp missing).2 (h.subset h.max_mem)

theorem Follows.cut (h : list.Follows history) {first last : UInt64} (range : first ≤ last)
    (low : list.min ≤ first) (high : last ≤ list.max) (now : Timestamp) :
    (list.cut first last now).Follows (history.add {n | first ≤ n ∧ n ≤ last}) where
  spaced := h.spaced.cut range now
  min_mem := .inl h.min_mem
  max_mem := .inl h.max_mem
  subset := Set.union_subset_union_left _ h.subset
  bounds := by
    rintro n (received | inside)
    · exact h.bounds n received
    · exact ⟨UInt64.le_trans low inside.1, UInt64.le_trans inside.2 high⟩
  missing := by
    intro n
    rw [h.spaced.missing_cut, h.missing, and_assoc, ← not_or]
    rfl

theorem Follows.add_below (h : list.Follows history) {n : UInt64} (below : n < list.min)
    (now : Timestamp) : (list.add n now).Follows (history.add {n}) := by
  have ordered := h.spaced.bounds
  have min := min_add_below below now
  have max := max_add_below below now
  constructor
  case spaced => exact h.spaced.add_below below (.inr h.min_not_missing)
  case min_mem =>
    rw [min]
    exact .inr rfl
  case max_mem =>
    rw [max]
    exact .inl h.max_mem
  case subset => exact Set.union_subset_union_left _ h.subset
  case bounds =>
    rw [min, max]
    rintro x (received | rfl)
    · have := h.bounds x received
      grind
    · grind
  case missing =>
    intro x
    rw [missing_add_below below, h.missing, min, max]
    change _ ↔ _ ∧ ¬ (x ∈ history.received ∨ x = n)
    have := h.bounds x
    grind

theorem Follows.add_above (h : list.Follows history) {n : UInt64} (above : list.max < n)
    (now : Timestamp) : (list.add n now).Follows (history.add {n}) := by
  have ordered := h.spaced.bounds
  have min := min_add_above ordered above now
  have max := max_add_above ordered above now
  constructor
  case spaced => exact h.spaced.add_above above (.inr h.max_not_missing)
  case min_mem =>
    rw [min]
    exact .inl h.min_mem
  case max_mem =>
    rw [max]
    exact .inr rfl
  case subset => exact Set.union_subset_union_left _ h.subset
  case bounds =>
    rw [min, max]
    rintro x (received | rfl)
    · have := h.bounds x received
      grind
    · grind
  case missing =>
    intro x
    rw [missing_add_above ordered above, h.missing, min, max]
    change _ ↔ _ ∧ ¬ (x ∈ history.received ∨ x = n)
    have := h.bounds x
    grind

theorem Follows.add (h : list.Follows history) (n : UInt64) (now : Timestamp) :
    (list.add n now).Follows (history.add {n}) := by
  by_cases below : n < list.min
  · exact h.add_below below now
  by_cases above : list.max < n
  · exact h.add_above above now
  · have low := UInt64.not_lt.mp below
    have high := UInt64.not_lt.mp above
    rw [add_of_inside h.spaced low high, ← numbers_single]
    exact h.cut (UInt64.le_refl n) low high now

theorem Follows.expire (h : list.Follows history) (cutoff : Timestamp) :
    (list.expire cutoff).Follows (history.drop (list.expiredNumbers cutoff)) where
  spaced := h.spaced.expire cutoff
  min_mem := h.min_mem
  max_mem := h.max_mem
  subset := h.subset.trans Set.subset_union_left
  bounds := by
    rintro n (received | ⟨gap, hg, -, contains⟩)
    · exact h.bounds n received
    · exact h.spaced.of_missing ⟨gap, hg, contains⟩
  missing := by
    intro n
    rw [h.spaced.missing_expire, h.missing, and_assoc, ← not_or]
    rfl

end GapList

theorem GapList.follows_full {first last : UInt64} (range : first ≤ last) :
    (GapList.mk first last []).Follows (History.empty.add {n | first ≤ n ∧ n ≤ last}) where
  spaced := ⟨range, nofun, List.Pairwise.nil⟩
  min_mem := .inr ⟨UInt64.le_refl _, range⟩
  max_mem := .inr ⟨range, UInt64.le_refl _⟩
  subset := subset_rfl
  bounds := by
    rintro n (received | inside)
    · exact absurd received (Set.notMem_empty n)
    · exact inside
  missing := by
    intro n
    refine iff_of_false ?_ fun missing => missing.2 (.inr missing.1)
    rintro ⟨gap, hg, -⟩
    exact List.not_mem_nil hg

/-- What a history says of the view of its tracker. -/
structure History.Determines (history : History) (lowest highest : UInt64)
    (gaps : List (UInt64 × UInt64)) : Prop where
  least : IsLeast history.added lowest
  greatest : IsGreatest history.added highest
  lowest_received : lowest ∈ history.received
  highest_received : highest ∈ history.received
  runs : ∀ first last, (first, last) ∈ gaps ↔
    IsMaximalRun {n | (lowest ≤ n ∧ n ≤ highest) ∧ n ∉ history.received} first last
  ascending : gaps.Pairwise fun a b => a.2 < b.1 ∧ a.2 + 1 ≠ b.1

theorem History.Determines.ordered {history : History} {lowest highest : UInt64}
    {gaps : List (UInt64 × UInt64)} (h : history.Determines lowest highest gaps) :
    ∀ pair ∈ gaps, pair.1 ≤ pair.2 :=
  fun pair member => ((h.runs pair.1 pair.2).mp member).ordered

theorem History.Determines.nodup {history : History} {lowest highest : UInt64}
    {gaps : List (UInt64 × UInt64)} (h : history.Determines lowest highest gaps) :
    gaps.Nodup := by
  apply h.ascending.imp_of_mem
  rintro a b ha - apart rfl
  exact UInt64.not_lt.mpr (h.ordered a ha) apart.1

theorem GapList.Follows.determines {list : GapList} {history : History}
    (h : list.Follows history) : history.Determines list.min list.max list.bounds where
  least := ⟨h.min_mem, fun n added => (h.bounds n (h.subset added)).1⟩
  greatest := ⟨h.max_mem, fun n added => (h.bounds n (h.subset added)).2⟩
  lowest_received := h.subset h.min_mem
  highest_received := h.subset h.max_mem
  runs first last := by
    have missing : {n | (list.min ≤ n ∧ n ≤ list.max) ∧ n ∉ history.received} =
        list.missingNumbers := Set.ext fun n => (h.missing n).symm
    rw [missing]
    exact h.spaced.mem_bounds_iff
  ascending := by
    refine List.pairwise_map.mpr (h.spaced.apart.imp fun apart => ⟨apart.1, fun touch => ?_⟩)
    exact Set.notMem_empty _ (apart.2 touch)

/-- The view is determined by the sets alone. -/
theorem History.Determines.unique {history : History} {lowest highest lowest' highest' : UInt64}
    {gaps gaps' : List (UInt64 × UInt64)} (h : history.Determines lowest highest gaps)
    (h' : history.Determines lowest' highest' gaps') :
    lowest = lowest' ∧ highest = highest' ∧ gaps = gaps' := by
  obtain rfl : lowest = lowest' :=
    UInt64.le_antisymm (h.least.2 h'.least.1) (h'.least.2 h.least.1)
  obtain rfl : highest = highest' :=
    UInt64.le_antisymm (h'.greatest.2 h.greatest.1) (h.greatest.2 h'.greatest.1)
  have same : ∀ pair, pair ∈ gaps ↔ pair ∈ gaps' :=
    fun pair => (h.runs pair.1 pair.2).trans (h'.runs pair.1 pair.2).symm
  have perm := (List.perm_ext_iff_of_nodup h.nodup h'.nodup).mpr fun {pair} => same pair
  refine ⟨rfl, rfl, perm.eq_of_pairwise (fun a b ha hb below above => ?_) h.ascending h'.ascending⟩
  have orderedA := h.ordered a ha
  have orderedB := h'.ordered b hb
  grind

namespace Tracker

variable {tracker : Tracker} {history : History}

/-- The invariant of trackers and their histories. -/
def Follows (history : History) (tracker : Tracker) : Prop :=
  match tracker with
  | some list => list.Follows history
  | none => history = .empty

theorem Follows.exists_list (h : tracker.Follows history) (added : history.added.Nonempty) :
    ∃ list, tracker = some list ∧ list.Follows history := by
  cases tracker with
  | some list => exact ⟨list, rfl, h⟩
  | none =>
    obtain rfl : history = .empty := h
    exact absurd added Set.not_nonempty_empty

theorem Follows.spaced (h : tracker.Follows history) : ∀ list ∈ tracker, list.IsSpaced ∅ := by
  rintro list rfl
  exact GapList.Follows.spaced h

theorem Follows.add (h : tracker.Follows history) (n : UInt64) (now : Timestamp) :
    (tracker.add n now).Follows (history.add {n}) := by
  cases tracker with
  | some list => exact GapList.Follows.add h n now
  | none =>
    obtain rfl : history = .empty := h
    have full := GapList.follows_full (UInt64.le_refl n)
    rwa [numbers_single] at full

theorem Follows.addRange (h : tracker.Follows history) {first last : UInt64}
    (range : first ≤ last) (now : Timestamp) :
    ∃ next, tracker.addRange first last now = .ok next ∧
      next.Follows (history.add {n | first ≤ n ∧ n ≤ last}) := by
  cases tracker with
  | some list =>
    obtain ⟨added, low, high⟩ := GapList.addRange_some (GapList.Follows.spaced h).bounds range
    refine ⟨_, added, ?_⟩
    have both := GapList.Follows.add (GapList.Follows.add h first now) last now
    have cut := both.cut range low high now
    have ends : {first} ∪ {last} ∪ {n | first ≤ n ∧ n ≤ last} = {n | first ≤ n ∧ n ≤ last} := by
      refine Set.union_eq_right.mpr ?_
      rintro n (rfl | rfl)
      · exact ⟨UInt64.le_refl _, range⟩
      · exact ⟨range, UInt64.le_refl _⟩
    rwa [History.add_add, History.add_add, ← Set.union_assoc, ends] at cut
  | none =>
    obtain rfl : history = .empty := h
    have ordered : ¬ last < first := UInt64.not_lt.mpr range
    refine ⟨some ⟨first, last, []⟩, ?_, GapList.follows_full range⟩
    rw [Tracker.addRange, if_neg ordered, GapList.ofParts, if_neg ordered, List.mergeSort_nil]
    rfl

theorem Follows.addition (h : tracker.Follows history) (addition : Addition) :
    ∃ next, addition.apply tracker = .ok next ∧ next.Follows (history.add addition.numbers) := by
  cases addition with
  | number n now => exact ⟨_, rfl, h.add n now⟩
  | range first last ordered now => exact h.addRange ordered now

theorem Follows.step (h : tracker.Follows history) (step : TrackerStep) :
    ∃ next, step.apply tracker = .ok next ∧ next.Follows (history.next tracker step) := by
  cases step with
  | add addition => exact h.addition addition
  | reset => exact ⟨_, rfl, rfl⟩
  | checkReset peerLowest peerHighest =>
    refine ⟨_, rfl, ?_⟩
    change Follows (if _ then _ else _) (if _ then _ else _)
    by_cases outdated : tracker.isOutdatedBy peerHighest = true
    · rw [if_pos outdated, if_pos outdated]
      exact rfl
    · rw [if_neg outdated, if_neg outdated]
      exact h
  | expire cutoff =>
    refine ⟨_, rfl, ?_⟩
    cases tracker with
    | none =>
      obtain rfl : history = .empty := h
      exact History.ext rfl (Set.union_empty ∅)
    | some list => exact GapList.Follows.expire h cutoff

/-- A tracker and its history after some steps. -/
def runFrom (tracker : Tracker) (history : History) :
    List TrackerStep → Except Error (Tracker × History)
  | [] => .ok (tracker, history)
  | step :: steps => do runFrom (← step.apply tracker) (history.next tracker step) steps

/-- From an empty tracker. -/
def run (steps : List TrackerStep) : Except Error (Tracker × History) :=
  runFrom .empty .empty steps

theorem Follows.runFrom (h : tracker.Follows history) (steps : List TrackerStep) :
    ∃ next seen, runFrom tracker history steps = .ok (next, seen) ∧ next.Follows seen := by
  induction steps generalizing tracker history with
  | nil => exact ⟨tracker, history, rfl, h⟩
  | cons step steps ih =>
    obtain ⟨next, applied, follows⟩ := h.step step
    obtain ⟨last, seen, others, lastFollows⟩ := ih follows
    refine ⟨last, seen, ?_, lastFollows⟩
    rw [Tracker.runFrom, applied]
    exact others

/-- What can be asked of a tracker. -/
def view (tracker : Tracker) : Option UInt64 × Option UInt64 × List (UInt64 × UInt64) :=
  (tracker.lowest, tracker.highest, tracker.gaps)

theorem determines_of_follows (h : tracker.Follows history) :
    tracker = none ∧ history = .empty ∨ ∃ lowest highest, tracker.lowest = some lowest ∧
      tracker.highest = some highest ∧ history.Determines lowest highest tracker.gaps := by
  cases tracker with
  | none => exact .inl ⟨rfl, h⟩
  | some list => exact .inr ⟨list.min, list.max, rfl, rfl, GapList.Follows.determines h⟩

/-- Trackers of one history look the same. -/
theorem view_eq_of_follows {other : Tracker} (h : tracker.Follows history)
    (ho : other.Follows history) : tracker.view = other.view := by
  cases tracker with
  | none =>
    obtain rfl : history = .empty := h
    cases other with
    | none => rfl
    | some list => exact absurd (GapList.Follows.min_mem ho) (Set.notMem_empty _)
  | some list =>
    cases other with
    | none =>
      obtain rfl : history = .empty := ho
      exact absurd (GapList.Follows.min_mem h) (Set.notMem_empty _)
    | some otherList =>
      obtain ⟨lowest, highest, gaps⟩ :=
        (GapList.Follows.determines h).unique (GapList.Follows.determines ho)
      change (some list.min, some list.max, list.bounds) =
        (some otherList.min, some otherList.max, otherList.bounds)
      rw [lowest, highest, gaps]

/-- Several additions, one after the other. -/
def addAll (tracker : Tracker) (additions : List Addition) : Except Error Tracker :=
  additions.foldlM Addition.apply tracker

theorem Follows.addAll (h : tracker.Follows history) (additions : List Addition) :
    ∃ next, tracker.addAll additions = .ok next ∧
      next.Follows (history.add (Addition.union additions)) := by
  induction additions generalizing tracker history with
  | nil =>
    have none : Addition.union [] = ∅ := by
      ext n
      simp [Addition.union]
    exact ⟨tracker, rfl, by rwa [none, History.add_empty]⟩
  | cons addition additions ih =>
    obtain ⟨next, applied, follows⟩ := h.addition addition
    obtain ⟨last, others, lastFollows⟩ := ih follows
    refine ⟨last, ?_, ?_⟩
    · rw [Tracker.addAll, List.foldlM_cons, applied]
      exact others
    · rwa [History.add_add, ← Addition.union_cons] at lastFollows

/-- The numbers of a range, in ascending order. -/
def numbersOf (first last : UInt64) : List UInt64 :=
  (List.range' first.toNat (last.toNat + 1 - first.toNat)).map UInt64.ofNat

theorem mem_numbersOf {first last n : UInt64} :
    n ∈ numbersOf first last ↔ first ≤ n ∧ n ≤ last := by
  rw [numbersOf, List.mem_map, UInt64.le_iff_toNat_le, UInt64.le_iff_toNat_le]
  constructor
  · rintro ⟨value, inside, rfl⟩
    have := List.mem_range'_1.mp inside
    have small : value < UInt64.size := by
      have := last.toNat_lt
      unfold UInt64.size
      omega
    rw [UInt64.toNat_ofNat_of_lt' small]
    omega
  · intro inside
    exact ⟨n.toNat, List.mem_range'_1.mpr (by omega), UInt64.ofNat_toNat⟩

/-- Numbers that are added one by one. -/
def addEach (tracker : Tracker) (numbers : List UInt64) (times : UInt64 → Timestamp) : Tracker :=
  numbers.foldl (fun tracker n => tracker.add n (times n)) tracker

theorem Follows.addEach (h : tracker.Follows history) (numbers : List UInt64)
    (times : UInt64 → Timestamp) :
    (tracker.addEach numbers times).Follows (history.add {n | n ∈ numbers}) := by
  induction numbers generalizing tracker history with
  | nil =>
    have none : {n : UInt64 | n ∈ []} = ∅ := by simp
    rw [none, History.add_empty]
    exact h
  | cons n numbers ih =>
    have others := ih (h.add n (times n))
    have both : {n} ∪ {x | x ∈ numbers} = {x | x ∈ n :: numbers} := by
      ext x
      simp
    rwa [History.add_add, both] at others

/-- Whatever happens to an empty tracker, its bounds and its gaps are those of the numbers that have
been added or given up on. Nothing else of the additions matters, and none of them fails or leaves
the range of numbers. -/
theorem run_exact (steps : List TrackerStep) :
    ∃ tracker history, run steps = .ok (tracker, history) ∧
      (tracker = none ∧ history = .empty ∨ ∃ lowest highest, tracker.lowest = some lowest ∧
        tracker.highest = some highest ∧ history.Determines lowest highest tracker.gaps) ∧
      (∀ step : TrackerStep, ∃ next, step.apply tracker = .ok next ∧
        step.applyChecked tracker = some (.ok next)) ∧
      (∀ additions others, Addition.union additions = Addition.union others →
        ∃ one other, tracker.addAll additions = .ok one ∧ tracker.addAll others = .ok other ∧
          one.view = other.view) ∧
      (∀ first last now times, first ≤ last →
        ∃ next, tracker.addRange first last now = .ok next ∧
          next.view = (tracker.addEach (numbersOf first last) times).view) := by
  have start : Tracker.empty.Follows .empty := rfl
  obtain ⟨tracker, history, reached, follows⟩ := start.runFrom steps
  refine ⟨tracker, history, reached, determines_of_follows follows, ?_, ?_, ?_⟩
  · intro step
    obtain ⟨next, applied, -⟩ := follows.step step
    exact ⟨next, applied, by rw [TrackerStep.applyChecked_eq follows.spaced, applied]⟩
  · intro additions others same
    obtain ⟨one, added, oneFollows⟩ := follows.addAll additions
    obtain ⟨other, addedToo, otherFollows⟩ := follows.addAll others
    rw [← same] at otherFollows
    exact ⟨one, other, added, addedToo, view_eq_of_follows oneFollows otherFollows⟩
  · intro first last now times range
    obtain ⟨next, added, nextFollows⟩ := follows.addRange range now
    have each := follows.addEach (numbersOf first last) times
    simp only [mem_numbersOf] at each
    exact ⟨next, added, view_eq_of_follows nextFollows each⟩

end Tracker

end ContinuousData

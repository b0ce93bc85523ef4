import ContinuousData.Proofs.GapRestoring

/-! Numbers that are settled stay so. A number of the range of a tracker is settled once it does not
count as missing: it was received, or its gap was given up. Unless the tracker is emptied, its range
only grows, and within the range that it had before no number gets missing. -/
namespace ContinuousData

namespace GapList

variable {list before after later : GapList} {seams : Set UInt64} {now : Timestamp}

/-- The numbers within bounds that are not missing. -/
def settledNumbers (list : GapList) : Set UInt64 :=
  {n | (list.min ≤ n ∧ n ≤ list.max) ∧ n ∉ list.missingNumbers}

/-- A list that goes on from another one: nothing gets missing within the former bounds. -/
structure Settles (before after : GapList) : Prop where
  min_le : after.min ≤ before.min
  le_max : before.max ≤ after.max
  missing : ∀ n, before.min ≤ n → n ≤ before.max → n ∈ after.missingNumbers →
    n ∈ before.missingNumbers

theorem Settles.refl (list : GapList) : Settles list list where
  min_le := UInt64.le_refl _
  le_max := UInt64.le_refl _
  missing _ _ _ missing := missing

theorem Settles.trans (h : Settles before after) (others : Settles after later) :
    Settles before later where
  min_le := UInt64.le_trans others.min_le h.min_le
  le_max := UInt64.le_trans h.le_max others.le_max
  missing := by
    intro n low high missing
    refine h.missing n low high (others.missing n ?_ ?_ missing)
    · exact UInt64.le_trans h.min_le low
    · exact UInt64.le_trans high h.le_max

theorem Settles.subset (h : Settles before after) :
    before.settledNumbers ⊆ after.settledNumbers := by
  rintro n ⟨⟨low, high⟩, settled⟩
  refine ⟨⟨UInt64.le_trans h.min_le low, UInt64.le_trans high h.le_max⟩, fun missing => ?_⟩
  exact settled (h.missing n low high missing)

theorem IsSpaced.settles_cut (h : list.IsSpaced seams) (first last : UInt64) :
    Settles list (list.cut first last now) where
  min_le := UInt64.le_refl _
  le_max := UInt64.le_refl _
  missing n _ _ missing := ((h.missing_cut first last n).mp missing).1

theorem IsSpaced.settles_expire (h : list.IsSpaced seams) (cutoff : Timestamp) :
    Settles list (list.expire cutoff) where
  min_le := UInt64.le_refl _
  le_max := UInt64.le_refl _
  missing n _ _ missing := ((h.missing_expire cutoff n).mp missing).1

/-- A number outside of the range makes numbers missing on that side only. -/
theorem IsSpaced.settles_add (h : list.IsSpaced seams) (n : UInt64) :
    Settles list (list.add n now) := by
  have grown := bounds_add h.bounds n now
  by_cases below : n < list.min
  · refine ⟨grown.2.2.1, grown.2.2.2, fun x low high missing => ?_⟩
    rcases (missing_add_below below x).mp missing with before | ⟨-, outside⟩
    · exact before
    · exact absurd low (UInt64.not_le.mpr outside)
  by_cases above : list.max < n
  · refine ⟨grown.2.2.1, grown.2.2.2, fun x low high missing => ?_⟩
    rcases (missing_add_above h.bounds above x).mp missing with before | ⟨outside, -⟩
    · exact before
    · exact absurd high (UInt64.not_le.mpr outside)
  · rw [add_of_inside h (UInt64.not_lt.mp below) (UInt64.not_lt.mp above)]
    exact h.settles_cut n n

/-- A number that is recorded is settled. -/
theorem IsSpaced.mem_settled_add (h : list.IsSpaced seams) (n : UInt64) :
    n ∈ (list.add n now).settledNumbers := by
  have grown := bounds_add h.bounds n now
  refine ⟨⟨grown.1, grown.2.1⟩, fun missing => ?_⟩
  by_cases below : n < list.min
  · rcases (missing_add_below below n).mp missing with before | ⟨beyond, -⟩
    · exact absurd (h.of_missing before).1 (UInt64.not_le.mpr below)
    · exact UInt64.lt_irrefl n beyond
  by_cases above : list.max < n
  · rcases (missing_add_above h.bounds above n).mp missing with before | ⟨-, beyond⟩
    · exact absurd (h.of_missing before).2 (UInt64.not_le.mpr above)
    · exact UInt64.lt_irrefl n beyond
  · rw [add_of_inside h (UInt64.not_lt.mp below) (UInt64.not_lt.mp above)] at missing
    exact ((h.missing_cut n n n).mp missing).2 ⟨UInt64.le_refl n, UInt64.le_refl n⟩

/-- What is settled is not asked for. -/
theorem not_asked_of_settled {n : UInt64} (settled : n ∈ list.settledNumbers) :
    ∀ gap ∈ (Tracker.snapshot (some list)).gaps, ¬ (gap.1 ≤ n ∧ n ≤ gap.2) := by
  intro pair member inside
  obtain ⟨gap, closed, rfl⟩ := List.mem_map.mp member
  exact settled.2 ⟨gap, List.mem_of_mem_filter closed, Gap.contains_iff.mpr inside⟩

end GapList

/-- What can be asked of a tracker, apart from emptying it. Ranges may be the wrong way round. -/
inductive GapRequest where
  | number (n : UInt64) (now : Timestamp)
  | range (first last : UInt64) (now : Timestamp)
  | expire (cutoff : Timestamp)

namespace GapRequest

open GapList

def outcome (tracker : Tracker) : GapRequest → Except Error Tracker
  | number n now => .ok (tracker.add n now)
  | range first last now => tracker.addRange first last now
  | expire cutoff => .ok (tracker.expire cutoff)

/-- A request that is refused changes nothing. -/
def perform (tracker : Tracker) (request : GapRequest) : Tracker :=
  match request.outcome tracker with
  | .ok next => next
  | .error _ => tracker

def performAll (tracker : Tracker) (requests : List GapRequest) : Tracker :=
  requests.foldl perform tracker

theorem performAll_append (tracker : Tracker) (front back : List GapRequest) :
    performAll tracker (front ++ back) = performAll (performAll tracker front) back :=
  List.foldl_append

/-- The numbers that count as received from then on. -/
def settled (list : GapList) : GapRequest → Set UInt64
  | number n _ => {n}
  | range first last _ => {n | first ≤ n ∧ n ≤ last}
  | expire cutoff => list.expiredNumbers cutoff

/-- Only a range that is the wrong way round is refused. -/
inductive Proceeds (list : GapList) (request : GapRequest) (next : GapList) : Prop where
  | accepted (outcome : request.outcome (some list) = .ok (some next))
  | refused (first last : UInt64) (now : Timestamp) (reversed : last < first)
      (range : request = .range first last now)
      (outcome : request.outcome (some list) = .error (.reversedRange first last))
      (same : next = list)

variable {list next : GapList} {request : GapRequest}

theorem Proceeds.perform_eq (h : Proceeds list request next) :
    request.perform (some list) = some next := by
  unfold perform
  cases h with
  | accepted outcome => rw [outcome]
  | refused first last now reversed range outcome same => rw [outcome, same]

/-- What one request preserves, and what it settles. -/
theorem exists_proceeds (spaced : list.IsSpaced Set.univ) (request : GapRequest) :
    ∃ next, Proceeds list request next ∧ next.IsSpaced Set.univ ∧ Settles list next ∧
      request.settled list ⊆ next.settledNumbers := by
  cases request with
  | number n now =>
    refine ⟨list.add n now, .accepted rfl, spaced.add n now, spaced.settles_add n, ?_⟩
    rintro x rfl
    exact spaced.mem_settled_add x
  | expire cutoff =>
    refine ⟨list.expire cutoff, .accepted rfl, spaced.expire cutoff, spaced.settles_expire cutoff,
      ?_⟩
    rintro n ⟨gap, hg, old, contains⟩
    have inside : n ∈ list.missingNumbers := ⟨gap, hg, contains⟩
    have expired : n ∈ list.expiredNumbers cutoff := ⟨gap, hg, old, contains⟩
    refine ⟨spaced.of_missing inside, fun missing => ?_⟩
    exact ((spaced.missing_expire cutoff n).mp missing).2 expired
  | range first last now =>
    by_cases reversed : last < first
    · have outcome : (range first last now).outcome (some list) =
          .error (.reversedRange first last) := if_pos reversed
      refine ⟨list, .refused first last now reversed rfl outcome rfl, spaced, .refl list, ?_⟩
      rintro n ⟨low, high⟩
      exact absurd (UInt64.le_trans low high) (UInt64.not_le.mpr reversed)
    · have range := UInt64.not_lt.mp reversed
      obtain ⟨outcome, low, high⟩ := @addRange_some list now spaced.bounds first last range
      have ends := (spaced.add first now).add last now
      refine ⟨_, .accepted outcome, ends.cut range now, ?_, ?_⟩
      · exact (spaced.settles_add first).trans
          (((spaced.add first now).settles_add last).trans (ends.settles_cut first last))
      · intro n inside
        refine ⟨⟨UInt64.le_trans low inside.1, UInt64.le_trans inside.2 high⟩, fun missing => ?_⟩
        exact ((ends.missing_cut first last n).mp missing).2 inside

theorem exists_performAll (spaced : list.IsSpaced Set.univ) (requests : List GapRequest) :
    ∃ last, performAll (some list) requests = some last ∧ last.IsSpaced Set.univ ∧
      Settles list last := by
  induction requests generalizing list with
  | nil => exact ⟨list, rfl, spaced, .refl list⟩
  | cons request requests ih =>
    obtain ⟨next, proceeds, spaced, settles, -⟩ := exists_proceeds spaced request
    obtain ⟨last, others, spaced, later⟩ := ih spaced
    refine ⟨last, ?_, spaced, settles.trans later⟩
    rw [performAll, List.foldl_cons, proceeds.perform_eq]
    exact others

end GapRequest

namespace Tracker

open GapList GapRequest

/-- Whatever is asked of a tracker that was restored from a stored state, its bounds only move apart
and nothing gets missing between them. So a number that was received, or whose gap was given up, is
never asked for again. -/
theorem never_asked_again {state : GapState} {start : GapList}
    (accepted : ofState state = .ok (some start)) (front : List GapRequest) (request : GapRequest)
    (back : List GapRequest) :
    ∃ before after later, performAll (some start) front = some before ∧
      Proceeds before request after ∧ performAll (some start) (front ++ [request]) = some after ∧
      performAll (some start) (front ++ request :: back) = some later ∧
      (after.min ≤ before.min ∧ before.max ≤ after.max ∧
        ∀ n, before.min ≤ n → n ≤ before.max → n ∈ after.missingNumbers →
          n ∈ before.missingNumbers) ∧
      ∀ n, n ∈ before.settledNumbers ∨ n ∈ request.settled before →
        n ∉ later.missingNumbers ∧
          ∀ gap ∈ (snapshot (some later)).gaps, ¬ (gap.1 ≤ n ∧ n ≤ gap.2) := by
  obtain ⟨list, toList, same⟩ := bind_eq_ok.mp accepted
  obtain rfl := Option.some.inj (pure_eq_ok.mp same)
  have spaced := (ofParts_eq_ok toList).loosen (Set.subset_univ ∅)
  obtain ⟨before, earlier, spaced, -⟩ := exists_performAll spaced front
  obtain ⟨after, proceeds, spaced, settles, settled⟩ := exists_proceeds spaced request
  obtain ⟨later, others, -, remains⟩ := exists_performAll spaced back
  refine ⟨before, after, later, earlier, proceeds, ?_, ?_,
    ⟨settles.min_le, settles.le_max, settles.missing⟩, fun n counts => ?_⟩
  · rw [performAll_append, earlier]
    exact proceeds.perform_eq
  · rw [performAll_append, earlier, ← others, ← proceeds.perform_eq]
    rfl
  · have stays : n ∈ later.settledNumbers :=
      remains.subset (counts.elim (fun earlier => settles.subset earlier) fun now => settled now)
    exact ⟨stays.2, not_asked_of_settled stays⟩

/-- A restored gap that takes up the whole range is split, the one after it is given up, and the
range grows on both sides. -/
theorem never_asked_again_between :
    ofState ⟨5, 10, [⟨5, 10, 0⟩]⟩ = .ok (some ⟨5, 10, [⟨5, 10, 0⟩]⟩) ∧
      ∃ later, performAll (some ⟨5, 10, [⟨5, 10, 0⟩]⟩)
          ([.number 12 1, .range 9 7 1, .number 7 2] ++ .expire 2 :: [.range 3 3 2, .number 20 2]) =
          some later ∧ later.bounds = [(4, 4), (5, 6), (8, 10), (13, 19)] ∧
        ∀ gap ∈ (snapshot (some later)).gaps, ¬ (gap.1 ≤ 11 ∧ 11 ≤ gap.2) := by
  have accepted : ofState ⟨5, 10, [⟨5, 10, 0⟩]⟩ = .ok (some ⟨5, 10, [⟨5, 10, 0⟩]⟩) :=
    congrArg (some <$> ·) (ofParts_of_sorted (by decide) (List.pairwise_singleton _ _))
  obtain ⟨before, after, later, earlier, -, -, reached, -, never⟩ :=
    never_asked_again accepted [.number 12 1, .range 9 7 1, .number 7 2] (.expire 2)
      [.range 3 3 2, .number 20 2]
  obtain rfl : ⟨5, 12, [⟨5, 6, 2⟩, ⟨8, 10, 2⟩, ⟨11, 11, 1⟩]⟩ = before := Option.some.inj earlier
  have given : 11 ∈ (GapRequest.expire 2).settled
      ⟨5, 12, [⟨5, 6, 2⟩, ⟨8, 10, 2⟩, ⟨11, 11, 1⟩]⟩ :=
    ⟨⟨11, 11, 1⟩, by simp, by decide, by decide⟩
  refine ⟨accepted, later, reached, ?_, (never 11 (.inr given)).2⟩
  obtain rfl := Option.some.inj reached
  rfl

end Tracker

end ContinuousData

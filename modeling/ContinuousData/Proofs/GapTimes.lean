import ContinuousData.Proofs.SettledNumbers
import Mathlib.Data.List.Induction

/-! When gaps were last modified. An update gives its time to the gaps whose bounds it changes and
leaves all others as they are, so that the time of a gap is that of the last change of its bounds.
Numbers that were received before thus keep no gap from being given up. -/
namespace ContinuousData

namespace Gap

theorem eq_of_bounds {gap other : Gap} (bounds : gap.bounds = other.bounds)
    (modified : gap.modified = other.modified) : gap = other := by
  obtain ⟨first, last⟩ := Prod.mk.inj bounds
  cases gap
  cases other
  obtain rfl : _ = _ := first
  obtain rfl : _ = _ := last
  obtain rfl : _ = _ := modified
  rfl

/-- A single number of a range can be taken out before it. -/
theorem flatMap_withoutRange {gap : Gap} {first last n : UInt64} (low : first ≤ n)
    (high : n ≤ last) (now : Timestamp) :
    (gap.withoutRange n n now).flatMap (·.withoutRange first last now) =
      gap.withoutRange first last now := by
  by_cases apart : gap.last < n ∨ n < gap.first
  · rw [withoutRange, if_pos apart, List.flatMap_singleton]
  · have hit : ¬ (gap.last < first ∨ last < gap.first) := by grind
    rw [withoutRange, if_neg apart, List.flatMap_append, withoutRange, if_neg hit]
    congr 1
    · by_cases below : gap.first < n
      · have notAbove : ¬ last < n - 1 := by grind
        rw [if_pos below, List.flatMap_singleton, withoutRange, if_neg notAbove, List.append_nil]
        dsimp only
        by_cases start : n - 1 < first
        · obtain rfl : n = first := by grind
          rw [if_pos (.inl start), if_pos below]
        · rw [if_neg (by grind)]
      · rw [if_neg below, if_neg (by grind), List.flatMap_nil]
    · by_cases above : n < gap.last
      · have notBelow : ¬ n + 1 < first := by grind
        rw [if_pos above, List.flatMap_singleton, withoutRange, if_neg notBelow, List.nil_append]
        dsimp only
        by_cases start : last < n + 1
        · obtain rfl : n = last := by grind
          rw [if_pos (.inr start), if_pos above]
        · rw [if_neg (by grind)]
      · rw [if_neg above, if_neg (by grind), List.flatMap_nil]

end Gap

namespace GapList

variable {list before between after : GapList} {seams : Set UInt64} {now : Timestamp}

/-- An update at a time. Gaps with the bounds of a former gap have the time of that one, all other
gaps have the time of the update, and a gap of which nothing was received stays. -/
structure Refreshes (now : Timestamp) (before after : GapList) : Prop where
  kept : ∀ gap ∈ after.gaps, ∀ old ∈ before.gaps, gap.bounds = old.bounds →
    gap.modified = old.modified
  fresh : ∀ gap ∈ after.gaps, gap.bounds ∉ before.bounds → gap.modified = now
  untouched : ∀ old ∈ before.gaps, (∀ n, old.contains n = true → n ∈ after.missingNumbers) →
    old ∈ after.gaps

theorem Refreshes.mem_cases (h : Refreshes now before after) {gap : Gap} (hg : gap ∈ after.gaps) :
    gap ∈ before.gaps ∨ gap.bounds ∉ before.bounds ∧ gap.modified = now := by
  by_cases known : gap.bounds ∈ before.bounds
  · obtain ⟨old, ho, same⟩ := List.mem_map.mp known
    rw [Gap.eq_of_bounds same.symm (h.kept gap hg old ho same.symm)]
    exact .inl ho
  · exact .inr ⟨known, h.fresh gap hg known⟩

theorem IsSpaced.eq_of_first (h : list.IsSpaced seams) {a b : Gap} (ha : a ∈ list.gaps)
    (hb : b ∈ list.gaps) (first : a.first = b.first) : a = b := by
  refine h.unique ha hb (n := a.first) ?_ ?_
  · exact Gap.contains_iff.mpr ⟨UInt64.le_refl _, (h.inside a ha).2.1⟩
  · exact Gap.contains_iff.mpr ⟨first ▸ UInt64.le_refl _, first ▸ (h.inside b hb).2.1⟩

theorem IsSpaced.eq_of_last (h : list.IsSpaced seams) {a b : Gap} (ha : a ∈ list.gaps)
    (hb : b ∈ list.gaps) (last : a.last = b.last) : a = b := by
  refine h.unique ha hb (n := a.last) ?_ ?_
  · exact Gap.contains_iff.mpr ⟨(h.inside a ha).2.1, UInt64.le_refl _⟩
  · exact Gap.contains_iff.mpr ⟨last ▸ (h.inside b hb).2.1, last ▸ UInt64.le_refl _⟩

/-- A gap that is still missing as a whole after two updates was so after the first one. -/
theorem Refreshes.trans (spaced : before.IsSpaced seams) (first : Refreshes now before between)
    (settles : Settles before between) (second : Refreshes now between after)
    (later : Settles between after) : Refreshes now before after := by
  have stays : ∀ old ∈ before.gaps, (∀ n, old.contains n = true → n ∈ after.missingNumbers) →
      old ∈ between.gaps := by
    intro old ho missing
    refine first.untouched old ho fun n contains => ?_
    obtain ⟨low, high⟩ := spaced.of_missing ⟨old, ho, contains⟩
    exact later.missing n (UInt64.le_trans settles.min_le low)
      (UInt64.le_trans high settles.le_max) (missing n contains)
  constructor
  case kept =>
    intro gap hg old ho same
    refine second.kept gap hg old (stays old ho fun n contains => ⟨gap, hg, ?_⟩) same
    obtain ⟨first, last⟩ := Prod.mk.inj same
    rwa [Gap.contains, first, last]
  case fresh =>
    intro gap hg new
    rcases second.mem_cases hg with middle | ⟨-, modified⟩
    · exact first.fresh gap middle new
    · exact modified
  case untouched => exact fun old ho missing => second.untouched old (stays old ho missing) missing

theorem IsSpaced.refreshes_cut (h : list.IsSpaced seams) {first last : UInt64}
    (range : first ≤ last) (now : Timestamp) : Refreshes now list (list.cut first last now) where
  kept := by
    intro part hp old ho same
    obtain ⟨sameFirst, sameLast⟩ := Prod.mk.inj same
    obtain ⟨gap, hg, hp⟩ := List.mem_flatMap.mp hp
    rcases Gap.mem_withoutRange.mp hp with ⟨rfl, -⟩ | ⟨⟨rfl, below⟩ | ⟨rfl, above⟩, overlap⟩
    · rw [h.eq_of_first hg ho sameFirst]
    · obtain rfl := h.eq_of_first hg ho sameFirst
      have ordered := (h.inside gap hg).2.1
      dsimp only at sameLast
      grind
    · obtain rfl := h.eq_of_last hg ho sameLast
      have ordered := (h.inside gap hg).2.1
      dsimp only at sameFirst
      grind
  fresh := by
    intro part hp new
    obtain ⟨gap, hg, hp⟩ := List.mem_flatMap.mp hp
    rcases Gap.mem_withoutRange.mp hp with ⟨rfl, -⟩ | ⟨⟨rfl, -⟩ | ⟨rfl, -⟩, -⟩
    · exact absurd (List.mem_map_of_mem hg) new
    · rfl
    · rfl
  untouched := by
    intro old ho missing
    have ordered := (h.inside old ho).2.1
    have outside : old.last < first ∨ last < old.first := by
      by_contra overlap
      have hit : ∃ n, old.contains n = true ∧ first ≤ n ∧ n ≤ last := by
        by_cases before : old.first < first
        · exact ⟨first, Gap.contains_iff.mpr (by grind), by grind⟩
        · exact ⟨old.first, Gap.contains_iff.mpr (by grind), by grind⟩
      obtain ⟨n, contains, inside⟩ := hit
      exact ((h.missing_cut first last n).mp (missing n contains)).2 inside
    exact List.mem_flatMap.mpr ⟨old, ho, Gap.mem_withoutRange.mpr (.inl ⟨rfl, outside⟩)⟩

/-- A number outside of the range leaves all gaps, and makes a new one at most. -/
theorem mem_add_outside {n : UInt64} (outside : n < list.min ∨ list.max < n) (now : Timestamp) :
    (∀ gap ∈ list.gaps, gap ∈ (list.add n now).gaps) ∧
      ∀ gap ∈ (list.add n now).gaps, gap ∈ list.gaps ∨
        gap.modified = now ∧ (gap.last < list.min ∨ list.max < gap.first) := by
  unfold add
  by_cases below : n < list.min
  · rw [if_pos below]
    dsimp only
    split_ifs with between
    · refine ⟨fun gap hg => List.mem_cons_of_mem _ hg, List.forall_mem_cons.mpr ⟨?_, ?_⟩⟩
      · refine .inr ⟨rfl, .inl ?_⟩
        dsimp only
        grind
      · exact fun gap hg => .inl hg
    · exact ⟨fun gap hg => hg, fun gap hg => .inl hg⟩
  · have above := outside.resolve_left below
    rw [if_neg below, if_pos above]
    dsimp only
    split_ifs with between
    · refine ⟨fun gap hg => List.mem_append_left _ hg, List.forall_mem_append.mpr ⟨?_, ?_⟩⟩
      · exact fun gap hg => .inl hg
      · refine List.forall_mem_singleton.mpr (.inr ⟨rfl, .inr ?_⟩)
        dsimp only
        grind
    · exact ⟨fun gap hg => hg, fun gap hg => .inl hg⟩

theorem IsSpaced.refreshes_add (h : list.IsSpaced seams) (n : UInt64) (now : Timestamp) :
    Refreshes now list (list.add n now) := by
  by_cases outside : n < list.min ∨ list.max < n
  · obtain ⟨stay, members⟩ := mem_add_outside outside now
    constructor
    case kept =>
      intro gap hg old ho same
      obtain ⟨sameFirst, sameLast⟩ := Prod.mk.inj same
      rcases members gap hg with hg | ⟨-, beyond⟩
      · rw [h.eq_of_first hg ho sameFirst]
      · have inside := h.inside old ho
        grind
    case fresh =>
      intro gap hg new
      rcases members gap hg with hg | ⟨modified, -⟩
      · exact absurd (List.mem_map_of_mem hg) new
      · exact modified
    case untouched => exact fun old ho _ => stay old ho
  · obtain ⟨low, high⟩ := not_or.mp outside
    rw [add_of_inside h (UInt64.not_lt.mp low) (UInt64.not_lt.mp high)]
    exact h.refreshes_cut (UInt64.le_refl n) now

theorem IsSpaced.refreshes_addRange (h : list.IsSpaced seams) {first last : UInt64}
    {next : GapList} (added : list.addRange first last now = .ok next) :
    Refreshes now list next := by
  unfold addRange at added
  split_ifs at added with reversed outside
  obtain rfl := Except.ok.inj added
  exact h.refreshes_cut (UInt64.not_lt.mp reversed) now

/-- Through a tracker, the ends of a range are recorded first. -/
theorem IsSpaced.refreshes_tracked (h : list.IsSpaced Set.univ) {first last : UInt64}
    {next : GapList} (added : Tracker.addRange (some list) first last now = .ok (some next)) :
    Refreshes now list next := by
  have range : first ≤ last := by
    by_contra reversed
    rw [Tracker.addRange, if_pos (UInt64.not_le.mp reversed)] at added
    contradiction
  obtain ⟨result, -⟩ := @addRange_some list now h.bounds first last range
  obtain rfl := Option.some.inj (Except.ok.inj (result.symm.trans added))
  have one := h.add first now
  have both := one.add last now
  have ends := (h.refreshes_add first now).trans h (h.settles_add first)
    (one.refreshes_add last now) (one.settles_add last)
  exact ends.trans h ((h.settles_add first).trans (one.settles_add last))
    (both.refreshes_cut range now) (both.settles_cut first last)

theorem cut_cut {first last n : UInt64} (low : first ≤ n) (high : n ≤ last) (now : Timestamp) :
    (list.cut n n now).cut first last now = list.cut first last now := by
  unfold cut
  simp only [List.flatMap_assoc, Gap.flatMap_withoutRange low high]

/-- A range within bounds is the same to a tracker as to its list. -/
theorem IsSpaced.addRange_tracked (h : list.IsSpaced seams) {first last : UInt64}
    {next : GapList} (added : list.addRange first last now = .ok next) :
    Tracker.addRange (some list) first last now = .ok (some next) := by
  unfold addRange at added
  split_ifs at added with reversed outside
  obtain rfl := Except.ok.inj added
  obtain ⟨low, high⟩ := not_or.mp outside
  have range := UInt64.not_lt.mp reversed
  have atFirst : list.add first now = list.cut first first now :=
    add_of_inside h (UInt64.not_lt.mp low) (UInt64.le_trans range (UInt64.not_lt.mp high))
  have atLast : (list.cut first first now).add last now =
      (list.cut first first now).cut last last now :=
    add_of_inside (h.cut (UInt64.le_refl first) now)
      (UInt64.le_trans (UInt64.not_lt.mp low) range) (UInt64.not_lt.mp high)
  rw [(addRange_some h.bounds range).1, atFirst, atLast, cut_cut range (UInt64.le_refl last),
    cut_cut (UInt64.le_refl first) range]
  rfl

/-- A number that is settled already changes nothing. -/
theorem add_of_settled {n : UInt64} (settled : n ∈ list.settledNumbers) (now : Timestamp) :
    list.add n now = list := by
  obtain ⟨⟨low, high⟩, notMissing⟩ := settled
  have nowhere : ∀ gap ∈ list.gaps, ¬ gap.contains n = true :=
    fun gap hg contains => notMissing ⟨gap, hg, contains⟩
  rw [add, if_neg (UInt64.not_lt.mpr low), if_neg (UInt64.not_lt.mpr high),
    removeFrom_of_not_contains nowhere]

theorem IsSpaced.cut_of_settled (h : list.IsSpaced seams) {first last : UInt64}
    (settled : ∀ n, first ≤ n → n ≤ last → n ∈ list.settledNumbers) (range : first ≤ last)
    (now : Timestamp) : list.cut first last now = list := by
  have apart : ∀ gap ∈ list.gaps, gap.withoutRange first last now = [gap] := by
    intro gap hg
    refine if_pos ?_
    by_contra overlap
    have ordered := (h.inside gap hg).2.1
    have nowhere : ∀ n, gap.contains n = true → ¬ (first ≤ n ∧ n ≤ last) :=
      fun n contains inside => (settled n inside.1 inside.2).2 ⟨gap, hg, contains⟩
    simp only [Gap.contains_iff] at nowhere
    have atFirst := nowhere first
    have atStart := nowhere gap.first
    grind
  rw [GapList.cut, List.flatMap_congr apart, List.flatMap_singleton']

theorem IsSpaced.addRange_of_settled (h : list.IsSpaced seams) {first last : UInt64}
    (range : first ≤ last) (settled : ∀ n, first ≤ n → n ≤ last → n ∈ list.settledNumbers)
    (now : Timestamp) :
    list.addRange first last now = .ok list ∧
      Tracker.addRange (some list) first last now = .ok (some list) := by
  have low := settled first (UInt64.le_refl _) range
  have high := settled last range (UInt64.le_refl _)
  have same : list.addRange first last now = .ok (list.cut first last now) :=
    addRange_of_inside range low.1.1 high.1.2
  rw [h.cut_of_settled settled range] at same
  exact ⟨same, h.addRange_tracked same⟩

end GapList

namespace GapRequest

open GapList

/-- The time of an update. -/
def time? : GapRequest → Option Timestamp
  | number _ now => some now
  | range _ _ now => some now
  | expire _ => none

/-- The time when a gap last got its bounds: it had them at the start with this time, or there was
no gap with them before an update at this time, and they have not gone since. -/
inductive LastChanged (start : GapList) (bounds : UInt64 × UInt64) :
    List GapRequest → Timestamp → Prop where
  | atStart {gap : Gap} (member : gap ∈ start.gaps) (same : gap.bounds = bounds) :
      LastChanged start bounds [] gap.modified
  | kept {requests : List GapRequest} {request : GapRequest} {time : Timestamp}
      (earlier : LastChanged start bounds requests time)
      (after : bounds ∈ (performAll (some start) (requests ++ [request])).gaps) :
      LastChanged start bounds (requests ++ [request]) time
  | changed {requests : List GapRequest} {request : GapRequest} {time : Timestamp}
      (update : request.time? = some time)
      (before : bounds ∉ (performAll (some start) requests).gaps)
      (after : bounds ∈ (performAll (some start) (requests ++ [request])).gaps) :
      LastChanged start bounds (requests ++ [request]) time

variable {start list next : GapList} {request : GapRequest} {requests : List GapRequest}
  {bounds : UInt64 × UInt64} {time : Timestamp}

theorem LastChanged.mem_gaps (h : LastChanged start bounds requests time) :
    bounds ∈ (performAll (some start) requests).gaps := by
  cases h with
  | atStart member same => exact List.mem_map.mpr ⟨_, member, same⟩
  | kept earlier after => exact after
  | changed update before after => exact after

theorem lastChanged_nil_iff :
    LastChanged start bounds [] time ↔
      ∃ gap ∈ start.gaps, gap.bounds = bounds ∧ gap.modified = time := by
  constructor
  · intro h
    generalize none : ([] : List GapRequest) = requests at h
    cases h with
    | atStart member same => exact ⟨_, member, same, rfl⟩
    | kept earlier after => simp at none
    | changed update before after => simp at none
  · rintro ⟨gap, member, same, rfl⟩
    exact .atStart member same

theorem lastChanged_concat_iff :
    LastChanged start bounds (requests ++ [request]) time ↔
      bounds ∈ (performAll (some start) (requests ++ [request])).gaps ∧
        (LastChanged start bounds requests time ∨
          request.time? = some time ∧ bounds ∉ (performAll (some start) requests).gaps) := by
  constructor
  · intro h
    refine ⟨h.mem_gaps, ?_⟩
    generalize whole : requests ++ [request] = all at h
    cases h with
    | atStart member same => simp at whole
    | kept earlier after =>
      obtain ⟨rfl, -⟩ := List.append_inj' whole rfl
      exact .inl earlier
    | changed update before after =>
      obtain ⟨rfl, same⟩ := List.append_inj' whole rfl
      obtain rfl := List.singleton_inj.mp same
      exact .inr ⟨update, before⟩
  · rintro ⟨after, earlier | ⟨update, before⟩⟩
    · exact .kept earlier after
    · exact .changed update before after

/-- What one request does to the times of gaps. -/
theorem Proceeds.mem_cases (h : Proceeds list request next) (spaced : list.IsSpaced Set.univ)
    {gap : Gap} (hg : gap ∈ next.gaps) :
    gap ∈ list.gaps ∨ gap.bounds ∉ list.bounds ∧ request.time? = some gap.modified := by
  cases h with
  | refused first last now reversed range outcome same => exact .inl (same ▸ hg)
  | accepted outcome =>
    cases request with
    | number n now =>
      obtain rfl := Option.some.inj (Except.ok.inj outcome)
      exact ((spaced.refreshes_add n now).mem_cases hg).imp_right
        fun ⟨new, modified⟩ => ⟨new, congrArg some modified.symm⟩
    | range first last now =>
      exact ((spaced.refreshes_tracked outcome).mem_cases hg).imp_right
        fun ⟨new, modified⟩ => ⟨new, congrArg some modified.symm⟩
    | expire cutoff =>
      obtain rfl := Option.some.inj (Except.ok.inj outcome)
      exact .inl (List.mem_of_mem_filter hg)

/-- The time of a gap is that of the last change of its bounds, and there is no other such time. -/
theorem lastChanged_iff (spaced : start.IsSpaced Set.univ)
    (reached : performAll (some start) requests = some list) {gap : Gap} (hg : gap ∈ list.gaps) :
    LastChanged start gap.bounds requests time ↔ time = gap.modified := by
  induction requests using List.reverseRecOn generalizing list gap time with
  | nil =>
    obtain rfl := Option.some.inj reached
    rw [lastChanged_nil_iff]
    constructor
    · rintro ⟨other, ho, same, rfl⟩
      rw [spaced.eq_of_first ho hg (Prod.mk.inj same).1]
    · rintro rfl
      exact ⟨gap, hg, rfl, rfl⟩
  | append_singleton requests request ih =>
    obtain ⟨before, earlier, spacedBefore, -⟩ := exists_performAll spaced requests
    obtain ⟨next, proceeds, -⟩ := exists_proceeds spacedBefore request
    have whole := reached
    rw [performAll_append, earlier] at reached
    obtain rfl := Option.some.inj (proceeds.perform_eq.symm.trans reached)
    have after : gap.bounds ∈ (performAll (some start) (requests ++ [request])).gaps := by
      rw [whole]
      exact List.mem_map_of_mem hg
    rw [lastChanged_concat_iff, and_iff_right after, earlier]
    rcases proceeds.mem_cases spacedBefore hg with old | ⟨new, update⟩
    · have known : gap.bounds ∈ Tracker.gaps (some before) := List.mem_map_of_mem old
      rw [ih earlier old, or_iff_left (fun change => change.2 known)]
    · have unknown : ¬ LastChanged start gap.bounds requests time := by
        intro changed
        have known := changed.mem_gaps
        rw [earlier] at known
        exact new known
      rw [or_iff_right unknown, update, Option.some_inj, eq_comm]
      exact and_iff_left new

end GapRequest

namespace GapList

open GapRequest

/-- Updates refresh the gaps that they change, whatever was asked of a restored list before. So the
gaps that are given up are those whose bounds have last changed before the cutoff. -/
theorem refreshes_only_changed {min max : UInt64} {gaps : List Gap} {start : GapList}
    (accepted : ofParts min max gaps = .ok start) (requests : List GapRequest) :
    ∃ list, performAll (some start) requests = some list ∧
      (∀ n now, Tracker.add (some list) n now = some (list.add n now) ∧
        Refreshes now list (list.add n now)) ∧
      (∀ first last now next, list.addRange first last now = .ok next →
        Refreshes now list next ∧
          Tracker.addRange (some list) first last now = .ok (some next)) ∧
      (∀ first last now next, Tracker.addRange (some list) first last now = .ok (some next) →
        Refreshes now list next) ∧
      (∀ n ∈ list.settledNumbers, ∀ now, list.add n now = list) ∧
      (∀ first last, first ≤ last → (∀ n, first ≤ n → n ≤ last → n ∈ list.settledNumbers) →
        ∀ now, list.addRange first last now = .ok list ∧
          Tracker.addRange (some list) first last now = .ok (some list)) ∧
      (∀ gap ∈ list.gaps, ∀ time,
        LastChanged start gap.bounds requests time ↔ time = gap.modified) ∧
      ∀ cutoff, (list.expire cutoff).min = list.min ∧ (list.expire cutoff).max = list.max ∧
        (list.expire cutoff).gaps.Sublist list.gaps ∧
        ∀ gap ∈ list.gaps, gap ∈ (list.expire cutoff).gaps ↔
          ∃ time, LastChanged start gap.bounds requests time ∧ cutoff ≤ time := by
  have spaced := (ofParts_eq_ok accepted).loosen (Set.subset_univ ∅)
  obtain ⟨list, reached, spacedList, -⟩ := exists_performAll spaced requests
  have times : ∀ gap ∈ list.gaps, ∀ time,
      LastChanged start gap.bounds requests time ↔ time = gap.modified :=
    fun gap hg time => lastChanged_iff spaced reached hg
  refine ⟨list, reached, ?_, ?_, ?_, ?_, ?_, times, ?_⟩
  · exact fun n now => ⟨rfl, spacedList.refreshes_add n now⟩
  · exact fun first last now next added =>
      ⟨spacedList.refreshes_addRange added, spacedList.addRange_tracked added⟩
  · exact fun first last now next added => spacedList.refreshes_tracked added
  · exact fun n settled now => add_of_settled settled now
  · exact fun first last range settled now => spacedList.addRange_of_settled range settled now
  · refine fun cutoff => ⟨rfl, rfl, List.filter_sublist, fun gap hg => ?_⟩
    simp [times gap hg, expire, hg]

/-- A number that is received twice changes nothing the second time, and the gap after it is given
up. -/
theorem refreshes_only_changed_twice :
    ofParts 5 10 [⟨5, 10, 0⟩] = .ok ⟨5, 10, [⟨5, 10, 0⟩]⟩ ∧
      ∃ list, performAll (some ⟨5, 10, [⟨5, 10, 0⟩]⟩)
          [.number 7 1, .range 20 22 2, .number 7 3] = some list ∧
        list.gaps = [⟨5, 6, 1⟩, ⟨8, 10, 1⟩, ⟨11, 19, 2⟩] ∧
        ⟨8, 10, 1⟩ ∉ (list.expire 2).gaps ∧ ⟨11, 19, 2⟩ ∈ (list.expire 2).gaps ∧
        ∀ now, list.add 7 now = list := by
  have accepted : ofParts 5 10 [⟨5, 10, 0⟩] = .ok ⟨5, 10, [⟨5, 10, 0⟩]⟩ :=
    ofParts_of_sorted (by decide) (List.pairwise_singleton _ _)
  obtain ⟨list, reached, -, -, -, settled, -, times, given⟩ :=
    refreshes_only_changed accepted [.number 7 1, .range 20 22 2, .number 7 3]
  obtain rfl := Option.some.inj reached
  have kept := (given 2).2.2.2
  refine ⟨accepted, _, rfl, rfl, ?_, ?_, settled 7 ?_⟩
  · rw [kept _ (by decide)]
    rintro ⟨time, changed, recent⟩
    rw [(times ⟨8, 10, 1⟩ (by decide) time).mp changed] at recent
    exact absurd recent (by decide)
  · exact (kept _ (by decide)).mpr ⟨2, (times ⟨11, 19, 2⟩ (by decide) 2).mpr rfl, by decide⟩
  · refine ⟨by decide, ?_⟩
    rintro ⟨gap, hg, contains⟩
    revert gap
    decide

end GapList

end ContinuousData

import ContinuousData.Gap.Directory
import ContinuousData.Proofs.Results
import Mathlib.Tactic.SplitIfs

/-! The files of a directory. Writing and renaming do what they should under names that the system
takes and where no directory stands in the way, unless there is a fault. Where writing fails, it
touches no other file. -/
namespace ContinuousData

/-- What is left of entries without those of a name. -/
theorem lookup_filter_ne {β : Type} (entries : List (String × β)) (name other : String) :
    (entries.filter (·.1 ≠ name)).lookup other =
      if other = name then none else entries.lookup other := by
  induction entries with
  | nil => simp
  | cons entry entries ih =>
    by_cases same : entry.1 = name
    · rw [List.filter_cons_of_neg (by simp [same]), ih]
      by_cases sought : other = name
      · rw [if_pos sought, if_pos sought]
      · have apart : (other == entry.1) = false := beq_eq_false_iff_ne.mpr (same ▸ sought)
        rw [if_neg sought, if_neg sought, List.lookup_cons, apart]
    · rw [List.filter_cons_of_pos (by simp [same]), List.lookup_cons, List.lookup_cons, ih]
      cases found : other == entry.1 with
      | true =>
        have apart : other ≠ name := (beq_iff_eq.mp found).symm ▸ same
        simp [apart]
      | false => rfl

/-- A name that is put in front of the others. -/
theorem lookup_replace {β : Type} (entries : List (String × β)) (name other : String) (value : β) :
    ((name, value) :: entries.filter (·.1 ≠ name)).lookup other =
      if other = name then some value else entries.lookup other := by
  rw [List.lookup_cons, lookup_filter_ne]
  by_cases sought : other = name
  · subst sought
    simp
  · rw [beq_eq_false_iff_ne.mpr sought, if_neg sought, if_neg sought]

namespace Directory

theorem get?_of_empty (dir : Directory) (nothing : dir.entries = []) (name : String) :
    dir.get? name = none := by
  rw [get?, nothing]
  rfl

theorem get?_erase (dir : Directory) (name other : String) :
    (dir.erase name).get? other = if other = name then none else dir.get? other :=
  lookup_filter_ne dir.entries name other

theorem get?_insert (dir : Directory) (name other : String) (entry : DirectoryEntry) :
    (dir.insert name entry).get? other = if other = name then some entry else dir.get? other :=
  lookup_replace dir.entries name other entry

section

variable {dir : Directory} {name target text : String}

theorem checkName_eq_ok (taken : dir.accepts name = true) : dir.checkName name = .ok () :=
  if_pos taken

theorem checkName_eq_error (refused : dir.accepts name ≠ true) :
    dir.checkName name = .error .fileNameTooLong :=
  if_neg refused

theorem read_missing (taken : dir.accepts name = true) (held : dir.get? name = none) :
    dir.read name = .error .noSuchFile := by
  rw [read, checkName_eq_ok taken, held]
  rfl

theorem read_file (taken : dir.accepts name = true) (held : dir.get? name = some (.file text)) :
    dir.read name = .ok text := by
  rw [read, checkName_eq_ok taken, held]
  rfl

theorem remove_missing (taken : dir.accepts name = true) (held : dir.get? name = none) :
    dir.remove name = .error .noSuchFile := by
  rw [remove, checkName_eq_ok taken, held]
  rfl

theorem remove_file (taken : dir.accepts name = true) (held : dir.get? name = some (.file text)) :
    dir.remove name = .ok (dir.erase name) := by
  rw [remove, checkName_eq_ok taken, held]
  rfl

theorem tryWrite_none (taken : dir.accepts name = true)
    (noDirectory : dir.get? name ≠ some .directory) (text : String) :
    dir.tryWrite none name text = (.ok (), dir.insert name (.file text)) := by
  have written : dir.write name text = .ok (dir.insert name (.file text)) := by
    rw [write, checkName_eq_ok taken, if_neg noDirectory]
    rfl
  rw [tryWrite, written]

theorem tryRename_none (taken : dir.accepts name = true)
    (held : dir.get? name = some (.file text)) (takenToo : dir.accepts target = true)
    (noDirectory : dir.get? target ≠ some .directory) :
    dir.tryRename none name target = .ok ((dir.erase name).insert target (.file text)) := by
  rw [tryRename, if_neg nofun, rename, read_file taken held, checkName_eq_ok takenToo]
  exact if_neg noDirectory

theorem tryWrite_refused (refused : dir.accepts name ≠ true) (fault : Option FileFault)
    (text : String) : dir.tryWrite fault name text = (.error .fileNameTooLong, dir) := by
  have failed : dir.write name text = .error .fileNameTooLong := by
    rw [write, checkName_eq_error refused]
    rfl
  rw [tryWrite, failed]

/-- Where writing succeeds, there was no fault. -/
theorem tryWrite_eq_ok {fault : Option FileFault} {written : Directory}
    (h : dir.tryWrite fault name text = (.ok (), written)) :
    dir.tryWrite none name text = (.ok (), written) := by
  unfold tryWrite at h ⊢
  cases outcome : dir.write name text with
  | error reason =>
    rw [outcome] at h
    exact nomatch (Prod.mk.inj h).1
  | ok next =>
    rw [outcome] at h
    rcases fault with _ | _ | _ | _
    · exact h
    · exact nomatch (Prod.mk.inj h).1
    · exact nomatch (Prod.mk.inj h).1
    · exact h

theorem tryRename_eq_ok {fault : Option FileFault} {renamed : Directory}
    (h : dir.tryRename fault name target = .ok renamed) :
    dir.tryRename none name target = .ok renamed := by
  unfold tryRename at h
  split_ifs at h
  exact h

theorem tryRename_refused (refused : dir.accepts target ≠ true) (fault : Option FileFault)
    (name : String) : ∃ reason, dir.tryRename fault name target = .error reason := by
  unfold tryRename
  split_ifs
  · exact ⟨_, rfl⟩
  · unfold rename
    rw [checkName_eq_error refused]
    cases dir.read name with
    | error reason => exact ⟨reason, rfl⟩
    | ok text => exact ⟨_, rfl⟩

end

/-- Two directories differ in what has one name at most. -/
structure AgreesBut (name : String) (before after : Directory) : Prop where
  path : after.path = before.path
  accepts : after.accepts = before.accepts
  others : ∀ other, other ≠ name → after.get? other = before.get? other
  noDirectory : before.get? name ≠ some .directory → after.get? name ≠ some .directory

theorem AgreesBut.refl (name : String) (dir : Directory) : AgreesBut name dir dir :=
  ⟨rfl, rfl, fun _ _ => rfl, id⟩

theorem agreesBut_insert (dir : Directory) (name text : String) :
    AgreesBut name dir (dir.insert name (.file text)) where
  path := rfl
  accepts := rfl
  others other apart := by rw [get?_insert, if_neg apart]
  noDirectory _ := by simp [get?_insert]

theorem eq_of_write {dir written : Directory} {name text : String}
    (h : dir.write name text = .ok written) : written = dir.insert name (.file text) := by
  unfold write at h
  obtain ⟨-, -, h⟩ := bind_eq_ok.mp h
  split_ifs at h
  · contradiction
  · exact (Except.ok.inj h).symm

/-- Whether or not it succeeds, writing touches no other file. -/
theorem agreesBut_of_tryWrite {dir left : Directory} {fault : Option FileFault}
    {name text : String} {outcome : Except Error Unit}
    (h : dir.tryWrite fault name text = (outcome, left)) : AgreesBut name dir left := by
  obtain rfl : (dir.tryWrite fault name text).2 = left := congrArg Prod.snd h
  unfold tryWrite
  cases possible : dir.write name text with
  | error reason => exact .refl name dir
  | ok written =>
    obtain rfl := eq_of_write possible
    rcases fault with _ | _ | count | _
    · exact agreesBut_insert dir name text
    · exact .refl name dir
    · exact agreesBut_insert dir name _
    · exact agreesBut_insert dir name text

end Directory

end ContinuousData

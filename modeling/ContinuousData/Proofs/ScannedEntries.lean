import ContinuousData.Proofs.IntegerTexts
import ContinuousData.Yaml.Token
import Mathlib.Data.List.Basic

/-! How the texts of mappings with plain scalars are scanned: entry by entry, with every key put in
front of its scalar, and with collections opened and closed by the columns of their entries. -/
namespace ContinuousData.Yaml

/-- No white space and no comment comes next. -/
def StartsToken (cs : List Char) : Prop :=
  ∀ c ∈ cs.head?, isGap c = false ∧ c ≠ '#'

theorem startsToken_cons {c : Char} {rest : List Char} (noGap : isGap c = false)
    (noComment : c ≠ '#') : StartsToken (c :: rest) := by
  rintro _ ⟨⟩
  exact ⟨noGap, noComment⟩

/-- Plain scalars without white space and colons that start with a letter or a digit, and negative
numbers. -/
structure IsWord (word : List Char) : Prop where
  start : ∃ c rest, word = c :: rest ∧
    (c.isAlphanum = true ∨ c = '-' ∧ ∃ d more, rest = d :: more ∧ d.isDigit = true)
  chars : ∀ c ∈ word, isGap c = false ∧ c ≠ ':'

namespace Position

/-- Further to the right on the same line. -/
def right (p : Position) (count : Nat) : Position :=
  ⟨p.index + count, p.line, p.column + count⟩

/-- At a column of the next line, from the end of this one. -/
def below (p : Position) (column : Nat) : Position :=
  ⟨p.index + 1 + column, p.line + 1, column⟩

end Position

theorem eq_false_of_isAlphanum {c : Char} (h : c.isAlphanum = true) {x : Char}
    (other : x.isAlphanum = false) : (c = x) = False := by
  refine eq_false ?_
  rintro rfl
  rw [h] at other
  contradiction

theorem isAlphanum_of_isDigit {c : Char} (digit : c.isDigit = true) : c.isAlphanum = true := by
  rw [Char.isAlphanum, digit, Bool.or_true]

theorem IsWord.ne_nil {word : List Char} (h : IsWord word) : word ≠ [] := by
  obtain ⟨c, rest, rfl, -⟩ := h.start
  exact List.cons_ne_nil c rest

theorem IsWord.startsToken {word : List Char} (h : IsWord word) (rest : List Char) :
    StartsToken (word ++ rest) := by
  obtain ⟨c, more, rfl, start⟩ := h.start
  rintro _ ⟨⟩
  refine ⟨(h.chars c List.mem_cons_self).1, ?_⟩
  rintro rfl
  rcases start with alphanumeric | ⟨minus, -⟩
  · exact absurd alphanumeric (by decide)
  · exact absurd minus (by decide)

theorem IsWord.not_atDocumentMark {word : List Char} (h : IsWord word) (rest : List Char)
    (position : Position) : (Cursor.mk (word ++ rest) position).atDocumentMark = false := by
  obtain ⟨c, more, rfl, alphanumeric | ⟨rfl, d, more, rfl, digit⟩⟩ := h.start
  · have other := @eq_false_of_isAlphanum c alphanumeric
    unfold Cursor.atDocumentMark
    split <;> simp_all +decide
  · have other := @eq_false_of_isAlphanum d (isAlphanum_of_isDigit digit)
    unfold Cursor.atDocumentMark
    split <;> simp_all +decide

namespace Scanner

theorem plainRun_append {word : List Char} (chars : ∀ c ∈ word, isGap c = false ∧ c ≠ ':')
    (rest : List Char) : plainRun false (word ++ rest) = (word ++ ·) <$> plainRun false rest := by
  induction word with
  | nil => simp
  | cons c word ih =>
    obtain ⟨⟨noGap, noColon⟩, others⟩ := List.forall_mem_cons.mp chars
    rw [List.cons_append, plainRun, ih others]
    simp [noGap, noColon, Function.comp_def]

theorem skip_append (word rest : List Char) (position : Position) :
    (Cursor.mk (word ++ rest) position).skip word.length = ⟨rest, position.right word.length⟩ := by
  rw [Cursor.skip, List.drop_left]
  rfl

theorem span_append (run rest : List Char) {p : Char → Bool} (inside : ∀ c ∈ run, p c = true)
    (stop : ∀ c ∈ rest.head?, p c = false) (position : Position) :
    (Cursor.mk (run ++ rest) position).span p = (run, ⟨rest, position.right run.length⟩) := by
  have none : rest.takeWhile p = [] := by
    cases rest with
    | nil => rfl
    | cons c rest => rw [List.takeWhile_cons, stop c rfl, if_neg Bool.false_ne_true]
  rw [Cursor.span, List.takeWhile_append_of_pos inside, none, List.append_nil, skip_append]

theorem skipFolding_of_startsToken {rest : List Char} (start : StartsToken rest)
    (position : Position) (fuel : Nat) (folding : Folding) :
    skipFolding (fuel + 1) ⟨rest, position⟩ folding = (⟨rest, position⟩, folding) := by
  cases rest with
  | nil => rfl
  | cons c rest =>
    obtain ⟨noGap, -⟩ := start c rfl
    simp only [isGap, Bool.or_eq_false_iff, decide_eq_false_iff_not] at noGap
    simp [skipFolding, noGap]

/-- A line end and the indentation of the next line. -/
theorem skipFolding_lineEnd {rest : List Char} (start : StartsToken rest) (position : Position)
    (column : Nat) :
    skipFolding (('\n' :: (List.replicate column ' ' ++ rest)).length + 1)
        ⟨'\n' :: (List.replicate column ' ' ++ rest), position⟩ {} =
      (⟨rest, position.below column⟩, ⟨[], 1⟩) := by
  cases column with
  | zero => exact skipFolding_of_startsToken start (position.below 0) rest.length ⟨[], 1⟩
  | succ column =>
    have inside : ∀ c ∈ List.replicate (column + 1) ' ', isSpace c = true :=
      fun c h => List.eq_of_mem_replicate h ▸ rfl
    have stop : ∀ c ∈ rest.head?, isSpace c = false :=
      fun c h => (Bool.or_eq_false_iff.mp (start c h).1).1
    have spaces := span_append (List.replicate (column + 1) ' ') rest inside stop (position.below 0)
    have next (fuel : Nat) : skipFolding (fuel + 3)
        ⟨'\n' :: (List.replicate (column + 1) ' ' ++ rest), position⟩ {} =
        skipFolding (fuel + 1) (((Cursor.mk (List.replicate (column + 1) ' ' ++ rest)
          (position.below 0)).span isSpace).2) ⟨[], 1⟩ := rfl
    have length : ('\n' :: (List.replicate (column + 1) ' ' ++ rest)).length + 1 =
        column + rest.length + 3 := by
      rw [List.length_cons, List.length_append, List.length_replicate]
      omega
    rw [length, next, spaces, skipFolding_of_startsToken start, List.length_replicate]
    simp [Position.right, Position.below]

/-- A word before a colon. -/
theorem plainScalar_key {word rest : List Char} (isWord : IsWord word)
    (gap : startsWithGap rest = true) (position : Position) (indent : Int) (fuel : Nat) :
    plainScalar false indent (fuel + 1) ⟨word ++ ':' :: rest, position⟩ {} =
      some (word, ⟨':' :: rest, position.right word.length⟩, false) := by
  have head : (word ++ ':' :: rest).head? ≠ some '#' :=
    fun same => (isWord.startsToken (':' :: rest) '#' same).2 rfl
  have run : plainRun false (word ++ ':' :: rest) = some word := by
    rw [plainRun_append isWord.chars]
    simp [plainRun, gap, isGap, isSpace]
  have colon : StartsToken (':' :: rest) := startsToken_cons rfl (by decide)
  rw [plainScalar, isWord.not_atDocumentMark, run]
  simp only [head, Bool.false_or, decide_false, Bool.false_eq_true, ↓reduceIte, isWord.ne_nil,
    Option.bind_eq_bind, Option.bind_some, skip_append, skipFolding_of_startsToken colon]
  rfl

/-- A word at the end of a line, when the next line is no further to the right. -/
theorem plainScalar_value {word rest : List Char} (isWord : IsWord word) (start : StartsToken rest)
    (position : Position) {indent : Int} {column : Nat} (left : column < indent) (fuel : Nat) :
    plainScalar false indent (fuel + 1)
        ⟨word ++ '\n' :: (List.replicate column ' ' ++ rest), position⟩ {} =
      some (word, ⟨rest, (position.right word.length).below column⟩, true) := by
  have head : (word ++ '\n' :: (List.replicate column ' ' ++ rest)).head? ≠ some '#' :=
    fun same => (isWord.startsToken _ '#' same).2 rfl
  have run : plainRun false (word ++ '\n' :: (List.replicate column ' ' ++ rest)) = some word := by
    rw [plainRun_append isWord.chars]
    simp [plainRun, isGap]
  have outside : ((position.right word.length).below column).column < indent := left
  rw [plainScalar, isWord.not_atDocumentMark, run]
  simp only [head, Bool.false_or, decide_false, Bool.false_eq_true, ↓reduceIte, isWord.ne_nil,
    Option.bind_eq_bind, Option.bind_some, skip_append, skipFolding_lineEnd start]
  simp [Folding.text, outside]

variable {s t : Scanner}

theorem skipGaps_of_startsToken (start : StartsToken s.cursor.rest) (fuel : Nat) :
    s.skipGaps (fuel + 1) = s := by
  obtain ⟨⟨rest, position⟩, tokens, indent, outer, flowKeys, blockKey, keyAllowed⟩ := s
  cases rest with
  | nil => simp [skipGaps, Cursor.span, Cursor.skip, Cursor.skipComment]
  | cons c rest =>
    obtain ⟨noGap, noComment⟩ := start c rfl
    simp only [isGap, isSpace, Bool.or_eq_false_iff, decide_eq_false_iff_not] at noGap
    simp [skipGaps, Cursor.span, Cursor.skip, Cursor.skipComment, noGap, noComment]

theorem dropStaleKeys_of_fresh (flow : s.flowKeys = [])
    (fresh : ∀ key ∈ s.blockKey, s.isStale key = false) : s.dropStaleKeys = some s := by
  obtain ⟨cursor, tokens, indent, outer, flowKeys, blockKey, keyAllowed⟩ := s
  obtain rfl : flowKeys = [] := flow
  cases blockKey with
  | none => rfl
  | some key => simp [dropStaleKeys, dropIfStale, fresh key rfl]

theorem closeBlocks_of_le {column : Int} (inside : s.indent ≤ column) :
    s.closeBlocks column = s := by
  obtain ⟨cursor, tokens, indent, outer, flowKeys, blockKey, keyAllowed⟩ := s
  unfold closeBlocks
  split_ifs
  · rfl
  · cases outer with
    | nil => rfl
    | cons next outer => rw [closeBlocks.go, if_neg (Int.not_lt.mpr inside)]

/-- At a token, where nothing is left to skip, to forget or to close. -/
structure Settled (s : Scanner) : Prop where
  skipGaps (fuel : Nat) : s.skipGaps (fuel + 1) = s
  dropStaleKeys : s.dropStaleKeys = some s
  closeBlocks : s.closeBlocks s.column = s

theorem settled_of_startsToken (start : StartsToken s.cursor.rest) (flow : s.flowKeys = [])
    (fresh : ∀ key ∈ s.blockKey, s.isStale key = false) (inside : s.indent ≤ s.column) :
    Settled s :=
  ⟨skipGaps_of_startsToken start, dropStaleKeys_of_fresh flow fresh, closeBlocks_of_le inside⟩

/-- What is skipped before a token makes no difference. -/
theorem step_congr (h : s.skipGaps (s.cursor.rest.length + 1) =
    t.skipGaps (t.cursor.rest.length + 1)) : s.step = t.step := by
  unfold step
  rw [h]

/-- Collections are closed before anything else at a token. -/
theorem step_closeBlocks (skipped : ∀ fuel, s.skipGaps (fuel + 1) = s)
    (fresh : s.dropStaleKeys = some s) (closed : s.closeBlocks s.column = t)
    (settled : Settled t) : s.step = t.step := by
  simp only [step, skipped, fresh, closed, settled.skipGaps, settled.dropStaleKeys,
    settled.closeBlocks, Option.bind_eq_bind, Option.bind_some]

/-- A word is a plain scalar. -/
theorem step_word {word rest : List Char} (isWord : IsWord word)
    (same : s.cursor.rest = word ++ rest) (flow : s.flowKeys = []) (noKey : s.blockKey = none)
    (inside : s.indent ≤ s.column) :
    s.step = do
      let saved ← s.saveKey
      let (text, cursor, crossed) ←
        plainScalar saved.inFlow (saved.indent + 1) ((word ++ rest).length + 1) saved.cursor {}
      return (saved.emitScalar text true cursor crossed, true) := by
  have start : StartsToken s.cursor.rest := same ▸ isWord.startsToken rest
  have mark : s.cursor.atDocumentMark = false := by
    obtain ⟨⟨_, position⟩, tokens, indent, outer, flowKeys, blockKey, keyAllowed⟩ := s
    obtain rfl : _ = word ++ rest := same
    exact isWord.not_atDocumentMark rest position
  have noFlow : s.inFlow = false := by
    rw [inFlow, flow]
    rfl
  obtain ⟨c, more, rfl, first⟩ := isWord.start
  have settled := settled_of_startsToken start flow (by simp [noKey]) inside
  simp only [step, settled.skipGaps, settled.dropStaleKeys, settled.closeBlocks, same,
    Option.bind_eq_bind, Option.bind_some]
  rcases first with alphanumeric | ⟨rfl, d, more, rfl, digit⟩
  · simp +decide [mark, noFlow, isGap, isSpace, eq_false_of_isAlphanum alphanumeric]
  · simp +decide [mark, noFlow, isGap, isSpace, startsWithGap,
      eq_false_of_isAlphanum (isAlphanum_of_isDigit digit)]

/-- A key that may start a mapping, up to its colon. -/
theorem step_key {word rest : List Char} (isWord : IsWord word) (gap : startsWithGap rest = true)
    {position : Position} {tokens : Array Token} {indent : Int} {outer : List Int}
    (inside : indent ≤ position.column) :
    step { cursor := ⟨word ++ ':' :: rest, position⟩, tokens, indent, outer } =
      some ({ cursor := ⟨':' :: rest, position.right word.length⟩
              tokens := tokens.push (.scalar word true), indent, outer
              blockKey := some ⟨tokens.size, position, indent == position.column⟩
              keyAllowed := false }, true) := by
  rw [step_word isWord rfl rfl rfl inside]
  simp [saveKey, removeKey, currentKey, setKey, inFlow, column, plainScalar_key isWord gap,
    emitScalar, emit]

theorem insertIdx_append (front back : List Token) (token : Token) :
    (front ++ back).insertIdx front.length token = front ++ token :: back := by
  induction front with
  | nil => exact List.insertIdx_zero
  | cons first front ih =>
    rw [List.cons_append, List.length_cons, List.insertIdx_succ_cons, ih, List.cons_append]

/-- The tokens in front of a key, of which the first opens a mapping if there is none yet. -/
def keyTokens (indent column : Int) : List Token :=
  if indent < column then [.blockMappingStart, .key] else [.key]

def outerOf (indent column : Int) (outer : List Int) : List Int :=
  if indent < column then indent :: outer else outer

theorem step_colon {rest : List Char} (same : s.cursor.rest = ':' :: rest)
    (gap : startsWithGap rest = true) (flow : s.flowKeys = [])
    (fresh : ∀ key ∈ s.blockKey, s.isStale key = false) (inside : s.indent ≤ s.column) :
    s.step = do return (← s.value, true) := by
  have start : StartsToken s.cursor.rest := same ▸ startsToken_cons rfl (by decide)
  have settled := settled_of_startsToken start flow fresh inside
  simp only [step, settled.skipGaps, settled.dropStaleKeys, settled.closeBlocks, same,
    Option.bind_eq_bind, Option.bind_some]
  simp [Cursor.atDocumentMark, same, gap]

/-- The colon behind a key puts the mark in front of it. -/
theorem value_of_key {start : Position} {tokens : List Token} {scalar : Token} {indent : Int}
    {outer : List Int} {required : Bool} (inside : indent ≤ start.column) (cursor : Cursor) :
    value { cursor, tokens := (tokens ++ [scalar]).toArray, indent, outer
            blockKey := some ⟨tokens.length, start, required⟩
            keyAllowed := false } =
      some { cursor := cursor.skip 1
             tokens := (tokens ++ keyTokens indent start.column ++ [scalar, .value]).toArray
             indent := start.column
             outer := outerOf indent start.column outer
             keyAllowed := false } := by
  simp only [value, currentKey, setKey, List.insertIdxIfInBounds_toArray, insertIdx_append]
  by_cases opens : indent < start.column
  · simp [openBlock, inFlow, Int.not_le.mpr opens, insertIdx_append, keyTokens, outerOf, opens,
      emit]
  · obtain rfl : indent = start.column := Int.le_antisymm inside (Int.not_lt.mp opens)
    simp [openBlock, inFlow, keyTokens, outerOf, emit]

/-- One scan after another, each of which takes a step for every character at most. -/
def Reaches (s t : Scanner) : Prop :=
  ∃ count, count + t.cursor.rest.length ≤ s.cursor.rest.length ∧
    ∀ fuel, run (fuel + count) s = run fuel t

theorem Reaches.trans {u : Scanner} (first : Reaches s t) (second : Reaches t u) :
    Reaches s u := by
  obtain ⟨count, short, runs⟩ := first
  obtain ⟨more, shorter, goesOn⟩ := second
  refine ⟨more + count, by omega, fun fuel => ?_⟩
  rw [← Nat.add_assoc, runs, goesOn]

/-- A scan to a place of which only the column matters. -/
def ReachesColumn (s : Scanner) (column : Nat) (t : Position → Scanner) : Prop :=
  ∃ position : Position, position.column = column ∧ Reaches s (t position)

theorem Reaches.column {column : Nat} {u : Position → Scanner} (first : Reaches s t)
    (second : ReachesColumn t column u) : ReachesColumn s column u := by
  obtain ⟨position, place, goesOn⟩ := second
  exact ⟨position, place, first.trans goesOn⟩

theorem ReachesColumn.trans {first second : Nat} {t u : Position → Scanner}
    (reaches : ReachesColumn s first t)
    (goesOn : ∀ position, position.column = first → ReachesColumn (t position) second u) :
    ReachesColumn s second u := by
  obtain ⟨position, place, reaches⟩ := reaches
  exact reaches.column (goesOn position place)

theorem reaches_of_step (step : s.step = some (t, true))
    (shorter : t.cursor.rest.length < s.cursor.rest.length) : Reaches s t := by
  refine ⟨1, by omega, fun fuel => ?_⟩
  rw [run, step]
  rfl

theorem reaches_of_step_eq (same : s.step = t.step)
    (short : t.cursor.rest.length ≤ s.cursor.rest.length) : Reaches s t := by
  refine ⟨0, by omega, fun fuel => ?_⟩
  cases fuel with
  | zero => rfl
  | succ fuel => rw [Nat.add_zero, run, run, same]

/-- A key with its colon. -/
theorem reaches_value {word rest : List Char} (isWord : IsWord word) (short : word.length ≤ 1024)
    (gap : startsWithGap rest = true) {position : Position} {place indent : Int}
    (column_eq : position.column = place) (inside : indent ≤ place) (tokens : List Token)
    (outer : List Int) :
    Reaches
      { cursor := ⟨word ++ ':' :: rest, position⟩, tokens := tokens.toArray, indent, outer }
      { cursor := ⟨rest, position.right (word.length + 1)⟩
        tokens := (tokens ++ keyTokens indent place ++
          [Token.scalar word true, Token.value]).toArray
        indent := place
        outer := outerOf indent place outer
        keyAllowed := false } := by
  subst column_eq
  have right : indent ≤ (position.right word.length).column := by
    simp only [Position.right]
    omega
  refine (reaches_of_step (step_key isWord gap inside) ?_).trans (reaches_of_step ?_ ?_)
  · have := isWord.ne_nil
    simp [List.length_pos_iff, this]
  · rw [step_colon rfl gap rfl (by simp [isStale, Position.right, short]) right]
    rw [List.push_toArray, List.size_toArray, value_of_key inside]
    rfl
  · exact Nat.lt_succ_self _

section

variable {position : Position} {tokens : Array Token} {indent : Int} {outer : List Int}
  {flowKeys : List (Option KeyStart)} {blockKey : Option KeyStart} {keyAllowed : Bool}

/-- A space before a token. -/
theorem reaches_of_space {rest : List Char} (start : StartsToken rest) :
    Reaches
      { cursor := ⟨' ' :: rest, position⟩
        tokens, indent, outer, flowKeys, blockKey, keyAllowed }
      { cursor := ⟨rest, position.right 1⟩
        tokens, indent, outer, flowKeys, blockKey, keyAllowed } := by
  refine reaches_of_step_eq (step_congr ?_) (Nat.le_succ rest.length)
  rw [skipGaps_of_startsToken (s := ⟨⟨rest, position.right 1⟩, _, _, _, _, _, _⟩) start]
  cases rest with
  | nil => simp [skipGaps, Cursor.span, Cursor.skip, Cursor.skipComment, Position.right]
  | cons c rest =>
    obtain ⟨noGap, noComment⟩ := start c rfl
    simp only [isGap, isSpace, Bool.or_eq_false_iff, decide_eq_false_iff_not] at noGap
    simp [skipGaps, Cursor.span, Cursor.skip, Cursor.skipComment, Position.right, noGap, noComment]

/-- A line end before a token allows it to be a key. -/
theorem reaches_of_lineEnd {rest : List Char} :
    Reaches { cursor := ⟨'\n' :: rest, position⟩, tokens, indent, outer, blockKey, keyAllowed }
      { cursor := ⟨rest, position.below 0⟩, tokens, indent, outer, blockKey } := by
  have next : skipGaps
        { cursor := ⟨'\n' :: rest, position⟩, tokens, indent, outer, blockKey, keyAllowed }
        (rest.length + 2) =
      skipGaps { cursor := ⟨rest, position.below 0⟩, tokens, indent, outer, blockKey }
        (rest.length + 1) := by
    rw [skipGaps]
    simp [Cursor.span, Cursor.skip, Cursor.skipComment, Cursor.skipLineEnd, Position.below, inFlow]
  exact reaches_of_step_eq (step_congr next) (Nat.le_succ rest.length)

end

/-- A value at the end of its line. -/
theorem step_value {word rest : List Char} (isWord : IsWord word) (start : StartsToken rest)
    (tokens : Array Token) (outer : List Int) {position : Position} {indent : Int}
    (inside : indent ≤ position.column) {column : Nat} (left : column ≤ indent) :
    step { cursor := ⟨word ++ '\n' :: (List.replicate column ' ' ++ rest), position⟩
           tokens, indent, outer, keyAllowed := false } =
      some ({ cursor := ⟨rest, (position.right word.length).below column⟩
              tokens := tokens.push (.scalar word true), indent, outer }, true) := by
  rw [step_word isWord rfl rfl rfl inside]
  have further : (column : Int) < indent + 1 := Int.lt_add_one_of_le left
  simp [saveKey, inFlow, plainScalar_value isWord start position further, emitScalar, emit]

/-- An entry of a mapping on a line of its own, up to a column of the next line. -/
def entryText (word value : List Char) (column : Nat) (rest : List Char) : List Char :=
  word ++ ':' :: ' ' :: (value ++ '\n' :: (List.replicate column ' ' ++ rest))

/-- A whole entry, when the next line is no further to the right. -/
theorem reaches_entry {word value rest : List Char} (isWord : IsWord word)
    (short : word.length ≤ 1024) (isValue : IsWord value) (start : StartsToken rest)
    {position : Position} {place indent : Int} (column_eq : position.column = place)
    (inside : indent ≤ place) {column : Nat} (left : column ≤ place) (tokens : List Token)
    (outer : List Int) :
    ReachesColumn
      { cursor := ⟨entryText word value column rest, position⟩
        tokens := tokens.toArray, indent, outer }
      column fun last =>
      { cursor := ⟨rest, last⟩
        tokens := (tokens ++ keyTokens indent place ++
          [Token.scalar word true, Token.value, Token.scalar value true]).toArray
        indent := place
        outer := outerOf indent place outer } := by
  subst column_eq
  have further : (position.column : Int) ≤
      ((position.right (word.length + 1)).right 1).column := by
    simp only [Position.right]
    omega
  have scanned := step_value isValue start
    (tokens ++ keyTokens indent position.column ++ [Token.scalar word true, Token.value]).toArray
    (outerOf indent position.column outer) further left
  rw [List.push_toArray, List.append_assoc _ [_, _] [_]] at scanned
  refine ⟨(((position.right (word.length + 1)).right 1).right value.length).below column, rfl, ?_⟩
  refine (reaches_value isWord short rfl rfl inside tokens outer).trans ?_
  refine (reaches_of_space (isValue.startsToken _)).trans (reaches_of_step scanned ?_)
  simp only [List.length_append, List.length_cons]
  omega

section

variable {rest : List Char} {position : Position} {tokens : List Token} {indent : Int}
  {outer : List Int}

/-- The hyphen in front of an item of a sequence at the column of its parent. -/
theorem reaches_item (column : indent = position.column) :
    Reaches { cursor := ⟨'-' :: ' ' :: rest, position⟩, tokens := tokens.toArray, indent, outer }
      { cursor := ⟨' ' :: rest, position.right 1⟩
        tokens := (tokens ++ [Token.blockEntry]).toArray, indent, outer } := by
  have start : StartsToken ('-' :: ' ' :: rest) := startsToken_cons rfl (by decide)
  have settled : Settled
      { cursor := ⟨'-' :: ' ' :: rest, position⟩, tokens := tokens.toArray, indent, outer } :=
    settled_of_startsToken start rfl nofun (Int.le_of_eq column)
  refine reaches_of_step ?_ (Nat.lt_succ_self _)
  simp only [step, settled.skipGaps, settled.dropStaleKeys, settled.closeBlocks,
    Option.bind_eq_bind, Option.bind_some]
  simp [Cursor.atDocumentMark, startsWithGap, isGap, isSpace, blockEntry, openBlock, inFlow,
    Scanner.column, column, removeKey, currentKey, emit, Cursor.skip, Position.right]

/-- A line further to the left closes the innermost collection. -/
theorem reaches_closed (tokens : List Token) (outer : List Int) (start : StartsToken rest)
    {next : Int} (column : next = position.column) (inside : next < indent) :
    Reaches
      { cursor := ⟨rest, position⟩, tokens := tokens.toArray, indent, outer := next :: outer }
      { cursor := ⟨rest, position⟩, tokens := (tokens ++ [Token.blockEnd]).toArray
        indent := next, outer } := by
  have closed : closeBlocks
      { cursor := ⟨rest, position⟩, tokens := tokens.toArray, indent, outer := next :: outer }
      position.column =
      { cursor := ⟨rest, position⟩, tokens := (tokens ++ [Token.blockEnd]).toArray
        indent := next, outer } := by
    subst column
    unfold closeBlocks
    rw [if_neg (by simp [inFlow])]
    cases outer with
    | nil => simp [closeBlocks.go, inside]
    | cons further outer => simp [closeBlocks.go, inside]
  have step_eq := step_closeBlocks (skipGaps_of_startsToken start)
    (dropStaleKeys_of_fresh rfl (by simp)) closed
    (settled_of_startsToken start rfl nofun (Int.le_of_eq column))
  exact reaches_of_step_eq step_eq (Nat.le_refl _)

/-- The end of a text closes its mapping. -/
theorem step_end :
    step { cursor := ⟨[], position⟩, tokens := tokens.toArray, indent := 0, outer := [-1] } =
      some ({ cursor := ⟨[], position⟩
              tokens := (tokens ++ [Token.blockEnd]).toArray }, false) := by
  have inside : (0 : Int) ≤ position.column := Int.natCast_nonneg _
  have settled : Settled
      { cursor := ⟨[], position⟩, tokens := tokens.toArray, indent := 0, outer := [-1] } :=
    settled_of_startsToken nofun rfl nofun inside
  simp only [step, settled.skipGaps, settled.dropStaleKeys, settled.closeBlocks,
    Option.bind_eq_bind, Option.bind_some]
  simp [closeBlocks, inFlow, closeBlocks.go, removeKey, currentKey]

/-- An empty sequence behind a key. -/
theorem reaches_empty (inside : indent ≤ position.column) :
    Reaches
      { cursor := ⟨'[' :: ']' :: '\n' :: rest, position⟩, tokens := tokens.toArray, indent, outer
        keyAllowed := false }
      { cursor := ⟨rest, (position.right 2).below 0⟩
        tokens := (tokens ++ [Token.flowSequenceStart, Token.flowSequenceEnd]).toArray
        indent, outer } := by
  have opening : step
      { cursor := ⟨'[' :: ']' :: '\n' :: rest, position⟩, tokens := tokens.toArray, indent, outer
        keyAllowed := false } =
      some ({ cursor := ⟨']' :: '\n' :: rest, position.right 1⟩
              tokens := (tokens ++ [Token.flowSequenceStart]).toArray, indent, outer
              flowKeys := [none] }, true) := by
    have settled : Settled
        { cursor := ⟨'[' :: ']' :: '\n' :: rest, position⟩, tokens := tokens.toArray, indent, outer
          keyAllowed := false } :=
      settled_of_startsToken (startsToken_cons rfl (by decide)) rfl nofun inside
    simp only [step, settled.skipGaps, settled.dropStaleKeys, settled.closeBlocks,
      Option.bind_eq_bind, Option.bind_some]
    simp [Cursor.atDocumentMark, openFlow, saveKey, emit, Cursor.skip, Position.right]
  have closing : step
      { cursor := ⟨']' :: '\n' :: rest, position.right 1⟩
        tokens := (tokens ++ [Token.flowSequenceStart]).toArray, indent, outer
        flowKeys := [none] } =
      some ({ cursor := ⟨'\n' :: rest, position.right 2⟩
              tokens := (tokens ++ [Token.flowSequenceStart, Token.flowSequenceEnd]).toArray
              indent, outer, keyAllowed := false }, true) := by
    have settled : Settled
        { cursor := ⟨']' :: '\n' :: rest, position.right 1⟩
          tokens := (tokens ++ [Token.flowSequenceStart]).toArray, indent, outer
          flowKeys := [none] } :=
      ⟨skipGaps_of_startsToken (startsToken_cons rfl (by decide)), rfl, rfl⟩
    simp only [step, settled.skipGaps, settled.dropStaleKeys, settled.closeBlocks,
      Option.bind_eq_bind, Option.bind_some]
    simp [Cursor.atDocumentMark, closeFlow, removeKey, currentKey, emit, Cursor.skip,
      Position.right]
  refine (reaches_of_step opening (Nat.lt_succ_self _)).trans ?_
  refine (reaches_of_step closing (Nat.lt_succ_self _)).trans ?_
  exact reaches_of_lineEnd

end

/-- A text with fuel for each character is scanned to its end. -/
theorem run_of_reaches {last : Scanner} (reaches : Reaches s t)
    (finish : t.step = some (last, false)) :
    run (s.cursor.rest.length + 2) s = some last.tokens := by
  obtain ⟨count, short, runs⟩ := reaches
  obtain ⟨fuel, enough⟩ : ∃ fuel, s.cursor.rest.length + 2 = fuel + 1 + count :=
    ⟨s.cursor.rest.length + 1 - count, by omega⟩
  rw [enough, runs, run, finish]
  rfl

end Scanner

open Scanner

/-- Line ends and what can be seen in ASCII. -/
def IsPrintable (c : Char) : Prop :=
  c = '\n' ∨ 0x20 ≤ c.toNat ∧ c.toNat ≤ 0x7E

instance (c : Char) : Decidable (IsPrintable c) :=
  inferInstanceAs (Decidable (_ ∨ _))

theorem isPrintable_of_isDigit {c : Char} (digit : c.isDigit = true) : IsPrintable c := by
  have small := OrdinalDate.toNat_of_isDigit digit
  exact .inr (by omega)

theorem unifyLineEnds_of_printable {cs : List Char} (printable : ∀ c ∈ cs, IsPrintable c) :
    unifyLineEnds cs = cs := by
  induction cs with
  | nil => rfl
  | cons c cs ih =>
    obtain ⟨first, others⟩ := List.forall_mem_cons.mp printable
    have noReturn : c ≠ '\r' := by
      rintro rfl
      exact absurd first (by decide)
    have plain : ¬ (c = '\r' || c.toNat = 0x85 || c.toNat = 0x2028 || c.toNat = 0x2029) = true := by
      rcases first with rfl | ⟨-, small⟩
      · decide
      · simp [noReturn]
        omega
    rw [unifyLineEnds, if_neg plain, ih others]
    exact fun _ carriageReturn _ => noReturn carriageReturn

theorem isAllowed_of_printable {c : Char} (printable : IsPrintable c) : isAllowed c = true := by
  rcases printable with rfl | inside
  · decide
  · simp [isAllowed, inside]

/-- A printable text is scanned as it is. -/
theorem tokens?_of_printable {text : String} (printable : ∀ c ∈ text.toList, IsPrintable c) :
    tokens? text = (run (text.toList.length + 2) { cursor := ⟨text.toList, {}⟩ }).map
      Array.toList := by
  have noMark : text.toList.head?.any (·.toNat == 0xFEFF) = false := by
    cases first : text.toList.head? with
    | none => rfl
    | some c =>
      rcases printable c (List.mem_of_mem_head? first) with rfl | ⟨-, small⟩
      · rfl
      · simp
        omega
  have allowed : text.toList.all isAllowed = true :=
    List.all_eq_true.mpr fun c hc => isAllowed_of_printable (printable c hc)
  simp only [tokens?, noMark, Bool.false_eq_true, ↓reduceIte, allowed,
    unifyLineEnds_of_printable printable]
  cases run (text.toList.length + 2) { cursor := ⟨text.toList, {}⟩ } <;> rfl

theorem printable_entryText {word value rest : List Char} (column : Nat)
    (hw : ∀ c ∈ word, IsPrintable c) (hv : ∀ c ∈ value, IsPrintable c)
    (hr : ∀ c ∈ rest, IsPrintable c) :
    ∀ c ∈ entryText word value column rest, IsPrintable c := by
  have spaces : ∀ c ∈ List.replicate column ' ', IsPrintable c := by
    intro c hc
    rw [List.eq_of_mem_replicate hc]
    decide
  unfold entryText
  simp only [List.forall_mem_append, List.forall_mem_cons]
  exact ⟨hw, by decide, by decide, hv, by decide, spaces, hr⟩

end ContinuousData.Yaml

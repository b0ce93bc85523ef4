import ContinuousData.Gap.Record
import ContinuousData.Proofs.ScannedEntries

/-! The text of a gap state is read back as the state. Its tokens are those of its entries, however
many gaps there are, and the entries are read one by one. -/
namespace ContinuousData

namespace Yaml.NodeReader

variable {fuel : Nat} {rest : List Token} {anchors : List (List Char × Node)}

/-- A plain scalar where no end is next. -/
theorem nodeUnless_scalar {ends : List Token} {text : List Char} {plain : Bool}
    (goesOn : .scalar text plain ∉ ends) (block indentless : Bool) :
    (nodeUnless (fuel + 3) ends block indentless).run ⟨.scalar text plain :: rest, anchors⟩ =
      some (.scalar text plain, ⟨rest, anchors⟩) := by
  simp [nodeUnless, nextIsOneOf, node, content, peek, properties, advance, goesOn]

theorem blockEntries_end :
    (blockEntries (fuel + 1)).run ⟨.blockEnd :: rest, anchors⟩ = some ([], ⟨rest, anchors⟩) := by
  simp [blockEntries, accept, peek, advance]

/-- An entry whose value is read as a node. -/
theorem blockEntries_cons {key : List Char} {plain : Bool} {value : Node} {tokens : List Token}
    (reads : (nodeUnless (fuel + 3) [.key, .value, .blockEnd] true true).run ⟨tokens, anchors⟩ =
      some (value, ⟨rest, anchors⟩)) :
    (blockEntries (fuel + 4)).run ⟨.key :: .scalar key plain :: .value :: tokens, anchors⟩ =
      ((blockEntries (fuel + 3)).run ⟨rest, anchors⟩).map fun (entries, last) =>
        ((.scalar key plain, value) :: entries, last) := by
  have name : (nodeUnless (fuel + 3) [.key, .value, .blockEnd] true true).run
      ⟨.scalar key plain :: .value :: tokens, anchors⟩ =
        some (.scalar key plain, ⟨.value :: tokens, anchors⟩) :=
    nodeUnless_scalar (by simp) true true
  rw [blockEntries]
  simp [accept, expect, peek, advance, name, reads]

theorem nodeUnless_mapping {ends : List Token} (goesOn : .blockMappingStart ∉ ends)
    (indentless : Bool) {entries : List (Node × Node)} {tokens : List Token}
    (reads : (blockEntries fuel).run ⟨tokens, anchors⟩ = some (entries, ⟨rest, anchors⟩)) :
    (nodeUnless (fuel + 3) ends true indentless).run ⟨.blockMappingStart :: tokens, anchors⟩ =
      some (.mapping entries, ⟨rest, anchors⟩) := by
  simp [nodeUnless, nextIsOneOf, node, content, peek, properties, advance, goesOn, reads]

theorem nodeUnless_emptySequence {ends : List Token} (goesOn : .flowSequenceStart ∉ ends)
    (block indentless : Bool) :
    (nodeUnless (fuel + 4) ends block indentless).run
        ⟨.flowSequenceStart :: .flowSequenceEnd :: rest, anchors⟩ =
      some (.sequence [], ⟨rest, anchors⟩) := by
  simp [nodeUnless, nextIsOneOf, node, content, peek, properties, advance, goesOn, flowItems,
    accept]

theorem nodeUnless_items {ends : List Token} (goesOn : .blockEntry ∉ ends) (block : Bool)
    {items : List Node} {tokens : List Token}
    (reads : (indentlessItems fuel).run ⟨.blockEntry :: tokens, anchors⟩ =
      some (items, ⟨rest, anchors⟩)) :
    (nodeUnless (fuel + 3) ends block true).run ⟨.blockEntry :: tokens, anchors⟩ =
      some (.sequence items, ⟨rest, anchors⟩) := by
  simp [nodeUnless, nextIsOneOf, node, content, peek, properties, goesOn, reads]

/-- The items of a sequence at its parent's column, up to the parent's end. -/
theorem indentlessItems_flatMap {α : Type} (tokens : α → List Token) (item : α → Node)
    {least : Nat}
    (reads : ∀ a fuel rest, (nodeUnless (fuel + least) [.blockEntry, .key, .value, .blockEnd] true
      false).run ⟨tokens a ++ rest, anchors⟩ = some (item a, ⟨rest, anchors⟩)) (as : List α)
    (fuel : Nat) :
    (indentlessItems (fuel + least + as.length + 1)).run
        ⟨as.flatMap (fun a => .blockEntry :: tokens a) ++ .blockEnd :: rest, anchors⟩ =
      some (as.map item, ⟨.blockEnd :: rest, anchors⟩) := by
  induction as with
  | nil => simp [indentlessItems, accept, peek]
  | cons a as ih =>
    have first := reads a (fuel + as.length + 1)
      (as.flatMap (fun a => .blockEntry :: tokens a) ++ .blockEnd :: rest)
    have enough : fuel + as.length + 1 + least = fuel + least + as.length + 1 := by omega
    rw [enough] at first
    rw [List.length_cons, ← Nat.add_assoc, indentlessItems]
    simp [accept, peek, advance, first, ih]

/-- A document that is a mapping and nothing else. -/
theorem document_mapping {entries : List (Node × Node)} {tokens : List Token}
    (reads : (blockEntries fuel).run ⟨tokens, []⟩ = some (entries, ⟨[], []⟩)) :
    (document (fuel + 2)).run ⟨.blockMappingStart :: tokens, []⟩ =
      some (.mapping entries, ⟨[], []⟩) := by
  simp [document, nextIsOneOf, node, content, peek, properties, advance, reads, skipAll, accept]

end Yaml.NodeReader

open Yaml Scanner

theorem isWord_of_digits {c : Char} {rest : List Char}
    (digits : ∀ d ∈ c :: rest, d.isDigit = true) : IsWord (c :: rest) where
  start := ⟨c, rest, rfl, .inl (isAlphanum_of_isDigit (digits c List.mem_cons_self))⟩
  chars := by
    intro d hd
    have other := @eq_false_of_isAlphanum d (isAlphanum_of_isDigit (digits d hd))
    simp +decide [isGap, isSpace, other]

theorem isWord_decimal (n : Nat) : IsWord (decimal n) := by
  obtain ⟨c, rest, text, -⟩ := exists_decimal_isDigit n
  have digits := fun d (h : d ∈ decimal n) => isDigit_of_mem_decimal h
  rw [text] at digits ⊢
  exact isWord_of_digits digits

theorem isWord_unsigned (n : UInt64) : IsWord (toString n).toList := by
  rw [toList_unsigned]
  exact isWord_decimal n.toNat

theorem isWord_signed (i : Int64) : IsWord (toString i).toList := by
  obtain ⟨n, ⟨-, text⟩ | ⟨-, text⟩⟩ := toList_signed i
  · rw [text]
    exact isWord_decimal n
  · obtain ⟨c, rest, digits, digit⟩ := exists_decimal_isDigit n
    rw [text]
    constructor
    · exact ⟨'-', decimal n, rfl, .inr ⟨rfl, c, rest, digits, digit⟩⟩
    · exact List.forall_mem_cons.mpr ⟨by decide, (isWord_decimal n).chars⟩

-- The checks are Boolean: a decision of the quantified facts could find the instance that goes
-- through all characters there are.
theorem isWord_of_letters {word : List Char} (start : word.head?.any Char.isAlphanum = true)
    (chars : word.all (fun c => !isGap c && c != ':') = true) : IsWord word where
  start := by
    obtain ⟨c, first, alphanumeric⟩ := (Option.any_eq_true _ _).mp start
    obtain ⟨rest, rfl⟩ := List.head?_eq_some_iff.mp first
    exact ⟨c, rest, rfl, .inl alphanumeric⟩
  chars := by simpa using chars

theorem toString_string (s : String) : toString s = s := rfl

/-- The tokens of an entry but for the start of its mapping. -/
def entryTokens (key value : String) : List Token :=
  [.key, .scalar key.toList true, .value, .scalar value.toList true]

namespace GapRecord

def tokens (record : GapRecord) : List Token :=
  [.blockEntry, .blockMappingStart] ++ entryTokens "start" (toString record.first) ++
    entryTokens "end" (toString record.last) ++
    entryTokens "modified_millis" (toString record.modifiedMillis) ++ [.blockEnd]

theorem write_append (record : GapRecord) (rest : List Char) :
    record.write.toList ++ rest =
      '-' :: ' ' :: entryText "start".toList (toString record.first).toList 2
        (entryText "end".toList (toString record.last).toList 2
          (entryText "modified_millis".toList (toString record.modifiedMillis).toList 0 rest)) := by
  simp [write, entryText, List.replicate, toString_string]

/-- One record, from the start of its line to that of the next one. -/
theorem reaches_tokens (record : GapRecord) {rest : List Char} (start : StartsToken rest)
    {position : Position} (column : position.column = 0) (before : List Token) :
    ReachesColumn
      { cursor := ⟨record.write.toList ++ rest, position⟩, tokens := before.toArray, indent := 0
        outer := [-1] }
      0 fun last =>
      { cursor := ⟨rest, last⟩, tokens := (before ++ record.tokens).toArray, indent := 0
        outer := [-1] } := by
  have first : IsWord "start".toList := isWord_of_letters (by decide) (by decide)
  have second : IsWord "end".toList := isWord_of_letters (by decide) (by decide)
  have third : IsWord "modified_millis".toList := isWord_of_letters (by decide) (by decide)
  have place : ((position.right 1).right 1).column = (2 : Int) := by simp [Position.right, column]
  rw [write_append]
  refine (reaches_item (by simp [column])).column ?_
  refine (reaches_of_space (first.startsToken _)).column ?_
  refine (reaches_entry first (by decide) (isWord_unsigned record.first) (second.startsToken _)
    place (by decide) (by decide) _ _).trans fun p hp => ?_
  refine (reaches_entry second (by decide) (isWord_unsigned record.last) (third.startsToken _)
    (congrArg Nat.cast hp) (by decide) (by decide) _ _).trans fun p hp => ?_
  refine (reaches_entry third (by decide) (isWord_signed record.modifiedMillis) start
    (congrArg Nat.cast hp) (by decide) (by decide) _ _).trans fun p hp => ⟨p, hp, ?_⟩
  have lineStart : (0 : Int) = p.column := (congrArg Nat.cast hp).symm
  have inside : (0 : Int) < 2 := by decide
  have closed := reaches_closed (before ++ record.tokens.dropLast) [-1] start lineStart inside
  simpa [tokens, entryTokens, keyTokens, outerOf] using closed

theorem startsToken_write (records : List GapRecord) :
    StartsToken (records.flatMap (·.write.toList)) := by
  cases records with
  | nil => exact nofun
  | cons record records =>
    rw [List.flatMap_cons, write_append]
    exact startsToken_cons rfl (by decide)

/-- All records, one after the other. -/
theorem reaches_all (records : List GapRecord) {position : Position}
    (column : position.column = 0) (before : List Token) :
    ReachesColumn
      { cursor := ⟨records.flatMap (·.write.toList), position⟩, tokens := before.toArray
        indent := 0, outer := [-1] }
      0 fun last =>
      { cursor := ⟨[], last⟩, tokens := (before ++ records.flatMap tokens).toArray, indent := 0
        outer := [-1] } := by
  induction records generalizing position before with
  | nil =>
    simp only [List.flatMap_nil, List.append_nil]
    exact ⟨position, column, 0, Nat.le_refl _, fun fuel => rfl⟩
  | cons record records ih =>
    rw [List.flatMap_cons, List.flatMap_cons, ← List.append_assoc]
    exact (record.reaches_tokens (startsToken_write records) column before).trans
      fun p hp => ih hp _

end GapRecord

namespace GapState

/-- The value of the entry for the gaps. -/
def gapsText (records : List GapRecord) : List Char :=
  if records = [] then [' ', '[', ']', '\n'] else '\n' :: records.flatMap (·.write.toList)

def gapsTokens (records : List GapRecord) : List Token :=
  if records = [] then [.flowSequenceStart, .flowSequenceEnd]
  else records.flatMap GapRecord.tokens

/-- The tokens of a state but for the end. -/
def openTokens (state : GapState) : List Token :=
  .blockMappingStart :: entryTokens "min" (toString state.min) ++
    entryTokens "max" (toString state.max) ++ [.key, .scalar "gaps".toList true, .value] ++
    gapsTokens state.gaps

theorem toList_write (state : GapState) :
    state.write.toList =
      entryText "min".toList (toString state.min).toList 0
        (entryText "max".toList (toString state.max).toList 0
          ("gaps".toList ++ ':' :: gapsText state.gaps)) := by
  unfold write gapsText
  split
  · simp [entryText, toString_string]
  · simp [entryText, toString_string, List.flatMap_map]

theorem reaches_gaps (records : List GapRecord) (position : Position) (before : List Token) :
    ReachesColumn
      { cursor := ⟨gapsText records, position⟩, tokens := before.toArray, indent := 0
        outer := [-1], keyAllowed := false }
      0 fun last =>
      { cursor := ⟨[], last⟩, tokens := (before ++ gapsTokens records).toArray, indent := 0
        outer := [-1] } := by
  unfold gapsText gapsTokens
  split
  · refine (reaches_of_space (startsToken_cons rfl (by decide))).column ?_
    exact ⟨((position.right 1).right 2).below 0, rfl, reaches_empty (Int.natCast_nonneg _)⟩
  · exact reaches_of_lineEnd.column (GapRecord.reaches_all records rfl before)

/-- The text of a state up to its end. -/
theorem reaches_end (state : GapState) :
    ReachesColumn { cursor := ⟨state.write.toList, {}⟩ } 0 fun last =>
      { cursor := ⟨[], last⟩, tokens := state.openTokens.toArray, indent := 0, outer := [-1] } := by
  have first : IsWord "min".toList := isWord_of_letters (by decide) (by decide)
  have second : IsWord "max".toList := isWord_of_letters (by decide) (by decide)
  have third : IsWord "gaps".toList := isWord_of_letters (by decide) (by decide)
  have gap : startsWithGap (gapsText state.gaps) = true := by
    unfold gapsText
    split <;> rfl
  have lineStart : (({} : Position).column : Int) = 0 := rfl
  rw [toList_write]
  refine (reaches_entry first (by decide) (isWord_unsigned state.min) (second.startsToken _)
    lineStart (by decide) (by decide) [] []).trans fun p hp => ?_
  refine (reaches_entry second (by decide) (isWord_unsigned state.max) (third.startsToken _)
    (congrArg Nat.cast hp) (by decide) (by decide) _ _).trans fun p hp => ?_
  refine (reaches_value third (by decide) gap (congrArg Nat.cast hp) (by decide) _ _).column ?_
  have last := reaches_gaps state.gaps (p.right ("gaps".toList.length + 1))
    (.blockMappingStart :: entryTokens "min" (toString state.min) ++
      entryTokens "max" (toString state.max) ++ [.key, .scalar "gaps".toList true, .value])
  simpa [openTokens, entryTokens, keyTokens, outerOf] using last

end GapState

theorem printable_of_all {text : List Char}
    (all : text.all (fun c => IsPrintable c) = true) : ∀ c ∈ text, IsPrintable c := by
  simpa using all

theorem printable_unsigned (n : UInt64) : ∀ c ∈ (toString n).toList, IsPrintable c := by
  rw [toList_unsigned]
  exact fun c hc => isPrintable_of_isDigit (isDigit_of_mem_decimal hc)

theorem printable_signed (i : Int64) : ∀ c ∈ (toString i).toList, IsPrintable c := by
  obtain ⟨n, ⟨-, text⟩ | ⟨-, text⟩⟩ := toList_signed i
  · rw [text]
    exact fun c hc => isPrintable_of_isDigit (isDigit_of_mem_decimal hc)
  · rw [text]
    exact List.forall_mem_cons.mpr
      ⟨by decide, fun c hc => isPrintable_of_isDigit (isDigit_of_mem_decimal hc)⟩

theorem GapRecord.printable_write (record : GapRecord) :
    ∀ c ∈ record.write.toList, IsPrintable c := by
  have text := record.write_append []
  rw [List.append_nil] at text
  rw [text]
  simp only [List.forall_mem_cons]
  refine ⟨by decide, by decide, ?_⟩
  refine printable_entryText 2 (printable_of_all rfl) (printable_unsigned record.first) ?_
  refine printable_entryText 2 (printable_of_all rfl) (printable_unsigned record.last) ?_
  exact printable_entryText 0 (printable_of_all rfl) (printable_signed record.modifiedMillis) nofun

namespace GapState

theorem printable_write (state : GapState) : ∀ c ∈ state.write.toList, IsPrintable c := by
  have records : ∀ c ∈ gapsText state.gaps, IsPrintable c := by
    unfold gapsText
    split
    · exact printable_of_all rfl
    · refine List.forall_mem_cons.mpr ⟨by decide, fun c hc => ?_⟩
      obtain ⟨record, -, hc⟩ := List.mem_flatMap.mp hc
      exact record.printable_write c hc
  rw [toList_write]
  refine printable_entryText 0 (printable_of_all rfl) (printable_unsigned state.min) ?_
  refine printable_entryText 0 (printable_of_all rfl) (printable_unsigned state.max) ?_
  have colon : ∀ c ∈ ':' :: gapsText state.gaps, IsPrintable c :=
    List.forall_mem_cons.mpr ⟨by decide, records⟩
  exact List.forall_mem_append.mpr ⟨printable_of_all rfl, colon⟩

/-- The tokens of a state's text. -/
theorem tokens?_write (state : GapState) :
    tokens? state.write = some (state.openTokens ++ [.blockEnd]) := by
  obtain ⟨position, -, reaches⟩ := state.reaches_end
  rw [tokens?_of_printable state.printable_write, run_of_reaches reaches step_end]
  simp

/-- The node of an entry with a plain scalar. -/
def entryNode (key value : String) : Yaml.Node × Yaml.Node :=
  (.scalar key.toList true, .scalar value.toList true)

/-- The node of a record's text. -/
def recordNode (record : GapRecord) : Yaml.Node :=
  .mapping [entryNode "start" (toString record.first), entryNode "end" (toString record.last),
    entryNode "modified_millis" (toString record.modifiedMillis)]

/-- The node of a state's text. -/
def toNode (state : GapState) : Yaml.Node :=
  .mapping [entryNode "min" (toString state.min), entryNode "max" (toString state.max),
    (.scalar "gaps".toList true, .sequence (state.gaps.map recordNode))]

theorem recordOf?_recordNode (record : GapRecord) :
    recordOf? (recordNode record) = some record := by
  simp [recordOf?, recordNode, entryNode, entries?, field?, key?, unsigned?, signed?,
    unsigned?_toString, signed?_toString, guard]

theorem ofNode?_toNode (state : GapState) : ofNode? state.toNode = some state := by
  have records : (state.gaps.map recordNode).mapM recordOf? = some state.gaps := by
    induction state.gaps with
    | nil => rfl
    | cons first others ih => simp [recordOf?_recordNode, ih]
  simp [ofNode?, toNode, entryNode, entries?, field?, key?, unsigned?, items?, unsigned?_toString,
    records, guard]

open NodeReader

/-- An entry with a plain scalar. -/
theorem blockEntries_entry {fuel : Nat} {key value : String} {rest : List Token} :
    (blockEntries (fuel + 4)).run ⟨entryTokens key value ++ rest, []⟩ =
      ((blockEntries (fuel + 3)).run ⟨rest, []⟩).map fun (entries, last) =>
        (entryNode key value :: entries, last) :=
  blockEntries_cons (nodeUnless_scalar (by simp) true true)

theorem nodeUnless_record (record : GapRecord) (fuel : Nat) (rest : List Token) :
    (nodeUnless (fuel + 10) [.blockEntry, .key, .value, .blockEnd] true false).run
        ⟨record.tokens.tail ++ rest, []⟩ =
      some (recordNode record, ⟨rest, []⟩) := by
  have tokens : record.tokens.tail ++ rest = .blockMappingStart ::
      (entryTokens "start" (toString record.first) ++ (entryTokens "end" (toString record.last) ++
        (entryTokens "modified_millis" (toString record.modifiedMillis) ++ .blockEnd :: rest))) :=
    rfl
  rw [tokens]
  refine nodeUnless_mapping (by simp) false ?_
  rw [blockEntries_entry, blockEntries_entry, blockEntries_entry, blockEntries_end]
  rfl

theorem indentlessItems_records (records : List GapRecord) (fuel : Nat) :
    (indentlessItems (fuel + 10 + records.length + 1)).run
        ⟨records.flatMap GapRecord.tokens ++ [.blockEnd], []⟩ =
      some (records.map recordNode, ⟨[.blockEnd], []⟩) := by
  have opens : GapRecord.tokens = fun record => .blockEntry :: record.tokens.tail := rfl
  rw [opens]
  exact indentlessItems_flatMap (·.tokens.tail) recordNode nodeUnless_record records fuel

theorem nodeUnless_gaps (records : List GapRecord) (fuel : Nat) :
    (nodeUnless (fuel + 10 + records.length + 1 + 3) [.key, .value, .blockEnd] true true).run
        ⟨gapsTokens records ++ [.blockEnd], []⟩ =
      some (.sequence (records.map recordNode), ⟨[.blockEnd], []⟩) := by
  unfold gapsTokens
  split
  next none =>
    subst none
    exact nodeUnless_emptySequence (by simp) true true
  next some =>
    obtain ⟨record, others, rfl⟩ := List.exists_cons_of_ne_nil some
    have same : (record :: others).flatMap GapRecord.tokens ++ [.blockEnd] =
        .blockEntry :: (record.tokens.tail ++ others.flatMap GapRecord.tokens ++ [.blockEnd]) := rfl
    rw [same]
    refine nodeUnless_items (by simp) true ?_
    exact indentlessItems_records (record :: others) fuel

theorem length_gapsTokens (records : List GapRecord) :
    records.length < (gapsTokens records).length := by
  have each (record : GapRecord) : record.tokens.length = 15 := rfl
  unfold gapsTokens
  split
  next none => simp [none]
  next some =>
    have := List.length_pos_iff.mpr some
    simp [List.length_flatMap, each]
    omega

theorem blockEntries_state (state : GapState) (fuel : Nat) :
    (blockEntries (fuel + 10 + state.gaps.length + 1 + 6)).run
        ⟨entryTokens "min" (toString state.min) ++ (entryTokens "max" (toString state.max) ++
          (.key :: .scalar "gaps".toList true :: .value :: (gapsTokens state.gaps ++ [.blockEnd]))),
          []⟩ =
      some ([entryNode "min" (toString state.min), entryNode "max" (toString state.max),
        (.scalar "gaps".toList true, .sequence (state.gaps.map recordNode))], ⟨[], []⟩) := by
  rw [blockEntries_entry, blockEntries_entry, blockEntries_cons (nodeUnless_gaps state.gaps fuel),
    blockEntries_end]
  rfl

theorem document?_write (state : GapState) : document? state.write = some state.toNode := by
  have tokens : state.openTokens ++ [.blockEnd] = .blockMappingStart ::
      (entryTokens "min" (toString state.min) ++ (entryTokens "max" (toString state.max) ++
        (.key :: .scalar "gaps".toList true :: .value ::
          (gapsTokens state.gaps ++ [.blockEnd])))) := by
    simp [openTokens]
  have enough := length_gapsTokens state.gaps
  obtain ⟨fuel, same⟩ : ∃ fuel, 4 * (state.openTokens ++ [Token.blockEnd]).length + 8 =
      fuel + 10 + state.gaps.length + 1 + 6 + 2 := by
    refine ⟨41 + 4 * (gapsTokens state.gaps).length - state.gaps.length, ?_⟩
    simp [openTokens, entryTokens]
    omega
  rw [document?, tokens?_write]
  simp only [Option.bind_eq_bind, Option.bind_some]
  rw [same, tokens, document_mapping (blockEntries_state state fuel)]
  rfl

/-- The text of a state is read back as the state. -/
theorem read?_write (state : GapState) : read? state.write = some state := by
  rw [read?, document?_write]
  exact state.ofNode?_toNode

end GapState

end ContinuousData

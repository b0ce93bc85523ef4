/-! Tokens of YAML texts. A key is recognised only when the colon behind it is found, so the scanner
remembers where a key may have started and puts the mark in front of it later. Indentation opens and
closes block collections. -/
namespace ContinuousData.Yaml

inductive Token where
  | directive
  | documentStart
  | documentEnd
  | blockSequenceStart
  | blockMappingStart
  | blockEnd
  | flowSequenceStart
  | flowSequenceEnd
  | flowMappingStart
  | flowMappingEnd
  | blockEntry
  | flowEntry
  | key
  | value
  | alias (name : List Char)
  | anchor (name : List Char)
  | tag
  | scalar (text : List Char) (plain : Bool)
  deriving DecidableEq, Repr

/-- Line ends are all written as line feeds. -/
def unifyLineEnds : List Char → List Char
  | [] => []
  | '\r' :: '\n' :: rest => '\n' :: unifyLineEnds rest
  | c :: rest =>
    (if c = '\r' || c.toNat = 0x85 || c.toNat = 0x2028 || c.toNat = 0x2029 then '\n' else c) ::
      unifyLineEnds rest

/-- The characters that may stand in a text at all. -/
def isAllowed (c : Char) : Bool :=
  let n := c.toNat
  n == 9 || n == 10 || n == 13 || (0x20 ≤ n && n ≤ 0x7E) || n == 0x85 ||
    (0xA0 ≤ n && n ≤ 0xD7FF) || (0xE000 ≤ n && n ≤ 0xFFFD && n != 0xFEFF) || 0x10000 ≤ n

def isSpace (c : Char) : Bool :=
  c = ' ' || c = '\t'

def isGap (c : Char) : Bool :=
  isSpace c || c = '\n'

/-- The end of the text or white space. -/
def startsWithGap : List Char → Bool
  | [] => true
  | c :: _ => isGap c

structure Position where
  index : Nat := 0
  line : Nat := 0
  column : Nat := 0
  deriving DecidableEq, Repr

/-- The rest of the text and where it starts. -/
structure Cursor where
  rest : List Char
  position : Position := {}
  deriving DecidableEq, Repr

namespace Cursor

/-- Steps over `count` characters of one line. -/
def skip (cursor : Cursor) (count : Nat) : Cursor :=
  let p := cursor.position
  ⟨cursor.rest.drop count, ⟨p.index + count, p.line, p.column + count⟩⟩

def skipLineEnd (cursor : Cursor) : Cursor :=
  let p := cursor.position
  ⟨cursor.rest.drop 1, ⟨p.index + 1, p.line + 1, 0⟩⟩

/-- Takes the longest run of characters of a class that has no line ends. -/
def span (cursor : Cursor) (p : Char → Bool) : List Char × Cursor :=
  let run := cursor.rest.takeWhile p
  (run, cursor.skip run.length)

/-- Three hyphens or three points at the start of a line, before white space. -/
def atDocumentMark (cursor : Cursor) : Bool :=
  cursor.position.column == 0 &&
    match cursor.rest with
    | '-' :: '-' :: '-' :: rest => startsWithGap rest
    | '.' :: '.' :: '.' :: rest => startsWithGap rest
    | _ => false

def skipComment (cursor : Cursor) : Cursor :=
  match cursor.rest with
  | '#' :: _ => (cursor.span (· ≠ '\n')).2
  | _ => cursor

end Cursor

/-- Where a key may have started. It must turn out to be one if it is `required`. -/
structure KeyStart where
  tokenIndex : Nat
  position : Position
  required : Bool
  deriving DecidableEq, Repr

structure Scanner where
  cursor : Cursor
  tokens : Array Token := #[]
  /-- The column of the innermost block collection, -1 outside of all. -/
  indent : Int := -1
  outer : List Int := []
  /-- The possible key of each open flow collection, the innermost first. -/
  flowKeys : List (Option KeyStart) := []
  blockKey : Option KeyStart := none
  keyAllowed : Bool := true
  deriving Repr

namespace Scanner

def inFlow (s : Scanner) : Bool :=
  !s.flowKeys.isEmpty

def column (s : Scanner) : Int :=
  s.cursor.position.column

def emit (s : Scanner) (token : Token) : Scanner :=
  { s with tokens := s.tokens.push token }

/-- The possible key of the innermost collection. -/
def currentKey (s : Scanner) : Option KeyStart :=
  match s.flowKeys with
  | key :: _ => key
  | [] => s.blockKey

def setKey (s : Scanner) (key : Option KeyStart) : Scanner :=
  match s.flowKeys with
  | _ :: others => { s with flowKeys := key :: others }
  | [] => { s with blockKey := key }

/-- A key ends on its line and has at most 1024 characters. -/
def isStale (s : Scanner) (key : KeyStart) : Bool :=
  key.position.line < s.cursor.position.line || key.position.index + 1024 < s.cursor.position.index

def dropIfStale (s : Scanner) (key : Option KeyStart) : Option (Option KeyStart) :=
  match key with
  | none => some none
  | some start =>
    if s.isStale start then if start.required then none else some none else some key

/-- Forgets the keys that can be none any more. -/
def dropStaleKeys (s : Scanner) : Option Scanner := do
  let blockKey ← s.dropIfStale s.blockKey
  let flowKeys ← s.flowKeys.mapM s.dropIfStale
  return { s with blockKey, flowKeys }

def removeKey (s : Scanner) : Option Scanner :=
  match s.currentKey with
  | some key => if key.required then none else some (s.setKey none)
  | none => some s

/-- Notes that the next token may be a key. -/
def saveKey (s : Scanner) : Option Scanner :=
  if s.keyAllowed then do
    let s ← s.removeKey
    return s.setKey (some ⟨s.tokens.size, s.cursor.position, !s.inFlow && s.indent == s.column⟩)
  else some s

/-- Opens a block collection at a column further to the right. -/
def openBlock (s : Scanner) (column : Int) (at? : Option Nat) (token : Token) : Scanner :=
  if s.inFlow || column ≤ s.indent then s
  else
    { s with
      outer := s.indent :: s.outer
      indent := column
      tokens := match at? with
        | some index => s.tokens.insertIdxIfInBounds index token
        | none => s.tokens.push token }

/-- Closes the block collections that start to the right of a column. -/
def closeBlocks (s : Scanner) (column : Int) : Scanner :=
  if s.inFlow then s
  else go s.outer s.indent s.tokens
where
  go : List Int → Int → Array Token → Scanner
    | [], indent, tokens => { s with outer := [], indent, tokens }
    | next :: outer, indent, tokens =>
      if column < indent then go outer next (tokens.push .blockEnd)
      else { s with outer := next :: outer, indent, tokens }

/-- Skips spaces, comments and line ends. Tabs are no indentation. -/
def skipGaps (s : Scanner) : Nat → Scanner
  | 0 => s
  | fuel + 1 =>
    let tabs := s.inFlow || !s.keyAllowed
    let (_, cursor) := s.cursor.span fun c => c = ' ' || (tabs && c = '\t')
    let cursor := cursor.skipComment
    match cursor.rest with
    | '\n' :: _ =>
      { s with
        cursor := cursor.skipLineEnd
        keyAllowed := s.keyAllowed || !s.inFlow }.skipGaps fuel
    | _ => { s with cursor }

/-- White space inside a scalar: the spaces, or for line ends one space or all further ones. -/
structure Folding where
  spaces : List Char := []
  lineEnds : Nat := 0

def Folding.text (folding : Folding) : List Char :=
  match folding.lineEnds with
  | 0 => folding.spaces
  | 1 => [' ']
  | n + 2 => List.replicate (n + 1) '\n'

/-- Skips the white space inside a scalar. -/
def skipFolding : Nat → Cursor → Folding → Cursor × Folding
  | 0, cursor, folding => (cursor, folding)
  | fuel + 1, cursor, folding =>
    match cursor.rest with
    | '\n' :: _ => skipFolding fuel cursor.skipLineEnd ⟨[], folding.lineEnds + 1⟩
    | c :: _ =>
      if isSpace c then
        let (run, cursor) := cursor.span isSpace
        skipFolding fuel cursor ⟨if folding.lineEnds = 0 then run else [], folding.lineEnds⟩
      else (cursor, folding)
    | [] => (cursor, folding)

/-- The characters of a plain scalar up to the next white space. -/
def plainRun (inFlow : Bool) : List Char → Option (List Char)
  | [] => some []
  | c :: rest =>
    if isGap c then some []
    else if inFlow && c = ':' && (rest.head?.any (",?[]\x7b\x7d".contains ·)) then none
    else if c = ':' && startsWithGap rest then some []
    else if inFlow && ",[]\x7b\x7d".contains c then some []
    else (c :: ·) <$> plainRun inFlow rest

/-- A plain scalar, with the white space before the next run of characters; the last value tells
whether it went over a line end. -/
def plainScalar (inFlow : Bool) (indent : Int) :
    Nat → Cursor → Folding → Option (List Char × Cursor × Bool)
  | 0, cursor, folding => some ([], cursor, folding.lineEnds ≠ 0)
  | fuel + 1, cursor, folding => do
    let stop := ([], cursor, decide (folding.lineEnds ≠ 0))
    if cursor.atDocumentMark || cursor.rest.head? = some '#' then return stop
    let run ← plainRun inFlow cursor.rest
    if run = [] then return stop
    let cursor := cursor.skip run.length
    let (after, next) := skipFolding (cursor.rest.length + 1) cursor {}
    if next.lineEnds = 0 && next.spaces = [] then return (folding.text ++ run, cursor, false)
    if !inFlow && after.position.column < indent then
      return (folding.text ++ run, after, next.lineEnds ≠ 0)
    let (more, last, crossed) ← plainScalar inFlow indent fuel after next
    return (folding.text ++ run ++ more, last, crossed)

def hexValue (digits : List Char) : Option Nat :=
  digits.foldlM (fun value c =>
    if c.isDigit then some (value * 16 + (c.toNat - 48))
    else if 'a' ≤ c && c ≤ 'f' then some (value * 16 + (c.toNat - 87))
    else if 'A' ≤ c && c ≤ 'F' then some (value * 16 + (c.toNat - 55))
    else none) 0

/-- The character behind a backslash, and how many characters it takes. -/
def escape (rest : List Char) : Option (Char × Nat) :=
  let hex (count : Nat) : Option (Char × Nat) := do
    let digits := (rest.drop 1).take count
    guard (digits.length = count)
    let n ← hexValue digits
    guard (n < 0x110000 && !(0xD800 ≤ n && n < 0xE000))
    return (Char.ofNat n, count + 1)
  match rest.head? with
  | some '0' => some ('\x00', 1)
  | some 'a' => some ('\x07', 1)
  | some 'b' => some ('\x08', 1)
  | some 't' => some ('\t', 1)
  | some '\t' => some ('\t', 1)
  | some 'n' => some ('\n', 1)
  | some 'v' => some ('\x0b', 1)
  | some 'f' => some ('\x0c', 1)
  | some 'r' => some ('\r', 1)
  | some 'e' => some ('\x1b', 1)
  | some ' ' => some (' ', 1)
  | some '"' => some ('"', 1)
  | some '/' => some ('/', 1)
  | some '\\' => some ('\\', 1)
  | some 'N' => some (Char.ofNat 0x85, 1)
  | some '_' => some (Char.ofNat 0xA0, 1)
  | some 'L' => some (Char.ofNat 0x2028, 1)
  | some 'P' => some (Char.ofNat 0x2029, 1)
  | some 'x' => hex 2
  | some 'u' => hex 4
  | some 'U' => hex 8
  | _ => none

/-- The text up to the closing quote, which is skipped. -/
def quotedScalar (double : Bool) : Nat → Cursor → Option (List Char × Cursor)
  | 0, _ => none
  | fuel + 1, cursor => do
    if cursor.atDocumentMark then none
    match cursor.rest with
    | [] => none
    | '\'' :: '\'' :: _ =>
      if double then
        let (more, cursor) ← quotedScalar double fuel (cursor.skip 1)
        return ('\'' :: more, cursor)
      else
        let (more, cursor) ← quotedScalar double fuel (cursor.skip 2)
        return ('\'' :: more, cursor)
    | '\\' :: '\n' :: _ =>
      if double then
        let (after, folding) := skipFolding (cursor.rest.length + 1) (cursor.skip 1) {}
        let (more, cursor) ← quotedScalar double fuel after
        return (List.replicate (folding.lineEnds - 1) '\n' ++ more, cursor)
      else
        let (more, cursor) ← quotedScalar double fuel (cursor.skip 1)
        return ('\\' :: more, cursor)
    | c :: rest =>
      if c = (if double then '"' else '\'') then return ([], cursor.skip 1)
      if double && c = '\\' then
        let (escaped, count) ← escape rest
        let (more, cursor) ← quotedScalar double fuel (cursor.skip (count + 1))
        return (escaped :: more, cursor)
      if isGap c then
        let (after, folding) := skipFolding (cursor.rest.length + 1) cursor {}
        let (more, cursor) ← quotedScalar double fuel after
        return (folding.text ++ more, cursor)
      let (more, cursor) ← quotedScalar double fuel (cursor.skip 1)
      return (c :: more, cursor)

/-- The indicators behind `|` or `>`: an indentation, and the rest of the line. -/
def blockHeader (cursor : Cursor) : Option (Option Nat × Cursor) := do
  let (indicators, cursor) := cursor.span fun c => c = '+' || c = '-' || c.isDigit
  guard (indicators.length ≤ 2 && (indicators.filter Char.isDigit).length ≤ 1 &&
    (indicators.filter (!·.isDigit)).length ≤ 1 && !indicators.contains '0')
  let (_, cursor) := cursor.span isSpace
  let cursor := cursor.skipComment
  match cursor.rest with
  | [] => some (indent? indicators, cursor)
  | '\n' :: _ => some (indent? indicators, cursor.skipLineEnd)
  | _ => none
where
  indent? (indicators : List Char) : Option Nat :=
    (indicators.find? Char.isDigit).map (·.toNat - 48)

/-- The lines of a block scalar: those indented by at least `indent`, or by as much as the first
line that is not blank, and blank lines. -/
def blockLines (least : Nat) : Nat → Option Nat → Cursor → List Char × Cursor
  | 0, _, cursor => ([], cursor)
  | fuel + 1, indent, cursor =>
    let limit := indent.getD cursor.rest.length
    let spaces := ((cursor.rest.take limit).takeWhile (· = ' ')).length
    let start := cursor.skip spaces
    match start.rest with
    | [] => ([], start)
    | '\n' :: _ =>
      let (more, cursor) := blockLines least fuel indent start.skipLineEnd
      ('\n' :: more, cursor)
    | _ =>
      let indent := indent.getD (max spaces least)
      if spaces < indent || start.atDocumentMark then ([], start)
      else
        let (line, cursor) := start.span (· ≠ '\n')
        match cursor.rest with
        | '\n' :: _ =>
          let (more, cursor) := blockLines least fuel (some indent) cursor.skipLineEnd
          (line ++ '\n' :: more, cursor)
        | _ => (line, cursor)

def isAnchorChar (c : Char) : Bool :=
  c.isAlphanum || c = '_' || c = '-'

/-- The name of an anchor or alias, and that it ends well. -/
def anchorName (cursor : Cursor) : Option (List Char × Cursor) := do
  let (name, cursor) := cursor.span isAnchorChar
  guard (name ≠ [] && (startsWithGap cursor.rest ||
    (cursor.rest.head?.any ("?:,]\x7d%@\x60".contains ·))))
  return (name, cursor)

/-- A tag in one of its forms: `!<uri>`, `!suffix`, `!!suffix` or a lone `!`. -/
def skipTag (inFlow : Bool) (cursor : Cursor) : Option Cursor := do
  let cursor ← match cursor.rest with
    | '!' :: '<' :: rest => do
      let uri := rest.takeWhile (fun c => c ≠ '>' && !isGap c)
      guard (uri ≠ [] && (rest.drop uri.length).head? = some '>')
      some (cursor.skip (uri.length + 3))
    | '!' :: '!' :: rest => do
      let suffix := rest.takeWhile isTagChar
      guard (suffix ≠ [])
      some (cursor.skip (suffix.length + 2))
    | _ =>
      let suffix := (cursor.rest.drop 1).takeWhile isTagChar
      guard (!suffix.contains '!')
      some (cursor.skip (suffix.length + 1))
  guard (startsWithGap cursor.rest || (inFlow && cursor.rest.head? = some ','))
  return cursor
where
  isTagChar (c : Char) : Bool :=
    c.isAlphanum || "_-;/?:@&=+$.!~*'()%".contains c

/-- Puts a scalar token behind the others. -/
def emitScalar (s : Scanner) (text : List Char) (plain : Bool) (cursor : Cursor)
    (keyAllowed : Bool) : Scanner :=
  { s.emit (.scalar text plain) with cursor, keyAllowed }

def openFlow (s : Scanner) (token : Token) : Option Scanner := do
  let s ← s.saveKey
  return { s.emit token with
    flowKeys := none :: s.flowKeys, keyAllowed := true, cursor := s.cursor.skip 1 }

def closeFlow (s : Scanner) (token : Token) : Option Scanner := do
  let s ← s.removeKey
  return { s.emit token with
    flowKeys := s.flowKeys.drop 1, keyAllowed := false, cursor := s.cursor.skip 1 }

def documentMark (s : Scanner) (token : Token) (width : Nat) : Option Scanner := do
  let s ← (s.closeBlocks (-1)).removeKey
  return { s.emit token with keyAllowed := false, cursor := s.cursor.skip width }

/-- A version of the language that is understood, or the abbreviation of a tag. -/
def isKnownDirective (line : List Char) : Bool :=
  let words := ((String.ofList (line.takeWhile (· ≠ '#'))).splitOn " ").filter (· ≠ "")
  words = ["%YAML", "1.1"] || words = ["%YAML", "1.2"] ||
    (words.head? = some "%TAG" && words.length = 3)

def directive (s : Scanner) : Option Scanner := do
  let s ← (s.closeBlocks (-1)).removeKey
  let (line, cursor) := s.cursor.span (· ≠ '\n')
  guard (isKnownDirective line)
  return { s.emit .directive with keyAllowed := false, cursor }

def blockEntry (s : Scanner) : Option Scanner := do
  guard (s.inFlow || s.keyAllowed)
  let s := s.openBlock s.column none .blockSequenceStart
  let s ← s.removeKey
  return { s.emit .blockEntry with keyAllowed := true, cursor := s.cursor.skip 1 }

def explicitKey (s : Scanner) : Option Scanner := do
  guard (s.inFlow || s.keyAllowed)
  let s := s.openBlock s.column none .blockMappingStart
  let s ← s.removeKey
  return { s.emit .key with keyAllowed := !s.inFlow, cursor := s.cursor.skip 1 }

/-- A colon: what came before it is a key after all, or the key is empty. -/
def value (s : Scanner) : Option Scanner := do
  match s.currentKey with
  | some start =>
    let s := { s.setKey none with tokens := s.tokens.insertIdxIfInBounds start.tokenIndex .key }
    let s := s.openBlock start.position.column (some start.tokenIndex) .blockMappingStart
    return { s.emit .value with keyAllowed := false, cursor := s.cursor.skip 1 }
  | none =>
    guard (s.inFlow || s.keyAllowed)
    let s := s.openBlock s.column none .blockMappingStart
    return { s.emit .value with keyAllowed := !s.inFlow, cursor := s.cursor.skip 1 }

def blockScalar (s : Scanner) : Option Scanner := do
  let s ← s.removeKey
  let (indent?, cursor) ← blockHeader (s.cursor.skip 1)
  let base := s.indent.toNat
  let indent := indent?.map fun n => if 0 ≤ s.indent then base + n else n
  let least := (max (s.indent + 1) 1).toNat
  let (text, cursor) := blockLines least (cursor.rest.length + 1) indent cursor
  return s.emitScalar text false cursor true

/-- Scans one token, or more where blocks end before it; `none` for a text that is not YAML, and the
second value is false at the end of the text. -/
def step (s : Scanner) : Option (Scanner × Bool) := do
  let s := s.skipGaps (s.cursor.rest.length + 1)
  let s ← s.dropStaleKeys
  let s := s.closeBlocks s.column
  let rest := s.cursor.rest
  let continued (s : Scanner) : Option (Scanner × Bool) := some (s, true)
  match rest with
  | [] =>
    let s ← (s.closeBlocks (-1)).removeKey
    return (s, false)
  | c :: after =>
    if s.column = 0 && c = '%' then continued (← s.directive)
    else if s.cursor.atDocumentMark then
      continued (← s.documentMark (if c = '-' then .documentStart else .documentEnd) 3)
    else if c = '[' then continued (← s.openFlow .flowSequenceStart)
    else if c = '\x7b' then continued (← s.openFlow .flowMappingStart)
    else if c = ']' then continued (← s.closeFlow .flowSequenceEnd)
    else if c = '\x7d' then continued (← s.closeFlow .flowMappingEnd)
    else if c = ',' then do
      let s ← s.removeKey
      continued { s.emit .flowEntry with keyAllowed := true, cursor := s.cursor.skip 1 }
    else if c = '-' && startsWithGap after then continued (← s.blockEntry)
    else if c = '?' && (s.inFlow || startsWithGap after) then continued (← s.explicitKey)
    else if c = ':' && (s.inFlow || startsWithGap after) then continued (← s.value)
    else if c = '*' || c = '&' then do
      let s ← s.saveKey
      let (name, cursor) ← anchorName (s.cursor.skip 1)
      continued { s.emit (if c = '*' then .alias name else .anchor name) with
        keyAllowed := false, cursor }
    else if c = '!' then do
      let s ← s.saveKey
      let cursor ← skipTag s.inFlow s.cursor
      continued { s.emit .tag with keyAllowed := false, cursor }
    else if (c = '|' || c = '>') && !s.inFlow then continued (← s.blockScalar)
    else if c = '\'' || c = '"' then do
      let s ← s.saveKey
      let (text, cursor) ← quotedScalar (c = '"') (rest.length + 1) (s.cursor.skip 1)
      continued (s.emitScalar text false cursor false)
    else if !(isGap c || "-?:,[]\x7b\x7d#&*!|>'\"%@\x60".contains c) ||
        (c = '-' && !(after.head?.any isSpace)) ||
        (!s.inFlow && (c = '?' || c = ':') && !startsWithGap after) then do
      let s ← s.saveKey
      let (text, cursor, crossed) ←
        plainScalar s.inFlow (s.indent + 1) (rest.length + 1) s.cursor {}
      continued (s.emitScalar text true cursor crossed)
    else none

def run : Nat → Scanner → Option (Array Token)
  | 0, _ => none
  | fuel + 1, s => do
    let (s, more) ← s.step
    if more then run fuel s else return s.tokens

end Scanner

/-- The tokens of a text, or none if it has no meaning. -/
def tokens? (text : String) : Option (List Token) := do
  let cs := text.toList
  let cs := if cs.head?.any (·.toNat == 0xFEFF) then cs.drop 1 else cs
  guard (cs.all isAllowed)
  let cs := unifyLineEnds cs
  let tokens ← Scanner.run (cs.length + 2) { cursor := ⟨cs, {}⟩ }
  return tokens.toList

end ContinuousData.Yaml

import RequestFirewall.Yaml.Mark
/- YAML tokens and the scanner that cuts a text into them, by the YAML 1.1 scanning rules.

   Block structure comes from indentation: a deeper entry opens a block sequence or mapping and
   a shallower line closes blocks. A key without `?` is only recognised when its `:` arrives, so
   the scanner keeps, per flow level, the one place where such a key could have started, and
   inserts the key token there later; such a key must stay on one line and within 1024
   bytes, and a key at the current block indentation must be completed. Tabs may not
   indent. Scalars are plain, quoted (single or double, with escapes) or block (literal or
   folded); line breaks inside plain and quoted scalars fold into spaces. A byte order mark is
   passed over where it starts a line, and takes a column there; anywhere else it is content. -/
namespace RequestFirewall.Yaml

inductive ScalarStyle where
  | plain
  | singleQuoted
  | doubleQuoted
  | literal
  | folded
  deriving DecidableEq, Repr, Inhabited

inductive TokenKind where
  | streamStart
  | streamEnd
  | versionDirective (major minor : Nat)
  | tagDirective (handle pfx : String)
  | documentStart
  | documentEnd
  | blockSequenceStart
  | blockMappingStart
  | blockEnd
  | flowSequenceStart
  | flowSequenceEnd
  | flowMappingStart
  | flowMappingEnd
  | blockEntry
  | flowEntry
  | key
  | value
  | alias (name : String)
  | anchor (name : String)
  | tag (handle suffix : String)
  | scalar (text : String) (style : ScalarStyle)
  deriving Repr, Inhabited

structure Token where
  kind : TokenKind
  start : Mark
  stop : Mark
  deriving Repr, Inhabited

structure SimpleKey where
  possible : Bool := false
  required : Bool := false
  tokenNumber : Nat := 0
  mark : Mark := {}

/-- The scanner's state: the text, the position, the tokens cut but not yet taken, and the
    block indentation and flow nesting in force. -/
structure Scanner where
  input : Array Char
  mark : Mark := {}
  queue : List Token := []
  parsed : Nat := 0
  indent : Int := -1
  indents : List Int := []
  keyAllowed : Bool := false
  keys : List SimpleKey := []
  flowLevel : Nat := 0
  started : Bool := false

abbrev ScanM := StateT Scanner (Except SyntaxError)

def isBreakChar (c : Char) : Bool :=
  c == '\r' || c == '\n' || c == '\x85' || c == ' ' || c == ' '

def isBlankChar (c : Char) : Bool := c == ' ' || c == '\t'

def isWordChar (c : Char) : Bool := c.isAlphanum || c == '_' || c == '-'

def hexDigitValue? (c : Char) : Option Nat :=
  if c.isDigit then some (c.toNat - '0'.toNat)
  else if 'a' ≤ c && c ≤ 'f' then some (c.toNat - 'a'.toNat + 10)
  else if 'A' ≤ c && c ≤ 'F' then some (c.toNat - 'A'.toNat + 10)
  else none

namespace Scanner

def ahead (s : Scanner) (k : Nat) : Option Char := s.input[s.mark.index + k]?

def isBreakAt (s : Scanner) (k : Nat) : Bool := match s.ahead k with
  | some c => isBreakChar c
  | none => false

def isBlankAt (s : Scanner) (k : Nat) : Bool := match s.ahead k with
  | some c => isBlankChar c
  | none => false

def isEndAt (s : Scanner) (k : Nat) : Bool := (s.ahead k).isNone

def isBreakZAt (s : Scanner) (k : Nat) : Bool := s.isBreakAt k || s.isEndAt k

def isBlankZAt (s : Scanner) (k : Nat) : Bool := s.isBlankAt k || s.isBreakAt k || s.isEndAt k

def checkAt (s : Scanner) (c : Char) (k : Nat) : Bool := s.ahead k == some c

def atDocumentMarker (s : Scanner) : Bool :=
  s.mark.column == 0 &&
    ((s.checkAt '-' 0 && s.checkAt '-' 1 && s.checkAt '-' 2) ||
     (s.checkAt '.' 0 && s.checkAt '.' 1 && s.checkAt '.' 2)) && s.isBlankZAt 3

def fuel (s : Scanner) : Nat := s.input.size + 2

end Scanner

def scanError {α : Type} (context : Option String) (contextMark : Mark) (problem : String) :
    ScanM α := do
  let s ← get
  throw { problem, problemMark := s.mark, context, contextMark }

def skip : ScanM Unit := modify fun s =>
  { s with mark := { s.mark with index := s.mark.index + 1, column := s.mark.column + 1,
                                 bytes := s.mark.bytes + ((s.ahead 0).map Char.utf8Size).getD 1 } }

def skipLine : ScanM Unit := modify fun s =>
  if s.checkAt '\r' 0 && s.checkAt '\n' 1 then
    { s with mark := { index := s.mark.index + 2, bytes := s.mark.bytes + 2,
                       line := s.mark.line + 1, column := 0 } }
  else if s.isBreakAt 0 then
    { s with mark := { index := s.mark.index + 1,
                       bytes := s.mark.bytes + ((s.ahead 0).map Char.utf8Size).getD 1,
                       line := s.mark.line + 1, column := 0 } }
  else s

def readChar : ScanM Char := do
  let s ← get
  skip
  pure ((s.ahead 0).getD ' ')

/-- Takes a line break: CR LF, CR, LF and next line read as a line feed; line and paragraph
    separators are kept. -/
def readLine : ScanM String := do
  let s ← get
  match s.ahead 0 with
  | some c =>
    if c == '\r' || c == '\n' || c == '\x85' then skipLine; pure "\n"
    else if isBreakChar c then skipLine; pure c.toString
    else pure ""
  | none => pure ""

def enqueue (t : Token) : ScanM Unit := modify fun s => { s with queue := s.queue ++ [t] }

def insertAt (pos : Nat) (t : Token) : ScanM Unit := modify fun s =>
  { s with queue := s.queue.take pos ++ [t] ++ s.queue.drop pos }

def topKey : ScanM SimpleKey := do pure ((← get).keys.head?.getD {})

def setTopKey (k : SimpleKey) : ScanM Unit := modify fun s =>
  { s with keys := match s.keys with
    | [] => [k]
    | _ :: rest => k :: rest }

def removeSimpleKey : ScanM Unit := do
  let k ← topKey
  if k.possible && k.required then
    scanError (some "while scanning a simple key") k.mark "could not find expected ':'"
  setTopKey { k with possible := false }

def saveSimpleKey : ScanM Unit := do
  let s ← get
  let required := s.flowLevel == 0 && s.indent == (s.mark.column : Int)
  if s.keyAllowed then
    let k : SimpleKey :=
      { possible := true, required, tokenNumber := s.parsed + s.queue.length, mark := s.mark }
    removeSimpleKey
    setTopKey k

/-- Drops possible simple keys that can no longer be keys: they started on an earlier line or
    more than 1024 bytes back. A required one is an error. -/
def staleSimpleKeys : ScanM Unit := do
  let s ← get
  let check (k : SimpleKey) : Except SyntaxError SimpleKey :=
    if k.possible && (k.mark.line < s.mark.line || k.mark.bytes + 1024 < s.mark.bytes) then
      if k.required then
        .error { problem := "could not find expected ':'", problemMark := s.mark,
                 context := some "while scanning a simple key", contextMark := k.mark }
      else .ok { k with possible := false }
    else .ok k
  match s.keys.reverse.mapM check with
  | .ok keys => set { s with keys := keys.reverse }
  | .error e => throw e

def unrollIndent (column : Int) : ScanM Unit := do
  let s ← get
  if s.flowLevel != 0 then return
  for _ in [0:s.indents.length + 1] do
    let s ← get
    if s.indent > column then
      enqueue ⟨.blockEnd, s.mark, s.mark⟩
      modify fun s => { s with indent := s.indents.headD (-1), indents := s.indents.tail }
    else break

/-- Opens a block collection at `column` if it is deeper than the current indentation; the
    start token goes at the end of the queue, or where a simple key began. -/
def rollIndent (column : Int) (number : Option Nat) (kind : TokenKind) (mark : Mark) :
    ScanM Unit := do
  let s ← get
  if s.flowLevel != 0 then return
  if s.indent < column then
    set { s with indents := s.indent :: s.indents, indent := column }
    let t : Token := ⟨kind, mark, mark⟩
    match number with
    | none => enqueue t
    | some n => insertAt (n - s.parsed) t

def increaseFlowLevel : ScanM Unit := modify fun s =>
  { s with keys := {} :: s.keys, flowLevel := s.flowLevel + 1 }

def decreaseFlowLevel : ScanM Unit := modify fun s =>
  if s.flowLevel != 0 then { s with keys := s.keys.tail, flowLevel := s.flowLevel - 1 } else s

/-- Skips blanks, comments and line breaks up to the next token. Tabs are skipped only inside
    flow collections or where no simple key may start. -/
def scanToNextToken : ScanM Unit := do
  for _ in [0:(← get).fuel] do
    let s ← get
    if s.mark.column == 0 && s.checkAt '﻿' 0 then skip
    for _ in [0:(← get).fuel] do
      let s ← get
      if s.checkAt ' ' 0 || ((s.flowLevel != 0 || !s.keyAllowed) && s.checkAt '\t' 0) then skip
      else break
    if (← get).checkAt '#' 0 then
      for _ in [0:(← get).fuel] do
        if (← get).isBreakZAt 0 then break
        skip
    if (← get).isBreakAt 0 then
      skipLine
      if (← get).flowLevel == 0 then modify fun s => { s with keyAllowed := true }
    else break

def fetchStreamStart : ScanM Unit := do
  modify fun s => { s with indent := -1, keyAllowed := true, started := true, keys := [{}] }
  let s ← get
  enqueue ⟨.streamStart, s.mark, s.mark⟩

def fetchStreamEnd : ScanM Unit := do
  let s ← get
  if s.mark.column != 0 then
    set { s with mark := { s.mark with column := 0, line := s.mark.line + 1 } }
  unrollIndent (-1)
  removeSimpleKey
  modify fun s => { s with keyAllowed := false }
  let s ← get
  enqueue ⟨.streamEnd, s.mark, s.mark⟩

def readWord : ScanM String := do
  let mut out := ""
  for _ in [0:(← get).fuel] do
    match (← get).ahead 0 with
    | some c => if isWordChar c then out := out.push c; skip else break
    | none => break
  pure out

def scanVersionNumber (start : Mark) : ScanM Nat := do
  let mut value := 0
  let mut length := 0
  for _ in [0:(← get).fuel] do
    match (← get).ahead 0 with
    | some c =>
      if c.isDigit then
        length := length + 1
        if length > 9 then
          scanError (some "while scanning a %YAML directive") start "found extremely long version number"
        value := value * 10 + (c.toNat - '0'.toNat)
        skip
      else break
    | none => break
  if length == 0 then
    scanError (some "while scanning a %YAML directive") start "did not find expected version number"
  pure value

def scanTagHandle (directive : Bool) (start : Mark) : ScanM String := do
  if !(← get).checkAt '!' 0 then
    scanError (some (if directive then "while scanning a tag directive" else "while scanning a tag"))
      start "did not find expected '!'"
  let _ ← readChar
  let word ← readWord
  let mut handle := "!" ++ word
  if (← get).checkAt '!' 0 then
    let _ ← readChar
    handle := handle ++ "!"
  else if directive && handle != "!" then
    scanError (some "while parsing a tag directive") start "did not find expected '!'"
  pure handle

def isUriChar (verbatim : Bool) (c : Char) : Bool :=
  isWordChar c || ";/?:@&=+$.%!~*'()".contains c || (verbatim && ",[]".contains c)

/-- How many octets a UTF-8 sequence has, from its leading octet; zero when the octet cannot
    lead one. -/
def utf8Width (octet : Nat) : Nat :=
  if octet < 0x80 then 1
  else if octet / 32 == 6 then 2
  else if octet / 16 == 14 then 3
  else if octet / 8 == 30 then 4
  else 0

/-- The character that UTF-8 octets encode. Octets that are not the shortest encoding of a
    scalar value stand for the replacement character, so they never spell a core tag. -/
def utf8Decode (octets : List Nat) : Char :=
  match String.fromUTF8? (ByteArray.mk (octets.map UInt8.ofNat).toArray) with
  | some s => s.toList.headD '\uFFFD'
  | none => '\uFFFD'

/-- One character written in a tag as `%XX` escapes of its UTF-8 octets: the leading octet
    tells how many escapes follow, and each of those must hold a continuation octet. -/
def scanUriEscapes (directive : Bool) (start : Mark) : ScanM Char := do
  let context := some (if directive then "while parsing a %TAG directive" else "while parsing a tag")
  let mut octets : List Nat := []
  let mut width := 0
  for _ in [0:4] do
    let s ← get
    let octet? := match s.ahead 0, (s.ahead 1).bind hexDigitValue?, (s.ahead 2).bind hexDigitValue? with
      | some '%', some hi, some lo => some (hi * 16 + lo)
      | _, _, _ => none
    match octet? with
    | none => scanError context start "did not find URI escaped octet"
    | some o =>
      if width == 0 then
        width := utf8Width o
        if width == 0 then scanError context start "found an incorrect leading UTF-8 octet"
      else if o / 64 != 2 then
        scanError context start "found an incorrect trailing UTF-8 octet"
      octets := octets ++ [o]
      skip; skip; skip
      if octets.length ≥ width then break
  pure (utf8Decode octets)

def scanTagUri (verbatim directive : Bool) (head : String) (start : Mark) : ScanM String := do
  let mut out := (head.drop 1).toString
  let mut length := head.length
  for _ in [0:(← get).fuel] do
    let s ← get
    match s.ahead 0 with
    | some c =>
      if !isUriChar verbatim c then break
      if c == '%' then
        out := out.push (← scanUriEscapes directive start)
      else
        out := out.push c
        skip
      length := length + 1
    | none => break
  if length == 0 then
    scanError (some (if directive then "while parsing a %TAG directive" else "while parsing a tag"))
      start "did not find expected tag URI"
  pure out

def fetchDirective : ScanM Unit := do
  unrollIndent (-1)
  removeSimpleKey
  modify fun s => { s with keyAllowed := false }
  let start := (← get).mark
  skip
  let name ← readWord
  if name.isEmpty then
    scanError (some "while scanning a directive") start "could not find expected directive name"
  if !(← get).isBlankZAt 0 then
    scanError (some "while scanning a directive") start "found unexpected non-alphabetical character"
  let skipBlanks : ScanM Unit := do
    for _ in [0:(← get).fuel] do
      if (← get).isBlankAt 0 then skip else break
  let kind ← if name == "YAML" then do
      skipBlanks
      let major ← scanVersionNumber start
      if !(← get).checkAt '.' 0 then
        scanError (some "while scanning a %YAML directive") start
          "did not find expected digit or '.' character"
      skip
      let minor ← scanVersionNumber start
      pure (TokenKind.versionDirective major minor)
    else if name == "TAG" then do
      skipBlanks
      let handle ← scanTagHandle true start
      if !(← get).isBlankAt 0 then
        scanError (some "while scanning a %TAG directive") start "did not find expected whitespace"
      skipBlanks
      let pfx ← scanTagUri true true "" start
      if !(← get).isBlankZAt 0 then
        scanError (some "while scanning a %TAG directive") start
          "did not find expected whitespace or line break"
      pure (TokenKind.tagDirective handle pfx)
    else scanError (some "while scanning a directive") start "found unknown directive name"
  let stop := (← get).mark
  skipBlanks
  if (← get).checkAt '#' 0 then
    for _ in [0:(← get).fuel] do
      if (← get).isBreakZAt 0 then break
      skip
  if !(← get).isBreakZAt 0 then
    scanError (some "while scanning a directive") start "did not find expected comment or line break"
  if (← get).isBreakAt 0 then skipLine
  enqueue ⟨kind, start, stop⟩

def fetchDocumentIndicator (kind : TokenKind) : ScanM Unit := do
  unrollIndent (-1)
  removeSimpleKey
  modify fun s => { s with keyAllowed := false }
  let start := (← get).mark
  skip; skip; skip
  enqueue ⟨kind, start, (← get).mark⟩

def fetchFlowCollectionStart (kind : TokenKind) : ScanM Unit := do
  saveSimpleKey
  increaseFlowLevel
  modify fun s => { s with keyAllowed := true }
  let start := (← get).mark
  skip
  enqueue ⟨kind, start, (← get).mark⟩

def fetchFlowCollectionEnd (kind : TokenKind) : ScanM Unit := do
  removeSimpleKey
  decreaseFlowLevel
  modify fun s => { s with keyAllowed := false }
  let start := (← get).mark
  skip
  enqueue ⟨kind, start, (← get).mark⟩

def fetchFlowEntry : ScanM Unit := do
  removeSimpleKey
  modify fun s => { s with keyAllowed := true }
  let start := (← get).mark
  skip
  enqueue ⟨.flowEntry, start, (← get).mark⟩

def fetchBlockEntry : ScanM Unit := do
  let s ← get
  if s.flowLevel == 0 then
    if !s.keyAllowed then
      scanError none s.mark "block sequence entries are not allowed in this context"
    rollIndent s.mark.column none .blockSequenceStart s.mark
  removeSimpleKey
  modify fun s => { s with keyAllowed := true }
  let start := (← get).mark
  skip
  enqueue ⟨.blockEntry, start, (← get).mark⟩

def fetchKey : ScanM Unit := do
  let s ← get
  if s.flowLevel == 0 then
    if !s.keyAllowed then
      scanError none s.mark "mapping keys are not allowed in this context"
    rollIndent s.mark.column none .blockMappingStart s.mark
  removeSimpleKey
  modify fun s => { s with keyAllowed := s.flowLevel == 0 }
  let start := (← get).mark
  skip
  enqueue ⟨.key, start, (← get).mark⟩

def fetchValue : ScanM Unit := do
  let k ← topKey
  if k.possible then
    let s ← get
    insertAt (k.tokenNumber - s.parsed) ⟨.key, k.mark, k.mark⟩
    rollIndent k.mark.column (some k.tokenNumber) .blockMappingStart k.mark
    setTopKey { k with possible := false }
    modify fun s => { s with keyAllowed := false }
  else
    let s ← get
    if s.flowLevel == 0 then
      if !s.keyAllowed then
        scanError none s.mark "mapping values are not allowed in this context"
      rollIndent s.mark.column none .blockMappingStart s.mark
    modify fun s => { s with keyAllowed := s.flowLevel == 0 }
  let start := (← get).mark
  skip
  enqueue ⟨.value, start, (← get).mark⟩

def fetchAnchor (isAlias : Bool) : ScanM Unit := do
  saveSimpleKey
  modify fun s => { s with keyAllowed := false }
  let start := (← get).mark
  skip
  let name ← readWord
  let s ← get
  let endsWell := s.isBlankZAt 0 ||
    (match s.ahead 0 with
     | some c => "?:,]\x7d%@`".contains c
     | none => true)
  if name.isEmpty || !endsWell then
    scanError (some (if isAlias then "while scanning an alias" else "while scanning an anchor")) start
      "did not find expected alphabetic or numeric character"
  enqueue ⟨if isAlias then .alias name else .anchor name, start, (← get).mark⟩

def fetchTag : ScanM Unit := do
  saveSimpleKey
  modify fun s => { s with keyAllowed := false }
  let start := (← get).mark
  let (handle, suffix) ← if (← get).checkAt '<' 1 then do
      skip; skip
      let suffix ← scanTagUri true false "" start
      if !(← get).checkAt '>' 0 then
        scanError (some "while scanning a tag") start "did not find the expected '>'"
      skip
      pure ("", suffix)
    else do
      let handle ← scanTagHandle false start
      if handle.length > 1 && handle.endsWith "!" then
        let suffix ← scanTagUri false false "" start
        pure (handle, suffix)
      else
        let suffix ← scanTagUri false false handle start
        if suffix.isEmpty then pure ("", "!") else pure ("!", suffix)
  let s ← get
  if !s.isBlankZAt 0 && !(s.flowLevel != 0 && s.checkAt ',' 0) then
    scanError (some "while scanning a tag") start "did not find expected whitespace or line break"
  enqueue ⟨.tag handle suffix, start, (← get).mark⟩

/-- Indentation spaces and empty lines before or inside a block scalar; fixes the content
    indentation from the deepest such line when it is not yet known. -/
def blockScalarBreaks (indent : Nat) (start : Mark) : ScanM (Nat × String × Mark) := do
  let mut maxIndent := 0
  let mut breaks := ""
  let mut stop := (← get).mark
  for _ in [0:(← get).fuel] do
    for _ in [0:(← get).fuel] do
      let s ← get
      if (indent == 0 || s.mark.column < indent) && s.checkAt ' ' 0 then skip else break
    let s ← get
    if s.mark.column > maxIndent then maxIndent := s.mark.column
    if (indent == 0 || s.mark.column < indent) && s.checkAt '\t' 0 then
      scanError (some "while scanning a block scalar") start
        "found a tab character where an indentation space is expected"
    if !s.isBreakAt 0 then break
    breaks := breaks ++ (← readLine)
    stop := (← get).mark
  let s ← get
  let resolved :=
    if indent != 0 then indent
    else Nat.max 1 (Nat.max maxIndent (s.indent + 1).toNat)
  pure (resolved, breaks, stop)

def fetchBlockScalar (literal : Bool) : ScanM Unit := do
  removeSimpleKey
  modify fun s => { s with keyAllowed := true }
  let start := (← get).mark
  skip
  let mut chomping : Int := 0
  let mut increment := 0
  let s ← get
  let digitAt (k : Nat) : Option Nat := match s.ahead k with
    | some c => if c.isDigit then some (c.toNat - '0'.toNat) else none
    | none => none
  if s.checkAt '+' 0 || s.checkAt '-' 0 then
    chomping := if s.checkAt '+' 0 then 1 else -1
    skip
    let s' ← get
    if let some c := s'.ahead 0 then
      if c.isDigit then
        if c == '0' then
          scanError (some "while scanning a block scalar") start
            "found an indentation indicator equal to 0"
        increment := c.toNat - '0'.toNat
        skip
  else if let some d := digitAt 0 then
    if d == 0 then
      scanError (some "while scanning a block scalar") start
        "found an indentation indicator equal to 0"
    increment := d
    skip
    let s' ← get
    if s'.checkAt '+' 0 || s'.checkAt '-' 0 then
      chomping := if s'.checkAt '+' 0 then 1 else -1
      skip
  for _ in [0:(← get).fuel] do
    if (← get).isBlankAt 0 then skip else break
  if (← get).checkAt '#' 0 then
    for _ in [0:(← get).fuel] do
      if (← get).isBreakZAt 0 then break
      skip
  if !(← get).isBreakZAt 0 then
    scanError (some "while scanning a block scalar") start
      "did not find expected comment or line break"
  if (← get).isBreakAt 0 then skipLine
  let mut stop := (← get).mark
  let s ← get
  let mut indent : Nat :=
    if increment != 0 then (if s.indent ≥ 0 then s.indent.toNat + increment else increment) else 0
  let (ind, firstBreaks, stop1) ← blockScalarBreaks indent start
  indent := ind
  let mut trailingBreaks := firstBreaks
  stop := stop1
  let mut text := ""
  let mut leadingBreak := ""
  let mut leadingBlank := false
  for _ in [0:(← get).fuel] do
    let s ← get
    if !(s.mark.column == indent && !s.isEndAt 0) then break
    let trailingBlank := s.isBlankAt 0
    if !literal && leadingBreak.startsWith "\n" && !leadingBlank && !trailingBlank then
      if trailingBreaks.isEmpty then text := text.push ' '
      leadingBreak := ""
    else
      text := text ++ leadingBreak
      leadingBreak := ""
    text := text ++ trailingBreaks
    trailingBreaks := ""
    leadingBlank := s.isBlankAt 0
    for _ in [0:(← get).fuel] do
      if (← get).isBreakZAt 0 then break
      text := text.push (← readChar)
    leadingBreak ← readLine
    let (_, breaks, stop2) ← blockScalarBreaks indent start
    trailingBreaks := breaks
    stop := stop2
  if chomping != -1 then text := text ++ leadingBreak
  if chomping == 1 then text := text ++ trailingBreaks
  enqueue ⟨.scalar text (if literal then .literal else .folded), start, stop⟩

/-- The character a double-quoted escape letter stands for, or the number of hex digits that
    follow it. -/
def escapeOf (c : Char) : Option (Sum Char Nat) :=
  match c with
  | '0' => some (.inl '\x00')
  | 'a' => some (.inl '\x07')
  | 'b' => some (.inl '\x08')
  | 't' => some (.inl '\t')
  | '\t' => some (.inl '\t')
  | 'n' => some (.inl '\n')
  | 'v' => some (.inl '\x0b')
  | 'f' => some (.inl '\x0c')
  | 'r' => some (.inl '\r')
  | 'e' => some (.inl '\x1b')
  | ' ' => some (.inl ' ')
  | '"' => some (.inl '"')
  | '/' => some (.inl '/')
  | '\'' => some (.inl '\'')
  | '\\' => some (.inl '\\')
  | 'N' => some (.inl '\x85')
  | '_' => some (.inl ' ')
  | 'L' => some (.inl ' ')
  | 'P' => some (.inl ' ')
  | 'x' => some (.inr 2)
  | 'u' => some (.inr 4)
  | 'U' => some (.inr 8)
  | _ => none

/-- Joins the blanks between two parts of a flow or plain scalar: a single line break becomes a
    space, more breaks stay as breaks, and blanks on one line stay as they are. -/
def foldBreaks (leadingBlanks : Bool) (leadingBreak trailingBreaks whitespaces : String) :
    String :=
  if leadingBlanks then
    if leadingBreak.startsWith "\n" then
      if trailingBreaks.isEmpty then " " else trailingBreaks
    else leadingBreak ++ trailingBreaks
  else whitespaces

def fetchFlowScalar (single : Bool) : ScanM Unit := do
  saveSimpleKey
  modify fun s => { s with keyAllowed := false }
  let start := (← get).mark
  skip
  let mut text := ""
  let quote := if single then '\'' else '"'
  for _ in [0:(← get).fuel] do
    let s ← get
    if s.atDocumentMarker then
      scanError (some "while scanning a quoted scalar") start "found unexpected document indicator"
    if s.isEndAt 0 then
      scanError (some "while scanning a quoted scalar") start "found unexpected end of stream"
    let mut leadingBlanks := false
    for _ in [0:(← get).fuel] do
      let s ← get
      if s.isBlankZAt 0 then break
      if single && s.checkAt '\'' 0 && s.checkAt '\'' 1 then
        text := text.push '\''
        skip; skip
      else if s.checkAt quote 0 then break
      else if !single && s.checkAt '\\' 0 && s.isBreakAt 1 then
        skip
        skipLine
        leadingBlanks := true
        break
      else if !single && s.checkAt '\\' 0 then
        match (s.ahead 1).bind escapeOf with
        | none =>
          scanError (some "while parsing a quoted scalar") start "found unknown escape character"
        | some (.inl c) =>
          text := text.push c
          skip; skip
        | some (.inr digits) =>
          skip; skip
          let s' ← get
          let mut value := 0
          for k in [0:digits] do
            match (s'.ahead k).bind hexDigitValue? with
            | some d => value := value * 16 + d
            | none =>
              scanError (some "while parsing a quoted scalar") start
                "did not find expected hexdecimal number"
          if (0xD800 ≤ value && value ≤ 0xDFFF) || value > 0x10FFFF then
            scanError (some "while parsing a quoted scalar") start
              "found invalid Unicode character escape code"
          text := text.push (Char.ofNat value)
          for _ in [0:digits] do skip
      else
        text := text.push (← readChar)
    if (← get).checkAt quote 0 then break
    let mut whitespaces := ""
    let mut leadingBreak := ""
    let mut trailingBreaks := ""
    for _ in [0:(← get).fuel] do
      let s ← get
      if s.isBlankAt 0 then
        if !leadingBlanks then whitespaces := whitespaces.push (← readChar) else skip
      else if s.isBreakAt 0 then
        if !leadingBlanks then
          whitespaces := ""
          leadingBreak ← readLine
          leadingBlanks := true
        else trailingBreaks := trailingBreaks ++ (← readLine)
      else break
    text := text ++ foldBreaks leadingBlanks leadingBreak trailingBreaks whitespaces
  skip
  enqueue ⟨.scalar text (if single then .singleQuoted else .doubleQuoted), start, (← get).mark⟩

/-- Whether, inside a flow collection, a `:` stands right before a flow indicator or `?`: a
    plain scalar may not run into such a pair. -/
def colonBeforeIndicator (s : Scanner) : Bool :=
  s.flowLevel != 0 && s.checkAt ':' 0 &&
    (match s.ahead 1 with
     | some c => ",?[]\x7b\x7d".contains c
     | none => false)

/-- Whether a plain scalar ends before the current character: a `: ` pair, or in a flow
    collection a flow indicator. -/
def plainStops (s : Scanner) : Bool :=
  (s.checkAt ':' 0 && s.isBlankZAt 1) ||
  (s.flowLevel != 0 && (match s.ahead 0 with
    | some c => ",[]\x7b\x7d".contains c
    | none => false))

/-- A plain scalar, possibly over several lines when they are indented deeper than the
    enclosing block. -/
def fetchPlainScalar : ScanM Unit := do
  saveSimpleKey
  modify fun s => { s with keyAllowed := false }
  let start := (← get).mark
  let mut stop := start
  let mut text := ""
  let mut leadingBlanks := false
  let mut whitespaces := ""
  let mut leadingBreak := ""
  let mut trailingBreaks := ""
  let indent := (← get).indent + 1
  for _ in [0:(← get).fuel] do
    let s ← get
    if s.atDocumentMarker then break
    if s.checkAt '#' 0 then break
    for _ in [0:(← get).fuel] do
      let s ← get
      if s.isBlankZAt 0 then break
      if colonBeforeIndicator s then
        scanError (some "while scanning a plain scalar") start "found unexpected ':'"
      if plainStops s then break
      if leadingBlanks || !whitespaces.isEmpty then
        text := text ++ foldBreaks leadingBlanks leadingBreak trailingBreaks whitespaces
        leadingBlanks := false
        whitespaces := ""
        leadingBreak := ""
        trailingBreaks := ""
      text := text.push (← readChar)
      stop := (← get).mark
    let s ← get
    if !(s.isBlankAt 0 || s.isBreakAt 0) then break
    for _ in [0:(← get).fuel] do
      let s ← get
      if s.isBlankAt 0 then
        if leadingBlanks && (s.mark.column : Int) < indent && s.checkAt '\t' 0 then
          scanError (some "while scanning a plain scalar") start
            "found a tab character that violates indentation"
        if !leadingBlanks then whitespaces := whitespaces.push (← readChar) else skip
      else if s.isBreakAt 0 then
        if !leadingBlanks then
          whitespaces := ""
          leadingBreak ← readLine
          leadingBlanks := true
        else trailingBreaks := trailingBreaks ++ (← readLine)
      else break
    let s ← get
    if s.flowLevel == 0 && (s.mark.column : Int) < indent then break
  enqueue ⟨.scalar text .plain, start, stop⟩
  if leadingBlanks then modify fun s => { s with keyAllowed := true }

def fetchNextToken : ScanM Unit := do
  if !(← get).started then
    fetchStreamStart
    return
  scanToNextToken
  staleSimpleKeys
  unrollIndent (← get).mark.column
  let s ← get
  if s.isEndAt 0 then fetchStreamEnd
  else if s.mark.column == 0 && s.checkAt '%' 0 then fetchDirective
  else if s.mark.column == 0 && s.checkAt '-' 0 && s.checkAt '-' 1 && s.checkAt '-' 2 &&
      s.isBlankZAt 3 then fetchDocumentIndicator .documentStart
  else if s.mark.column == 0 && s.checkAt '.' 0 && s.checkAt '.' 1 && s.checkAt '.' 2 &&
      s.isBlankZAt 3 then fetchDocumentIndicator .documentEnd
  else if s.checkAt '[' 0 then fetchFlowCollectionStart .flowSequenceStart
  else if s.checkAt '{' 0 then fetchFlowCollectionStart .flowMappingStart
  else if s.checkAt ']' 0 then fetchFlowCollectionEnd .flowSequenceEnd
  else if s.checkAt '}' 0 then fetchFlowCollectionEnd .flowMappingEnd
  else if s.checkAt ',' 0 then fetchFlowEntry
  else if s.checkAt '-' 0 && s.isBlankZAt 1 then fetchBlockEntry
  else if s.checkAt '?' 0 && (s.flowLevel != 0 || s.isBlankZAt 1) then fetchKey
  else if s.checkAt ':' 0 && (s.flowLevel != 0 || s.isBlankZAt 1) then fetchValue
  else if s.checkAt '*' 0 then fetchAnchor true
  else if s.checkAt '&' 0 then fetchAnchor false
  else if s.checkAt '!' 0 then fetchTag
  else if s.checkAt '|' 0 && s.flowLevel == 0 then fetchBlockScalar true
  else if s.checkAt '>' 0 && s.flowLevel == 0 then fetchBlockScalar false
  else if s.checkAt '\'' 0 then fetchFlowScalar true
  else if s.checkAt '"' 0 then fetchFlowScalar false
  else
    let c := (s.ahead 0).getD ' '
    let indicator := "-?:,[]\x7b\x7d#&*!|>'\"%@`".contains c
    if !(s.isBlankZAt 0 || indicator) ||
        (s.checkAt '-' 0 && !s.isBlankAt 1) ||
        (s.flowLevel == 0 && (s.checkAt '?' 0 || s.checkAt ':' 0) && !s.isBlankZAt 1) then
      fetchPlainScalar
    else
      scanError (some "while scanning for the next token") s.mark
        "found character that cannot start any token"

def fetchMoreTokens : ScanM Unit := do
  for _ in [0:(← get).fuel + 8] do
    let s ← get
    let needMore ← if s.queue.isEmpty then pure true else do
      staleSimpleKeys
      let s ← get
      pure (s.keys.any fun k => k.possible && k.tokenNumber == s.parsed)
    if !needMore then break
    fetchNextToken

def peekToken : ScanM Token := do
  fetchMoreTokens
  match (← get).queue with
  | t :: _ => pure t
  | [] => pure ⟨.streamEnd, (← get).mark, (← get).mark⟩

def skipToken : ScanM Unit := modify fun s =>
  { s with queue := s.queue.tail, parsed := s.parsed + 1 }

def isAllowedChar (c : Char) : Bool :=
  let n := c.toNat
  n == 0x09 || n == 0x0A || n == 0x0D || (0x20 ≤ n && n ≤ 0x7E) || n == 0x85 ||
    (0xA0 ≤ n && n ≤ 0xD7FF) || (0xE000 ≤ n && n ≤ 0xFFFD) || 0x10000 ≤ n

/-- A scanner over a text, or the error for a character that may not appear in it. A byte
    order mark stays in the text: the scanner passes over one at the start of a line, where it
    takes up a column. -/
def Scanner.ofText (text : String) : Except SyntaxError Scanner :=
  let chars := text.toList
  let rec firstBad : List Char → Nat → Option Nat
    | [], _ => none
    | c :: rest, off => if isAllowedChar c then firstBad rest (off + c.utf8Size) else some off
  match firstBad chars 0 with
  | some off => .error { problem := "control characters are not allowed", offset := off }
  | none => .ok { input := chars.toArray }

end RequestFirewall.Yaml

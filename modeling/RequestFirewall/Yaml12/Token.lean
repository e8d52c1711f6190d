import RequestFirewall.Yaml.Token
/- The scanner of the YAML 1.2 reader used for settings files. It cuts a text into the same
   tokens as the YAML 1.1 scanner, with stricter rules on blanks and plain scalars.

   Only line feed and carriage return break lines; a NUL character ends the text. Marks count
   characters, and lines from one. Block structure comes from indentation; after a block
   mapping's `:` or a block sequence's `-` that ends its line, the indentation is raised by
   one column on trial, and that trial step closes no block. A tab may not indent content:
   a line whose indentation holds a tab may only be blank. A comment must follow a blank
   wherever blanks are skipped up to the end of a line. A key without `?` must stay on one
   line and within 1024 characters outside flow collections; inside them it may run on.
   Flow collections nest at most 255 deep. A quoted scalar may be followed on its line only
   by a comment, a flow indicator inside a flow collection, or the `:` of a key; and after
   `...` only a comment may follow. -/
namespace RequestFirewall.Yaml12

open Yaml (Mark Token TokenKind ScalarStyle SimpleKey)

structure Fault where
  info : String
  mark : Mark
  deriving Repr, Inhabited

def Fault.message (f : Fault) : String :=
  f.info ++ " at byte " ++ Nat.repr f.mark.index ++ " line " ++ Nat.repr (f.mark.line + 1) ++
    " column " ++ Nat.repr (f.mark.column + 1)

/-- A block indentation in force: the column to return to when it closes, and whether it was
    opened by a block collection (a trial step of one column is not). -/
structure Indent where
  column : Int
  closesBlock : Bool

structure Scanner where
  input : Array Char
  mark : Mark := {}
  queue : List Token := []
  parsed : Nat := 0
  indent : Int := -1
  indents : List Indent := []
  keyAllowed : Bool := false
  keys : List SimpleKey := []
  flowLevel : Nat := 0
  started : Bool := false
  ended : Bool := false
  leadingWhitespace : Bool := true
  adjacentValueAt : Nat := 0

abbrev ScanM := StateT Scanner (Except Fault)

def isEnd (c : Char) : Bool := c == '\x00'

def isBreak (c : Char) : Bool := c == '\n' || c == '\r'

def isBreakZ (c : Char) : Bool := isBreak c || isEnd c

def isBlank (c : Char) : Bool := c == ' ' || c == '\t'

def isBlankZ (c : Char) : Bool := isBlank c || isBreakZ c

def isFlow (c : Char) : Bool := c == ',' || c == '[' || c == ']' || c == '{' || c == '}'

def isAlpha (c : Char) : Bool :=
  ('0' ≤ c && c ≤ '9') || ('a' ≤ c && c ≤ 'z') || ('A' ≤ c && c ≤ 'Z') || c == '_' || c == '-'

def isUriChar (c : Char) : Bool :=
  isAlpha c || "#;/?:@&=+$,_.!~*'()[]%".contains c

def isTagChar (c : Char) : Bool := isUriChar c && !isFlow c && c != '!'

/-- Characters of anchor names: anything but a blank, a break, a flow indicator or the end;
    whether the character prints does not matter. -/
def isAnchorChar (c : Char) : Bool :=
  !isBlank c && !isBreak c && !isFlow c && !isEnd c

def hexValue (c : Char) : Option Nat := Yaml.hexDigitValue? c

namespace Scanner

def ch (s : Scanner) (k : Nat) : Char := (s.input[s.mark.index + k]?).getD '\x00'

def fuel (s : Scanner) : Nat := s.input.size + 2

def atDocumentIndicator (s : Scanner) : Bool :=
  s.mark.column == 0 &&
    ((s.ch 0 == '-' && s.ch 1 == '-' && s.ch 2 == '-') ||
     (s.ch 0 == '.' && s.ch 1 == '.' && s.ch 2 == '.')) && isBlankZ (s.ch 3)

/-- Whether the character here may go on in a plain scalar: not a `:` before a blank (or,
    in a flow collection, before a flow indicator), and in a flow collection not a flow
    indicator. -/
def plainGoesOn (s : Scanner) : Bool :=
  let c := s.ch 0
  let inFlow := s.flowLevel != 0
  !((c == ':' && (isBlankZ (s.ch 1) || (inFlow && isFlow (s.ch 1)))) || (inFlow && isFlow c))

end Scanner

def fail {α : Type} (mark : Mark) (info : String) : ScanM α := throw ⟨info, mark⟩

def here : ScanM Mark := do pure (← get).mark

def cur : ScanM Char := do pure ((← get).ch 0)

def skipBlank : ScanM Unit := modify fun s =>
  { s with mark := { s.mark with index := s.mark.index + 1, column := s.mark.column + 1 } }

def skipNonBlank : ScanM Unit := modify fun s =>
  { s with mark := { s.mark with index := s.mark.index + 1, column := s.mark.column + 1 },
           leadingWhitespace := false }

def skipNewline : ScanM Unit := modify fun s =>
  { s with mark := { index := s.mark.index + 1, line := s.mark.line + 1, column := 0 },
           leadingWhitespace := true }

def skipLinebreak : ScanM Unit := do
  let s ← get
  if s.ch 0 == '\r' && s.ch 1 == '\n' then
    skipBlank
    skipNewline
  else if isBreak (s.ch 0) then skipNewline

def readBreak : ScanM String := do
  skipLinebreak
  pure "\n"

def passComment : ScanM Unit := do
  for _ in [0:(← get).fuel] do
    if isBreakZ (← cur) then break
    skipBlank

/-- Moves over blanks and a comment up to the end of the line; tabs only when `tabs`. A
    comment must follow a blank. Returns whether a tab and whether a space was passed. -/
def skipWsToEol (tabs : Bool) : ScanM (Bool × Bool) := do
  let mut tab := false
  let mut space := false
  for _ in [0:(← get).fuel] do
    let c ← cur
    if c == ' ' then
      space := true
      skipBlank
    else if c == '\t' && tabs then
      tab := true
      skipBlank
    else if c == '#' then
      if !tab && !space then
        fail (← here) "comments must be separated from other tokens by whitespace"
      for _ in [0:(← get).fuel] do
        if isBreakZ (← cur) then break
        skipNonBlank
    else break
  pure (tab, space)

def allowSimpleKey : ScanM Unit := modify fun s => { s with keyAllowed := true }

def disallowSimpleKey : ScanM Unit := modify fun s => { s with keyAllowed := false }

def enqueue (t : Token) : ScanM Unit := modify fun s => { s with queue := s.queue ++ [t] }

def insertAt (pos : Nat) (t : Token) : ScanM Unit := modify fun s =>
  { s with queue := s.queue.take pos ++ [t] ++ s.queue.drop pos }

def topKey : ScanM SimpleKey := do pure ((← get).keys.head?.getD {})

def setTopKey (k : SimpleKey) : ScanM Unit := modify fun s =>
  { s with keys := match s.keys with
    | [] => [k]
    | _ :: rest => k :: rest }

def removeSimpleKey : ScanM Unit := do
  let k ← topKey
  if k.possible && k.required then fail (← here) "simple key expected"
  setTopKey { k with possible := false }

/-- Remembers that a simple key may start here, if keys are allowed here. It is required
    at the indentation of a block collection. -/
def saveSimpleKey : ScanM Unit := do
  let s ← get
  if s.keyAllowed then
    let required := s.flowLevel == 0 && s.indent == (s.mark.column : Int) &&
      (s.indents.head?.map (·.closesBlock)).getD false
    setTopKey { possible := true, required, tokenNumber := s.parsed + s.queue.length, mark := s.mark }

/-- Drops possible simple keys outside flow collections that can no longer be keys: they
    started on an earlier line or more than 1024 characters back. A required one is an
    error. -/
def staleSimpleKeys : ScanM Unit := do
  let s ← get
  let check (k : SimpleKey) : Except Fault SimpleKey :=
    if k.possible && s.flowLevel == 0 &&
        (k.mark.line < s.mark.line || k.mark.index + 1024 < s.mark.index) then
      if k.required then .error ⟨"simple key expect ':'", s.mark⟩
      else .ok { k with possible := false }
    else .ok k
  match s.keys.reverse.mapM check with
  | .ok keys => set { s with keys := keys.reverse }
  | .error e => throw e

def unrollIndent (column : Int) : ScanM Unit := do
  if (← get).flowLevel != 0 then return
  for _ in [0:(← get).indents.length + 1] do
    let s ← get
    if s.indent > column then
      match s.indents with
      | top :: rest =>
        set { s with indent := top.column, indents := rest }
        if top.closesBlock then enqueue ⟨.blockEnd, s.mark, s.mark⟩
      | [] => set { s with indent := -1 }
    else break

def unrollTrialIndents : ScanM Unit := do
  for _ in [0:(← get).indents.length + 1] do
    let s ← get
    match s.indents with
    | top :: rest =>
      if top.closesBlock then break
      set { s with indent := top.column, indents := rest }
    | [] => break

/-- Opens a block collection at `column` if it is deeper than the indentation in force, after
    dropping a trial step there; the start token goes at the end of the queue, or where a
    simple key began. -/
def rollIndent (column : Int) (number : Option Nat) (kind : TokenKind) (mark : Mark) :
    ScanM Unit := do
  let s ← get
  if s.flowLevel != 0 then return
  if s.indent ≤ column then
    match s.indents with
    | top :: rest => if !top.closesBlock then set { s with indent := top.column, indents := rest }
    | [] => pure ()
  let s ← get
  if s.indent < column then
    set { s with indents := ⟨s.indent, true⟩ :: s.indents, indent := column }
    let t : Token := ⟨kind, mark, mark⟩
    match number with
    | none => enqueue t
    | some n => insertAt (n - s.parsed) t

/-- Raises the indentation by one column on trial, right after a block collection's own
    indentation. -/
def rollOneColumn : ScanM Unit := modify fun s =>
  if s.flowLevel == 0 && (s.indents.head?.map (·.closesBlock)).getD false then
    { s with indents := ⟨s.indent, false⟩ :: s.indents, indent := s.indent + 1 }
  else s

def increaseFlowLevel : ScanM Unit := do
  modify fun s => { s with keys := {} :: s.keys }
  let s ← get
  if s.flowLevel + 1 > 255 then fail s.mark "recursion limit exceeded"
  set { s with flowLevel := s.flowLevel + 1 }

def decreaseFlowLevel : ScanM Unit := modify fun s =>
  if s.flowLevel != 0 then { s with keys := s.keys.tail, flowLevel := s.flowLevel - 1 } else s

/-- Skips blanks, comments and line breaks up to the next token. A tab on a line's
    indentation inside a block is only allowed on a line with nothing else. -/
def skipToNextToken : ScanM Unit := do
  for _ in [0:(← get).fuel] do
    let s ← get
    let c := s.ch 0
    if c == '\t' && !s.indents.isEmpty && s.leadingWhitespace && (s.mark.column : Int) < s.indent then
      let _ ← skipWsToEol true
      if !isBreakZ (← cur) then
        fail (← here) "tabs disallowed within this context (block indentation)"
    else if isBlank c then skipBlank
    else if isBreak c then
      skipLinebreak
      if (← get).flowLevel == 0 then allowSimpleKey
    else if c == '#' then passComment
    else break

def fetchStreamStart : ScanM Unit := do
  modify fun s => { s with indent := -1, keyAllowed := true, started := true, keys := [{}] }
  let s ← get
  enqueue ⟨.streamStart, s.mark, s.mark⟩

/-- The end of the stream: a last line is ended, a required key is an error, and all blocks
    are closed. -/
def fetchStreamEnd : ScanM Unit := do
  let s ← get
  if s.mark.column != 0 then
    set { s with mark := { s.mark with column := 0, line := s.mark.line + 1 } }
  let s ← get
  if s.keys.any fun k => k.required && k.possible then fail s.mark "simple key expected"
  set { s with keys := s.keys.map fun (k : SimpleKey) => { k with possible := false } }
  unrollIndent (-1)
  removeSimpleKey
  disallowSimpleKey
  let s ← get
  enqueue ⟨.streamEnd, s.mark, s.mark⟩
  modify fun s => { s with ended := true }

def readAlpha : ScanM String := do
  let mut out := ""
  for _ in [0:(← get).fuel] do
    let c ← cur
    if isAlpha c then
      out := out.push c
      skipNonBlank
    else break
  pure out

def scanVersionNumber (start : Mark) : ScanM Nat := do
  let mut value := 0
  let mut length := 0
  for _ in [0:(← get).fuel] do
    let c ← cur
    if c.isDigit then
      if length + 1 > 9 then
        fail start "while scanning a YAML directive, found extremely long version number"
      length := length + 1
      value := value * 10 + (c.toNat - '0'.toNat)
      skipNonBlank
    else break
  if length == 0 then
    fail start "while scanning a YAML directive, did not find expected version number"
  pure value

def scanTagHandle (directive : Bool) (start : Mark) : ScanM String := do
  if (← cur) != '!' then fail start "while scanning a tag, did not find expected '!'"
  skipNonBlank
  let mut handle := "!" ++ (← readAlpha)
  if (← cur) == '!' then
    skipNonBlank
    handle := handle ++ "!"
  else if directive && handle != "!" then
    fail start "while parsing a tag directive, did not find expected '!'"
  pure handle

/-- One character written as `%XX` escapes: the leading octet tells how many follow; the
    octets are joined as one number, which must be a character. -/
def scanUriEscapes (start : Mark) : ScanM Char := do
  let mut width := 0
  let mut code := 0
  for _ in [0:4] do
    let s ← get
    let octet? := match hexValue (s.ch 1), hexValue (s.ch 2) with
      | some hi, some lo => if s.ch 0 == '%' then some (hi * 16 + lo) else none
      | _, _ => none
    match octet? with
    | none => fail start "while parsing a tag, did not find URI escaped octet"
    | some o =>
      if width == 0 then
        width := Yaml.utf8Width o
        if width == 0 then fail start "while parsing a tag, found an incorrect leading UTF-8 octet"
        code := o
      else
        if o / 64 != 2 then fail start "while parsing a tag, found an incorrect trailing UTF-8 octet"
        code := code * 256 + o
      skipNonBlank; skipNonBlank; skipNonBlank
      width := width - 1
      if width == 0 then break
  if code > 0x10FFFF || (0xD800 ≤ code && code ≤ 0xDFFF) then
    fail start "while parsing a tag, found an invalid UTF-8 codepoint"
  pure (Char.ofNat code)

def scanUriRun (accept : Char → Bool) (start : Mark) (init : String) : ScanM (String × Nat) := do
  let mut out := init
  let mut length := 0
  for _ in [0:(← get).fuel] do
    let c ← cur
    if !accept c then break
    if c == '%' then out := out.push (← scanUriEscapes start)
    else
      out := out.push c
      skipNonBlank
    length := length + 1
  pure (out, length)

def scanTagPrefix (start : Mark) : ScanM String := do
  let c ← cur
  let first ← if c == '!' then do
      skipNonBlank
      pure "!"
    else if !isTagChar c then fail start "invalid global tag character"
    else if c == '%' then do pure (String.singleton (← scanUriEscapes start))
    else do
      skipNonBlank
      pure (String.singleton c)
  pure (← scanUriRun isUriChar start first).1

def fetchDirective : ScanM Unit := do
  unrollIndent (-1)
  removeSimpleKey
  disallowSimpleKey
  let start ← here
  skipNonBlank
  let nameStart ← here
  let name ← readAlpha
  if name.isEmpty then
    fail nameStart "while scanning a directive, could not find expected directive name"
  if !isBlankZ (← cur) then
    fail nameStart "while scanning a directive, found unexpected non-alphabetical character"
  let skipBlanks : ScanM Unit := do
    for _ in [0:(← get).fuel] do
      if isBlank (← cur) then skipBlank else break
  let kind ← if name == "YAML" then do
      skipBlanks
      let major ← scanVersionNumber start
      if (← cur) != '.' then
        fail start "while scanning a YAML directive, did not find expected digit or '.' character"
      skipNonBlank
      let minor ← scanVersionNumber start
      pure (TokenKind.versionDirective major minor)
    else if name == "TAG" then do
      skipBlanks
      let handle ← scanTagHandle true start
      skipBlanks
      let pfx ← scanTagPrefix start
      if !isBlankZ (← cur) then
        fail start "while scanning TAG, did not find expected whitespace or line break"
      pure (TokenKind.tagDirective handle pfx)
    else do
      for _ in [0:(← get).fuel] do
        if isBreakZ (← cur) then break
        skipNonBlank
      pure (TokenKind.tagDirective "" "")
  let _ ← skipWsToEol true
  if !isBreakZ (← cur) then
    fail start "while scanning a directive, did not find expected comment or line break"
  skipLinebreak
  enqueue ⟨kind, start, start⟩

def fetchDocumentIndicator (kind : TokenKind) : ScanM Unit := do
  unrollIndent (-1)
  removeSimpleKey
  disallowSimpleKey
  let start ← here
  skipNonBlank; skipNonBlank; skipNonBlank
  enqueue ⟨kind, start, start⟩
  if let .documentEnd := kind then
    let _ ← skipWsToEol true
    if !isBreakZ (← cur) then fail (← here) "invalid content after document end marker"

def fetchFlowCollectionStart (kind : TokenKind) : ScanM Unit := do
  saveSimpleKey
  rollOneColumn
  increaseFlowLevel
  allowSimpleKey
  let start ← here
  skipNonBlank
  let _ ← skipWsToEol true
  enqueue ⟨kind, start, start⟩

def fetchFlowCollectionEnd (kind : TokenKind) : ScanM Unit := do
  removeSimpleKey
  decreaseFlowLevel
  disallowSimpleKey
  let start ← here
  skipNonBlank
  let _ ← skipWsToEol true
  let s ← get
  if s.flowLevel != 0 then set { s with adjacentValueAt := s.mark.index }
  enqueue ⟨kind, start, start⟩

def fetchFlowEntry : ScanM Unit := do
  removeSimpleKey
  allowSimpleKey
  let start ← here
  skipNonBlank
  let _ ← skipWsToEol true
  enqueue ⟨.flowEntry, start, start⟩

def fetchBlockEntry : ScanM Unit := do
  let s ← get
  if s.flowLevel != 0 then fail s.mark "\"-\" is only valid inside a block"
  if !s.keyAllowed then fail s.mark "block sequence entries are not allowed in this context"
  if let some t := s.queue.getLast? then
    match t.kind with
    | .anchor _ | .tag _ _ =>
      if s.mark.column == 0 && t.start.column == 0 && s.indent > -1 then
        fail t.start "invalid indentation for anchor"
    | _ => pure ()
  let start ← here
  skipNonBlank
  rollIndent start.column none .blockSequenceStart start
  let (tab, _) ← skipWsToEol true
  let s ← get
  if tab && s.ch 0 == '-' && isBlankZ (s.ch 1) then
    fail s.mark "'-' must be followed by a valid YAML whitespace"
  let _ ← skipWsToEol false
  let c ← cur
  if isBreak c || isFlow c then rollOneColumn
  removeSimpleKey
  allowSimpleKey
  enqueue ⟨.blockEntry, start, start⟩

def skipYamlWhitespace : ScanM Unit := do
  let mut needed := true
  for _ in [0:(← get).fuel] do
    let c ← cur
    if c == ' ' then
      skipBlank
      needed := false
    else if isBreak c then
      skipLinebreak
      if (← get).flowLevel == 0 then allowSimpleKey
      needed := false
    else if c == '#' then passComment
    else break
  if needed then fail (← here) "expected whitespace"

def fetchKey : ScanM Unit := do
  let start ← here
  let s ← get
  if s.flowLevel == 0 then
    if !s.keyAllowed then fail s.mark "mapping keys are not allowed in this context"
    rollIndent start.column none .blockMappingStart start
  removeSimpleKey
  if (← get).flowLevel == 0 then allowSimpleKey else disallowSimpleKey
  skipNonBlank
  skipYamlWhitespace
  if (← cur) == '\t' then fail (← here) "tabs disallowed in this context"
  enqueue ⟨.key, start, start⟩

def fetchValue : ScanM Unit := do
  let k ← topKey
  let start ← here
  skipNonBlank
  if (← cur) == '\t' then
    let (_, space) ← skipWsToEol true
    let c ← cur
    if !space && (c == '-' || isAlpha c) then
      fail (← here) "':' must be followed by a valid YAML whitespace"
  if k.possible then
    let s ← get
    insertAt (k.tokenNumber - s.parsed) ⟨.key, k.mark, k.mark⟩
    rollIndent k.mark.column (some k.tokenNumber) .blockMappingStart start
    rollOneColumn
    setTopKey { k with possible := false }
    disallowSimpleKey
  else
    let s ← get
    if s.flowLevel == 0 then
      if !s.keyAllowed then fail start "mapping values are not allowed in this context"
      rollIndent start.column none .blockMappingStart start
    rollOneColumn
    if (← get).flowLevel == 0 then allowSimpleKey else disallowSimpleKey
  enqueue ⟨.value, start, start⟩

/-- `:` inside a flow collection, not followed by a blank: it may not come right before `[`
    or `{` unless a flow key ended right there. -/
def fetchFlowValue : ScanM Unit := do
  let s ← get
  let next := s.ch 1
  if s.mark.index != s.adjacentValueAt && (next == '[' || next == '{') then
    fail s.mark "':' may not precede any of `[\x7b` in flow mapping"
  fetchValue

def fetchAnchor (isAlias : Bool) : ScanM Unit := do
  saveSimpleKey
  disallowSimpleKey
  let start ← here
  skipNonBlank
  let mut name := ""
  for _ in [0:(← get).fuel] do
    let c ← cur
    if isAnchorChar c then
      name := name.push c
      skipNonBlank
    else break
  if name.isEmpty then
    fail start
      "while scanning an anchor or alias, did not find expected alphabetic or numeric character"
  enqueue ⟨if isAlias then .alias name else .anchor name, start, start⟩

def fetchTag : ScanM Unit := do
  saveSimpleKey
  disallowSimpleKey
  let start ← here
  let (handle, suffix) ← if (← get).ch 1 == '<' then do
      skipNonBlank; skipNonBlank
      let (suffix, _) ← scanUriRun isUriChar start ""
      if (← cur) != '>' then
        fail start "while scanning a verbatim tag, did not find the expected '>'"
      skipNonBlank
      pure ("", suffix)
    else do
      let handle ← scanTagHandle false start
      if handle.length ≥ 2 && handle.endsWith "!" then
        let (suffix, length) ← scanUriRun isTagChar start ""
        if length == 0 then fail start "while parsing a tag, did not find expected tag URI"
        pure (handle, suffix)
      else
        let (suffix, length) ← scanUriRun isTagChar start (handle.drop 1).toString
        if handle.length + length == 0 then
          fail start "while parsing a tag, did not find expected tag URI"
        if suffix.isEmpty then pure ("", "!") else pure ("!", suffix)
  let s ← get
  if !(isBlankZ (s.ch 0) || (s.flowLevel != 0 && isFlow (s.ch 0))) then
    fail start "while scanning a tag, did not find expected whitespace or line break"
  enqueue ⟨.tag handle suffix, start, start⟩

def blockScalarIndent (indent : Nat) : ScanM String := do
  let mut breaks := ""
  for _ in [0:(← get).fuel] do
    for _ in [0:(← get).fuel] do
      let s ← get
      if s.mark.column < indent && s.ch 0 == ' ' then skipBlank else break
    if isBreak (← cur) then breaks := breaks ++ (← readBreak) else break
  pure breaks

/-- Indentation spaces and empty lines before a block scalar's first content line; the
    indentation is the deepest such line's, at least one more than the block's. -/
def blockScalarFirstIndent : ScanM (Nat × String) := do
  let mut maxIndent := 0
  let mut breaks := ""
  for _ in [0:(← get).fuel] do
    for _ in [0:(← get).fuel] do
      if (← cur) == ' ' then skipBlank else break
    let column := (← get).mark.column
    if column > maxIndent then maxIndent := column
    if isBreak (← cur) then breaks := breaks ++ (← readBreak) else break
  let s ← get
  pure (Nat.max maxIndent (s.indent + 1).toNat, breaks)

def fetchBlockScalar (literal : Bool) : ScanM Unit := do
  saveSimpleKey
  allowSimpleKey
  let start ← here
  skipNonBlank
  unrollTrialIndents
  let mut chomping : Int := 0
  let mut increment := 0
  let c ← cur
  if c == '+' || c == '-' then
    chomping := if c == '+' then 1 else -1
    skipNonBlank
    let d ← cur
    if d.isDigit then
      if d == '0' then
        fail start "while scanning a block scalar, found an indentation indicator equal to 0"
      increment := d.toNat - '0'.toNat
      skipNonBlank
  else if c.isDigit then
    if c == '0' then
      fail start "while scanning a block scalar, found an indentation indicator equal to 0"
    increment := c.toNat - '0'.toNat
    skipNonBlank
    let d ← cur
    if d == '+' || d == '-' then
      chomping := if d == '+' then 1 else -1
      skipNonBlank
  let _ ← skipWsToEol true
  if !isBreakZ (← cur) then
    fail start "while scanning a block scalar, did not find expected comment or line break"
  let mut chompingBreak := ""
  if isBreak (← cur) then chompingBreak ← readBreak
  if (← cur) == '\t' then fail start "a block scalar content cannot start with a tab"
  let s ← get
  let mut indent : Nat :=
    if increment != 0 then (if s.indent ≥ 0 then s.indent.toNat + increment else increment) else 0
  let mut trailingBreaks := ""
  if indent == 0 then
    let (i, breaks) ← blockScalarFirstIndent
    indent := i
    trailingBreaks := breaks
  else trailingBreaks ← blockScalarIndent indent
  let s ← get
  let style := if literal then ScalarStyle.literal else ScalarStyle.folded
  if isEnd (s.ch 0) then
    let contents :=
      if chomping == -1 then ""
      else if s.mark.line == start.line then ""
      else if chomping == 0 then chompingBreak
      else if trailingBreaks.isEmpty then chompingBreak
      else trailingBreaks
    enqueue ⟨.scalar contents style, start, start⟩
    return
  if s.mark.column < indent && (s.mark.column : Int) > s.indent then
    fail s.mark "wrongly indented line in block scalar"
  let mut text := ""
  let mut leadingBreak := ""
  let mut leadingBlank := false
  for _ in [0:(← get).fuel] do
    let s ← get
    if !(s.mark.column == indent && !isEnd (s.ch 0)) then break
    if indent == 0 && s.atDocumentIndicator then break
    let trailingBlank := isBlank (s.ch 0)
    if !literal && !leadingBreak.isEmpty && !leadingBlank && !trailingBlank then
      text := text ++ trailingBreaks
      if trailingBreaks.isEmpty then text := text.push ' '
    else
      text := text ++ leadingBreak ++ trailingBreaks
    leadingBreak := ""
    trailingBreaks := ""
    leadingBlank := isBlank (s.ch 0)
    for _ in [0:(← get).fuel] do
      let c ← cur
      if isBreakZ c then break
      text := text.push c
      skipNonBlank
    if isEnd (← cur) then break
    leadingBreak ← readBreak
    trailingBreaks ← blockScalarIndent indent
  let s ← get
  if chomping != -1 then
    text := text ++ leadingBreak
    if isEnd (s.ch 0) && s.mark.column != 0 then text := text.push '\n'
  if chomping == 1 then text := text ++ trailingBreaks
  enqueue ⟨.scalar text style, start, start⟩

/-- The text of a quoted scalar up to the next blank, break, or closing quote. Returns whether
    an escaped line break ended it. -/
def flowScalarChars (single : Bool) (start : Mark) (text : String) : ScanM (String × Bool) := do
  let mut out := text
  let quote := if single then '\'' else '"'
  for _ in [0:(← get).fuel] do
    let s ← get
    let c := s.ch 0
    if isBlankZ c then break
    if single && c == '\'' && s.ch 1 == '\'' then
      out := out.push '\''
      skipNonBlank; skipNonBlank
    else if c == quote then break
    else if !single && c == '\\' && isBreak (s.ch 1) then
      skipNonBlank
      skipLinebreak
      return (out, true)
    else if !single && c == '\\' then
      match Yaml.escapeOf (s.ch 1) with
      | none => fail start "while parsing a quoted scalar, found unknown escape character"
      | some (.inl e) =>
        out := out.push e
        skipNonBlank; skipNonBlank
      | some (.inr digits) =>
        skipNonBlank; skipNonBlank
        let s' ← get
        let mut value := 0
        for k in [0:digits] do
          match hexValue (s'.ch k) with
          | some d => value := value * 16 + d
          | none =>
            fail start "while parsing a quoted scalar, did not find expected hexadecimal number"
        if (0xD800 ≤ value && value ≤ 0xDFFF) || value > 0x10FFFF then
          fail start "while parsing a quoted scalar, found invalid Unicode character escape code"
        out := out.push (Char.ofNat value)
        for _ in [0:digits] do skipNonBlank
    else
      out := out.push c
      skipNonBlank
  pure (out, false)

/-- A single- or double-quoted scalar; only a comment, a flow indicator inside a flow
    collection, or the `:` of a key may follow it on its line. -/
def fetchFlowScalar (single : Bool) : ScanM Unit := do
  saveSimpleKey
  disallowSimpleKey
  let start ← here
  skipNonBlank
  let mut text := ""
  let quote := if single then '\'' else '"'
  for _ in [0:(← get).fuel] do
    let s ← get
    if s.atDocumentIndicator then
      fail start "while scanning a quoted scalar, found unexpected document indicator"
    if isEnd (s.ch 0) then
      fail start "while scanning a quoted scalar, found unexpected end of stream"
    if (s.mark.column : Int) < s.indent then fail start "invalid indentation in quoted scalar"
    let (t, escapedBreak) ← flowScalarChars single start text
    text := t
    let mut leadingBlanks := escapedBreak
    if (← cur) == quote then break
    let mut whitespaces := ""
    let mut leadingBreak := ""
    let mut trailingBreaks := ""
    for _ in [0:(← get).fuel] do
      let s ← get
      let c := s.ch 0
      if isBlank c then
        if leadingBlanks then
          if c == '\t' && (s.mark.column : Int) < s.indent then
            fail s.mark "tab cannot be used as indentation"
          skipBlank
        else
          whitespaces := whitespaces.push c
          skipBlank
      else if isBreak c then
        if leadingBlanks then trailingBreaks := trailingBreaks ++ (← readBreak)
        else
          whitespaces := ""
          leadingBreak ← readBreak
          leadingBlanks := true
      else break
    if leadingBlanks then
      if leadingBreak.isEmpty then text := text ++ trailingBreaks
      else if trailingBreaks.isEmpty then text := text.push ' '
      else text := text ++ trailingBreaks
    else text := text ++ whitespaces
  skipNonBlank
  let _ ← skipWsToEol true
  let s ← get
  let c := s.ch 0
  let fine :=
    (isFlow c && c != '[' && c != '{' && s.flowLevel != 0) || isBreakZ c ||
      (c == ':' && (s.flowLevel != 0 || start.line == s.mark.line))
  if !fine then fail s.mark "invalid trailing content after double-quoted scalar"
  skipToNextToken
  modify fun s => { s with adjacentValueAt := s.mark.index }
  enqueue ⟨.scalar text (if single then .singleQuoted else .doubleQuoted), start, start⟩

/-- A plain scalar, possibly over several lines when they are indented deeper than the
    enclosing block. -/
def fetchPlainScalar : ScanM Unit := do
  saveSimpleKey
  disallowSimpleKey
  unrollTrialIndents
  let s ← get
  let indent := s.indent + 1
  let start := s.mark
  if s.flowLevel != 0 && (start.column : Int) < indent then
    fail start "invalid indentation in flow construct"
  let mut text := ""
  let mut whitespaces := ""
  let mut leadingBreak := ""
  let mut trailingBreaks := ""
  for _ in [0:(← get).fuel] do
    let s ← get
    if s.atDocumentIndicator then break
    if s.ch 0 == '#' then break
    if !isBlankZ (s.ch 0) && s.plainGoesOn then
      if s.leadingWhitespace then
        if leadingBreak.isEmpty then text := text ++ trailingBreaks
        else if trailingBreaks.isEmpty then text := text.push ' '
        else text := text ++ trailingBreaks
        leadingBreak := ""
        trailingBreaks := ""
        modify fun s => { s with leadingWhitespace := false }
      else
        text := text ++ whitespaces
        whitespaces := ""
      for _ in [0:(← get).fuel] do
        let s ← get
        if isBlankZ (s.ch 0) || !s.plainGoesOn then break
        text := text.push (s.ch 0)
        skipNonBlank
    let c ← cur
    if !(isBlank c || isBreak c) then break
    for _ in [0:(← get).fuel] do
      let s ← get
      let c := s.ch 0
      if isBlank c then
        if !s.leadingWhitespace then
          whitespaces := whitespaces.push c
          skipBlank
        else if (s.mark.column : Int) < indent && c == '\t' then
          let _ ← skipWsToEol true
          if !isBreakZ (← cur) then fail start "while scanning a plain scalar, found a tab"
        else skipBlank
      else if isBreak c then
        if s.leadingWhitespace then
          skipLinebreak
          trailingBreaks := trailingBreaks.push '\n'
        else
          whitespaces := ""
          skipLinebreak
          leadingBreak := leadingBreak.push '\n'
      else break
    let s ← get
    if s.flowLevel == 0 && (s.mark.column : Int) < indent then break
  if (← get).leadingWhitespace then allowSimpleKey
  if text.isEmpty then fail start "unexpected end of plain scalar"
  enqueue ⟨.scalar text .plain, start, start⟩

def fetchNextToken : ScanM Unit := do
  if !(← get).started then
    fetchStreamStart
    return
  skipToNextToken
  staleSimpleKeys
  unrollIndent (← get).mark.column
  let s ← get
  let c := s.ch 0
  let nc := s.ch 1
  if isEnd c then fetchStreamEnd
  else if s.mark.column == 0 && c == '%' then fetchDirective
  else if s.mark.column == 0 && c == '-' && nc == '-' && s.ch 2 == '-' && isBlankZ (s.ch 3) then
    fetchDocumentIndicator .documentStart
  else if s.mark.column == 0 && c == '.' && nc == '.' && s.ch 2 == '.' && isBlankZ (s.ch 3) then
    fetchDocumentIndicator .documentEnd
  else if (s.mark.column : Int) < s.indent then fail s.mark "invalid indentation"
  else if c == '[' then fetchFlowCollectionStart .flowSequenceStart
  else if c == '{' then fetchFlowCollectionStart .flowMappingStart
  else if c == ']' then fetchFlowCollectionEnd .flowSequenceEnd
  else if c == '}' then fetchFlowCollectionEnd .flowMappingEnd
  else if c == ',' then fetchFlowEntry
  else if c == '-' && isBlankZ nc then fetchBlockEntry
  else if c == '?' && isBlankZ nc then fetchKey
  else if c == ':' && isBlankZ nc then fetchValue
  else if c == ':' && s.flowLevel != 0 && (isFlow nc || s.mark.index == s.adjacentValueAt) then
    fetchFlowValue
  else if c == '*' then fetchAnchor true
  else if c == '&' then fetchAnchor false
  else if c == '!' then fetchTag
  else if c == '|' && s.flowLevel == 0 then fetchBlockScalar true
  else if c == '>' && s.flowLevel == 0 then fetchBlockScalar false
  else if c == '\'' then fetchFlowScalar true
  else if c == '"' then fetchFlowScalar false
  else if c == '-' then fetchPlainScalar
  else if (c == ':' || c == '?') && s.flowLevel == 0 then fetchPlainScalar
  else if c == '%' || c == '@' || c == '`' then
    fail s.mark ("unexpected character: `" ++ c.toString ++ "'")
  else fetchPlainScalar

def fetchMoreTokens : ScanM Unit := do
  for _ in [0:(← get).fuel + 8] do
    let s ← get
    let needMore ← if s.queue.isEmpty then pure true else do
      staleSimpleKeys
      let s ← get
      pure (s.keys.any fun k => k.possible && k.tokenNumber == s.parsed)
    if !needMore then break
    if (← get).ended then break
    fetchNextToken

def peekToken : ScanM Token := do
  fetchMoreTokens
  match (← get).queue with
  | t :: _ => pure t
  | [] => fail (← here) "unexpected eof"

def skipToken : ScanM Unit := modify fun s =>
  { s with queue := s.queue.tail, parsed := s.parsed + 1 }

def Scanner.ofText (text : String) : Scanner := { input := text.toList.toArray }

end RequestFirewall.Yaml12

import RequestFirewall.Yaml.Token
/- The YAML parser: a state machine that turns tokens into events (documents, collections
   opening and closing, scalars and aliases), each with the mark where it starts.

   A node may carry an anchor and a tag in either order; a tag handle is resolved through the
   `%TAG` directives of the document and the two standard handles `!` and `!!`. A missing node
   (an entry with no value, a key with no value) is an empty plain scalar; a pair inside a
   flow sequence whose key is empty also swallows the token after its `?`. Each state knows
   which tokens may come next; anything else is an error naming what was expected and where the
   enclosing collection began. -/
namespace RequestFirewall.Yaml

inductive EventKind where
  | streamStart
  | streamEnd
  | documentStart
  | documentEnd
  | alias (name : String)
  | scalar (anchor tag : Option String) (text : String) (style : ScalarStyle)
  | sequenceStart (anchor tag : Option String)
  | sequenceEnd
  | mappingStart (anchor tag : Option String)
  | mappingEnd
  deriving Repr, Inhabited

structure Event where
  kind : EventKind
  start : Mark
  deriving Repr, Inhabited

inductive ParseState where
  | streamStart
  | implicitDocumentStart
  | documentStart
  | documentContent
  | documentEnd
  | blockNode
  | blockNodeOrIndentlessSequence
  | flowNode
  | blockSequenceFirstEntry
  | blockSequenceEntry
  | indentlessSequenceEntry
  | blockMappingFirstKey
  | blockMappingKey
  | blockMappingValue
  | flowSequenceFirstEntry
  | flowSequenceEntry
  | flowSequenceEntryMappingKey
  | flowSequenceEntryMappingValue
  | flowSequenceEntryMappingEnd
  | flowMappingFirstKey
  | flowMappingKey
  | flowMappingValue
  | flowMappingEmptyValue
  | finished
  deriving DecidableEq, Repr, Inhabited

/-- The parser's state: the scanner, the current state and the states to return to, the marks
    where open collections began, and the tag handles in force. -/
structure Parser where
  scanner : Scanner
  state : ParseState := .streamStart
  states : List ParseState := []
  marks : List Mark := []
  handles : List (String × String) := []

abbrev ParseM := StateT Parser (Except SyntaxError)

def scan {α : Type} (m : ScanM α) : ParseM α := fun p =>
  match m.run p.scanner with
  | .ok (a, s) => .ok (a, { p with scanner := s })
  | .error e => .error e

def peek : ParseM Token := scan peekToken

def advance : ParseM Unit := scan skipToken

def parseError {α : Type} (problem : String) (mark : Mark) : ParseM α :=
  throw { problem, problemMark := mark, contextMark := mark }

def parseErrorIn {α : Type} (context : String) (contextMark : Mark) (problem : String)
    (mark : Mark) : ParseM α :=
  throw { problem, problemMark := mark, context := some context, contextMark }

def popState : ParseM Unit := modify fun p =>
  { p with state := p.states.headD .finished, states := p.states.tail }

def pushState (s : ParseState) : ParseM Unit := modify fun p => { p with states := s :: p.states }

def goTo (s : ParseState) : ParseM Unit := modify fun p => { p with state := s }

def pushMark (m : Mark) : ParseM Unit := modify fun p => { p with marks := m :: p.marks }

def popMark : ParseM Mark := do
  let p ← get
  set { p with marks := p.marks.tail }
  pure (p.marks.headD {})

def emptyScalar (mark : Mark) : Event := ⟨.scalar none none "" .plain, mark⟩

def Token.is (t : Token) (k : TokenKind) : Bool :=
  match t.kind, k with
  | .streamEnd, .streamEnd => true
  | .versionDirective _ _, .versionDirective _ _ => true
  | .tagDirective _ _, .tagDirective _ _ => true
  | .documentStart, .documentStart => true
  | .documentEnd, .documentEnd => true
  | .blockSequenceStart, .blockSequenceStart => true
  | .blockMappingStart, .blockMappingStart => true
  | .blockEnd, .blockEnd => true
  | .flowSequenceStart, .flowSequenceStart => true
  | .flowSequenceEnd, .flowSequenceEnd => true
  | .flowMappingStart, .flowMappingStart => true
  | .flowMappingEnd, .flowMappingEnd => true
  | .blockEntry, .blockEntry => true
  | .flowEntry, .flowEntry => true
  | .key, .key => true
  | .value, .value => true
  | _, _ => false

def Token.isDirective (t : Token) : Bool :=
  t.is (.versionDirective 0 0) || t.is (.tagDirective "" "")

def defaultHandles : List (String × String) := [("!", "!"), ("!!", "tag:yaml.org,2002:")]

def processDirectives : ParseM Unit := do
  let mut seenVersion := false
  for _ in [0:(← get).scanner.fuel] do
    let t ← peek
    match t.kind with
    | .versionDirective major minor =>
      if seenVersion then parseError "found duplicate %YAML directive" t.start
      if major != 1 || (minor != 1 && minor != 2) then
        parseError "found incompatible YAML document" t.start
      seenVersion := true
      advance
    | .tagDirective handle pfx =>
      if ((← get).handles.any fun (h, _) => h == handle) then
        parseError "found duplicate %TAG directive" t.start
      modify fun p => { p with handles := p.handles ++ [(handle, pfx)] }
      advance
    | _ => break
  let present := (← get).handles
  let extra := defaultHandles.filter fun (h, _) => !(present.any fun (h', _) => h' == h)
  modify fun p => { p with handles := p.handles ++ extra }

/-- A node: an alias, or a scalar or the start of a collection with its anchor and tag.
    `block` allows block collections; `indentless` allows a sequence of `-` entries at the
    indentation of the enclosing mapping. -/
def parseNode (block indentless : Bool) : ParseM Event := do
  let t ← peek
  if let .alias name := t.kind then
    popState
    advance
    return ⟨.alias name, t.start⟩
  let start := t.start
  let mut anchor : Option String := none
  let mut tagParts : Option (String × String) := none
  let mut tagMark := t.start
  let mut t := t
  if let .anchor name := t.kind then
    anchor := some name
    advance
    t ← peek
    if let .tag h s := t.kind then
      tagParts := some (h, s)
      tagMark := t.start
      advance
      t ← peek
  else if let .tag h s := t.kind then
    tagParts := some (h, s)
    tagMark := t.start
    advance
    t ← peek
    if let .anchor name := t.kind then
      anchor := some name
      advance
      t ← peek
  let mut tag : Option String := none
  if let some (h, s) := tagParts then
    if h.isEmpty then tag := some s
    else
      match (← get).handles.find? (fun (h', _) => h' == h) with
      | some (_, pfx) => tag := some (pfx ++ s)
      | none => parseErrorIn "while parsing a node" start "found undefined tag handle" tagMark
  if indentless && t.is .blockEntry then
    goTo .indentlessSequenceEntry
    return ⟨.sequenceStart anchor tag, start⟩
  match t.kind with
  | .scalar text style =>
    popState
    advance
    return ⟨.scalar anchor tag text style, start⟩
  | .flowSequenceStart =>
    goTo .flowSequenceFirstEntry
    return ⟨.sequenceStart anchor tag, start⟩
  | .flowMappingStart =>
    goTo .flowMappingFirstKey
    return ⟨.mappingStart anchor tag, start⟩
  | .blockSequenceStart =>
    if block then
      goTo .blockSequenceFirstEntry
      return ⟨.sequenceStart anchor tag, start⟩
  | .blockMappingStart =>
    if block then
      goTo .blockMappingFirstKey
      return ⟨.mappingStart anchor tag, start⟩
  | _ => pure ()
  if anchor.isSome || tag.isSome then
    popState
    return ⟨.scalar anchor tag "" .plain, start⟩
  parseErrorIn (if block then "while parsing a block node" else "while parsing a flow node") start
    "did not find expected node content" t.start

def parseDocumentStart (implicit : Bool) : ParseM Event := do
  let mut t ← peek
  if !implicit then
    for _ in [0:(← get).scanner.fuel] do
      if t.is .documentEnd then
        advance
        t ← peek
      else break
  if implicit && !t.isDirective && !t.is .documentStart && !t.is .streamEnd then
    processDirectives
    pushState .documentEnd
    goTo .blockNode
    return ⟨.documentStart, t.start⟩
  if !t.is .streamEnd then
    let start := t.start
    processDirectives
    let next ← peek
    if !next.is .documentStart then parseError "did not find expected <document start>" next.start
    pushState .documentEnd
    goTo .documentContent
    advance
    return ⟨.documentStart, start⟩
  goTo .finished
  advance
  return ⟨.streamEnd, t.start⟩

def nextEvent : ParseM Event := do
  match (← get).state with
  | .streamStart =>
    let t ← peek
    goTo .implicitDocumentStart
    advance
    return ⟨.streamStart, t.start⟩
  | .implicitDocumentStart => parseDocumentStart true
  | .documentStart => parseDocumentStart false
  | .documentContent =>
    let t ← peek
    if t.isDirective || t.is .documentStart || t.is .documentEnd || t.is .streamEnd then
      popState
      return emptyScalar t.start
    parseNode true false
  | .documentEnd =>
    let t ← peek
    if t.is .documentEnd then advance
    modify fun p => { p with handles := [] }
    goTo .documentStart
    return ⟨.documentEnd, t.start⟩
  | .blockNode => parseNode true false
  | .blockNodeOrIndentlessSequence => parseNode true true
  | .flowNode => parseNode false false
  | .blockSequenceFirstEntry | .blockSequenceEntry =>
    if (← get).state == .blockSequenceFirstEntry then
      pushMark (← peek).start
      advance
    let t ← peek
    if t.is .blockEntry then
      advance
      let t' ← peek
      if !t'.is .blockEntry && !t'.is .blockEnd then
        pushState .blockSequenceEntry
        parseNode true false
      else
        goTo .blockSequenceEntry
        return emptyScalar t.stop
    else if t.is .blockEnd then
      popState
      let _ ← popMark
      advance
      return ⟨.sequenceEnd, t.start⟩
    else
      parseErrorIn "while parsing a block collection" (← popMark)
        "did not find expected '-' indicator" t.start
  | .indentlessSequenceEntry =>
    let t ← peek
    if t.is .blockEntry then
      advance
      let t' ← peek
      if !t'.is .blockEntry && !t'.is .key && !t'.is .value && !t'.is .blockEnd then
        pushState .indentlessSequenceEntry
        parseNode true false
      else
        goTo .indentlessSequenceEntry
        return emptyScalar t.stop
    else
      popState
      return ⟨.sequenceEnd, t.start⟩
  | .blockMappingFirstKey | .blockMappingKey =>
    if (← get).state == .blockMappingFirstKey then
      pushMark (← peek).start
      advance
    let t ← peek
    if t.is .key then
      advance
      let t' ← peek
      if !t'.is .key && !t'.is .value && !t'.is .blockEnd then
        pushState .blockMappingValue
        parseNode true true
      else
        goTo .blockMappingValue
        return emptyScalar t.stop
    else if t.is .blockEnd then
      popState
      let _ ← popMark
      advance
      return ⟨.mappingEnd, t.start⟩
    else
      parseErrorIn "while parsing a block mapping" (← popMark) "did not find expected key" t.start
  | .blockMappingValue =>
    let t ← peek
    if t.is .value then
      advance
      let t' ← peek
      if !t'.is .key && !t'.is .value && !t'.is .blockEnd then
        pushState .blockMappingKey
        parseNode true true
      else
        goTo .blockMappingKey
        return emptyScalar t.stop
    else
      goTo .blockMappingKey
      return emptyScalar t.start
  | .flowSequenceFirstEntry | .flowSequenceEntry =>
    let first := (← get).state == .flowSequenceFirstEntry
    if first then
      pushMark (← peek).start
      advance
    let mut t ← peek
    if !t.is .flowSequenceEnd then
      if !first then
        if t.is .flowEntry then
          advance
          t ← peek
        else
          parseErrorIn "while parsing a flow sequence" (← popMark)
            "did not find expected ',' or ']'" t.start
      if t.is .key then
        goTo .flowSequenceEntryMappingKey
        advance
        return ⟨.mappingStart none none, t.start⟩
      if !t.is .flowSequenceEnd then
        pushState .flowSequenceEntry
        return (← parseNode false false)
    popState
    let _ ← popMark
    advance
    return ⟨.sequenceEnd, t.start⟩
  | .flowSequenceEntryMappingKey =>
    let t ← peek
    if !t.is .value && !t.is .flowEntry && !t.is .flowSequenceEnd then
      pushState .flowSequenceEntryMappingValue
      parseNode false false
    else
      -- the token after an empty key is consumed here, whatever it is
      advance
      goTo .flowSequenceEntryMappingValue
      return emptyScalar t.stop
  | .flowSequenceEntryMappingValue =>
    let t ← peek
    if t.is .value then
      advance
      let t' ← peek
      if !t'.is .flowEntry && !t'.is .flowSequenceEnd then
        pushState .flowSequenceEntryMappingEnd
        return (← parseNode false false)
      goTo .flowSequenceEntryMappingEnd
      return emptyScalar t'.start
    goTo .flowSequenceEntryMappingEnd
    return emptyScalar t.start
  | .flowSequenceEntryMappingEnd =>
    let t ← peek
    goTo .flowSequenceEntry
    return ⟨.mappingEnd, t.start⟩
  | .flowMappingFirstKey | .flowMappingKey =>
    let first := (← get).state == .flowMappingFirstKey
    if first then
      pushMark (← peek).start
      advance
    let mut t ← peek
    if !t.is .flowMappingEnd then
      if !first then
        if t.is .flowEntry then
          advance
          t ← peek
        else
          parseErrorIn "while parsing a flow mapping" (← popMark)
            "did not find expected ',' or '\x7d'" t.start
      if t.is .key then
        advance
        let t' ← peek
        if !t'.is .value && !t'.is .flowEntry && !t'.is .flowMappingEnd then
          pushState .flowMappingValue
          return (← parseNode false false)
        goTo .flowMappingValue
        return emptyScalar t'.start
      if !t.is .flowMappingEnd then
        pushState .flowMappingEmptyValue
        return (← parseNode false false)
    popState
    let _ ← popMark
    advance
    return ⟨.mappingEnd, t.start⟩
  | .flowMappingValue =>
    let t ← peek
    if t.is .value then
      advance
      let t' ← peek
      if !t'.is .flowEntry && !t'.is .flowMappingEnd then
        pushState .flowMappingKey
        return (← parseNode false false)
      goTo .flowMappingKey
      return emptyScalar t'.start
    goTo .flowMappingKey
    return emptyScalar t.start
  | .flowMappingEmptyValue =>
    let t ← peek
    goTo .flowMappingKey
    return emptyScalar t.start
  | .finished => return ⟨.streamEnd, (← get).scanner.mark⟩

def Parser.ofText (text : String) : Except SyntaxError Parser :=
  (Scanner.ofText text).map fun s => { scanner := s }

end RequestFirewall.Yaml

import RequestFirewall.Yaml12.Token
import RequestFirewall.Yaml.Event
/- The parser of the YAML 1.2 reader: a state machine over the scanner's tokens that reports
   documents, collections opening and closing, scalars and aliases.

   Anchors are numbered from one in the order they appear, and an alias names the number its
   anchor had when the alias was read; anchor names are forgotten at each document. A missing
   node is the plain scalar `~`, which reads as null; a node with only an anchor or a tag is
   an empty plain scalar. A `:` with no key before it in a block mapping gives an empty key.
   Tag handles are resolved through the latest `%TAG` directive only, with `!!` standing for
   the core schema when no directive names it; an undeclared named handle is an error. -/
namespace RequestFirewall.Yaml12

open Yaml (Mark Token TokenKind ScalarStyle ParseState)

/-- What the parser reports. A tag is a prefix and a suffix; anchors are numbers, zero for
    none. -/
inductive Event where
  | streamStart
  | streamEnd
  | documentStart
  | documentEnd
  | alias (id : Nat)
  | scalar (text : String) (style : ScalarStyle) (anchor : Nat) (tag : Option (String × String))
  | sequenceStart (anchor : Nat)
  | sequenceEnd
  | mappingStart (anchor : Nat)
  | mappingEnd
  deriving Inhabited

/-- The parser's state: the scanner, the current state and the states to return to, the tag
    directive in force, and the anchors named so far with their numbers, latest first. -/
structure Parser where
  scanner : Scanner
  state : ParseState := .streamStart
  states : List ParseState := []
  tags : List (String × String) := []
  anchors : List (String × Nat) := []
  lastAnchor : Nat := 0

abbrev ParseM := StateT Parser (Except Fault)

def scan {α : Type} (m : ScanM α) : ParseM α := fun p =>
  match m.run p.scanner with
  | .ok (a, s) => .ok (a, { p with scanner := s })
  | .error e => .error e

def peek : ParseM Token := scan peekToken

def advance : ParseM Unit := scan skipToken

def failAt {α : Type} (mark : Mark) (info : String) : ParseM α := throw ⟨info, mark⟩

def popState : ParseM Unit := modify fun p =>
  { p with state := p.states.headD .finished, states := p.states.tail }

def pushState (s : ParseState) : ParseM Unit := modify fun p => { p with states := s :: p.states }

def goTo (s : ParseState) : ParseM Unit := modify fun p => { p with state := s }

def missing : Event := .scalar "~" .plain 0 none

def registerAnchor (name : String) : ParseM Nat := do
  let p ← get
  let id := p.lastAnchor + 1
  set { p with lastAnchor := id, anchors := (name, id) :: p.anchors }
  pure id

def processDirectives : ParseM Unit := do
  let mut versionSeen := false
  for _ in [0:(← get).scanner.fuel] do
    let t ← peek
    match t.kind with
    | .versionDirective _ _ =>
      if versionSeen then failAt t.start "duplicate version directive"
      versionSeen := true
      modify fun p => { p with tags := [] }
      advance
    | .tagDirective handle pfx =>
      modify fun p => { p with tags := [(handle, pfx)] }
      advance
    | _ => break

def resolveTag (mark : Mark) (handle suffix : String) : ParseM (String × String) := do
  let tags := (← get).tags
  let lookup (h : String) : Option String := (tags.find? (·.1 == h)).map (·.2)
  if handle == "!!" then pure ((lookup "!!").getD "tag:yaml.org,2002:", suffix)
  else if handle.isEmpty && suffix == "!" then pure ((lookup "").getD "", suffix)
  else
    match lookup handle with
    | some pfx => pure (pfx, suffix)
    | none =>
      if handle.length ≥ 2 && handle.startsWith "!" && handle.endsWith "!" then
        failAt mark "the handle wasn't declared"
      else pure (handle, suffix)

/-- A node: an alias, or a scalar or the start of a collection with its anchor and tag, and
    the mark of the token it stands at. `block` allows block collections; `indentless` allows
    a sequence of `-` entries at the indentation of the enclosing mapping. -/
def parseNode (block indentless : Bool) : ParseM (Event × Mark) := do
  let first ← peek
  if let .alias name := first.kind then
    popState
    advance
    match (← get).anchors.find? (·.1 == name) with
    | some (_, id) => return (.alias id, first.start)
    | none => failAt first.start "while parsing node, found unknown anchor"
  let mut anchor := 0
  let mut tag : Option (String × String) := none
  match first.kind with
  | .anchor name =>
    advance
    anchor ← registerAnchor name
    let t ← peek
    if let .tag h s := t.kind then
      advance
      tag := some (← resolveTag first.start h s)
  | .tag h s =>
    advance
    tag := some (← resolveTag first.start h s)
    let t ← peek
    if let .anchor name := t.kind then
      advance
      anchor ← registerAnchor name
  | _ => pure ()
  let t ← peek
  if indentless && t.is .blockEntry then
    goTo .indentlessSequenceEntry
    return (.sequenceStart anchor, t.start)
  match t.kind with
  | .scalar text style =>
    popState
    advance
    return (.scalar text style anchor tag, t.start)
  | .flowSequenceStart =>
    goTo .flowSequenceFirstEntry
    return (.sequenceStart anchor, t.start)
  | .flowMappingStart =>
    goTo .flowMappingFirstKey
    return (.mappingStart anchor, t.start)
  | .blockSequenceStart =>
    if block then
      goTo .blockSequenceFirstEntry
      return (.sequenceStart anchor, t.start)
  | .blockMappingStart =>
    if block then
      goTo .blockMappingFirstKey
      return (.mappingStart anchor, t.start)
  | _ => pure ()
  if tag.isSome || anchor > 0 then
    popState
    return (.scalar "" .plain anchor tag, t.start)
  failAt t.start "while parsing a node, did not find expected node content"

def explicitDocumentStart : ParseM (Event × Mark) := do
  processDirectives
  let t ← peek
  if !t.is .documentStart then failAt t.start "did not find expected <document start>"
  pushState .documentEnd
  goTo .documentContent
  advance
  return (.documentStart, t.start)

def documentStart (implicit : Bool) : ParseM (Event × Mark) := do
  for _ in [0:(← get).scanner.fuel] do
    if (← peek).is .documentEnd then advance else break
  let t ← peek
  match t.kind with
  | .streamEnd =>
    goTo .finished
    advance
    return (.streamEnd, t.start)
  | .versionDirective _ _ | .tagDirective _ _ | .documentStart => explicitDocumentStart
  | _ =>
    if implicit then
      processDirectives
      pushState .documentEnd
      goTo .blockNode
      return (.documentStart, t.start)
    else explicitDocumentStart

def documentEnd : ParseM (Event × Mark) := do
  let t ← peek
  let explicitEnd := t.is .documentEnd
  if explicitEnd then advance
  modify fun p => { p with tags := [] }
  if explicitEnd then goTo .implicitDocumentStart
  else
    let t ← peek
    if t.isDirective then failAt t.start "missing explicit document end marker before directive"
    goTo .documentStart
  return (.documentEnd, t.start)

def missingHere : ParseM (Event × Mark) := do
  pure (missing, (← peek).start)

def nextEvent : ParseM (Event × Mark) := do
  match (← get).state with
  | .streamStart =>
    let t ← peek
    goTo .implicitDocumentStart
    advance
    return (.streamStart, t.start)
  | .implicitDocumentStart => documentStart true
  | .documentStart => documentStart false
  | .documentContent =>
    let t ← peek
    if t.isDirective || t.is .documentStart || t.is .documentEnd || t.is .streamEnd then
      popState
      return (missing, t.start)
    parseNode true false
  | .documentEnd => documentEnd
  | .blockNode => parseNode true false
  | .blockNodeOrIndentlessSequence => parseNode true true
  | .flowNode => parseNode false false
  | .blockSequenceFirstEntry | .blockSequenceEntry =>
    if (← get).state == .blockSequenceFirstEntry then advance
    let t ← peek
    if t.is .blockEnd then
      popState
      advance
      return (.sequenceEnd, t.start)
    if !t.is .blockEntry then
      failAt t.start "while parsing a block collection, did not find expected '-' indicator"
    advance
    let t' ← peek
    if t'.is .blockEntry || t'.is .blockEnd then
      goTo .blockSequenceEntry
      return (missing, t'.start)
    pushState .blockSequenceEntry
    parseNode true false
  | .indentlessSequenceEntry =>
    let t ← peek
    if !t.is .blockEntry then
      popState
      return (.sequenceEnd, t.start)
    advance
    let t' ← peek
    if t'.is .blockEntry || t'.is .key || t'.is .value || t'.is .blockEnd then
      goTo .indentlessSequenceEntry
      return (missing, t'.start)
    pushState .indentlessSequenceEntry
    parseNode true false
  | .blockMappingFirstKey | .blockMappingKey =>
    if (← get).state == .blockMappingFirstKey then advance
    let t ← peek
    if t.is .key then
      advance
      let t' ← peek
      if t'.is .key || t'.is .value || t'.is .blockEnd then
        goTo .blockMappingValue
        return (missing, t'.start)
      pushState .blockMappingValue
      parseNode true true
    else if t.is .value then
      goTo .blockMappingValue
      return (missing, t.start)
    else if t.is .blockEnd then
      popState
      advance
      return (.mappingEnd, t.start)
    else failAt t.start "while parsing a block mapping, did not find expected key"
  | .blockMappingValue =>
    let t ← peek
    if t.is .value then
      advance
      let t' ← peek
      if t'.is .key || t'.is .value || t'.is .blockEnd then
        goTo .blockMappingKey
        return (missing, t'.start)
      pushState .blockMappingKey
      parseNode true true
    else
      goTo .blockMappingKey
      return (missing, t.start)
  | .flowSequenceFirstEntry | .flowSequenceEntry =>
    let first := (← get).state == .flowSequenceFirstEntry
    if first then advance
    let t ← peek
    if t.is .flowSequenceEnd then
      popState
      advance
      return (.sequenceEnd, t.start)
    if !first then
      if t.is .flowEntry then advance
      else failAt t.start "while parsing a flow sequence, expected ',' or ']'"
    let t ← peek
    if t.is .flowSequenceEnd then
      popState
      advance
      return (.sequenceEnd, t.start)
    if t.is .key then
      goTo .flowSequenceEntryMappingKey
      advance
      return (.mappingStart 0, t.start)
    pushState .flowSequenceEntry
    parseNode false false
  | .flowSequenceEntryMappingKey =>
    let t ← peek
    if t.is .value || t.is .flowEntry || t.is .flowSequenceEnd then
      advance
      goTo .flowSequenceEntryMappingValue
      return (missing, t.start)
    pushState .flowSequenceEntryMappingValue
    parseNode false false
  | .flowSequenceEntryMappingValue =>
    let t ← peek
    if t.is .value then
      advance
      let t' ← peek
      if t'.is .flowEntry || t'.is .flowSequenceEnd then
        goTo .flowSequenceEntryMappingEnd
        return (missing, t'.start)
      pushState .flowSequenceEntryMappingEnd
      parseNode false false
    else
      goTo .flowSequenceEntryMappingEnd
      return (missing, t.start)
  | .flowSequenceEntryMappingEnd =>
    goTo .flowSequenceEntry
    return (.mappingEnd, (← get).scanner.mark)
  | .flowMappingFirstKey | .flowMappingKey =>
    let first := (← get).state == .flowMappingFirstKey
    if first then advance
    let t ← peek
    if !t.is .flowMappingEnd then
      if !first then
        if t.is .flowEntry then advance
        else failAt t.start "while parsing a flow mapping, did not find expected ',' or '\x7d'"
      let t ← peek
      if t.is .key then
        advance
        let t' ← peek
        if t'.is .value || t'.is .flowEntry || t'.is .flowMappingEnd then
          goTo .flowMappingValue
          return (missing, t'.start)
        pushState .flowMappingValue
        return (← parseNode false false)
      if t.is .value then
        goTo .flowMappingValue
        return (missing, t.start)
      if !t.is .flowMappingEnd then
        pushState .flowMappingEmptyValue
        return (← parseNode false false)
    let t ← peek
    popState
    advance
    return (.mappingEnd, t.start)
  | .flowMappingValue =>
    let t ← peek
    if t.is .value then
      advance
      let t' ← peek
      if !t'.is .flowEntry && !t'.is .flowMappingEnd then
        pushState .flowMappingKey
        return (← parseNode false false)
    goTo .flowMappingKey
    return (missing, t.start)
  | .flowMappingEmptyValue =>
    goTo .flowMappingKey
    missingHere
  | .finished => return (.streamEnd, (← get).scanner.mark)

def eventLimit (n : Nat) : Nat := 8 * n + 16

/-- The events of a text with their marks, up to the end of the stream; anchor names are
    forgotten at the start of each document. -/
def events (text : String) : Except Fault (List (Event × Mark)) := do
  let mut p : Parser := { scanner := Scanner.ofText text }
  let mut out : Array (Event × Mark) := #[]
  for _ in [0:eventLimit text.length] do
    let (e, p') ← nextEvent.run p
    p := p'
    out := out.push e
    match e.1 with
    | .streamEnd => return out.toList
    | .documentStart => p := { p with anchors := [] }
    | _ => pure ()
  pure out.toList

end RequestFirewall.Yaml12

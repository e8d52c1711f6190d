import RequestFirewall.Yaml.Document
import RequestFirewall.Yaml.Scalar
/- Reading records out of a loaded YAML document, item by item.

   A reader takes the items of one value. A mismatch names what was found and what was
   expected; such a message gets the path of the value (`throttle[0].limit`) and the mark of
   its first item, or of the key for an unknown field, and a fault raised after a record's
   fields were read gets the record's. Collections nest at most 128 deep. An alias is read as
   the value its anchor names, with a bound on how many aliases a document may expand. An empty
   plain scalar, or an empty document, reads as an empty sequence or mapping. Reading past the
   last item reports why the document ended: its syntax error, or the end of the input. -/
namespace RequestFirewall.Yaml

inductive Path where
  | root
  | seq (parent : Path) (index : Nat)
  | map (parent : Path) (key : String)
  | alias (parent : Path)
  | unknown (parent : Path)

/-- A path as messages show it: `.` for the whole document, keys joined by dots, indices in
    brackets, `?` for a key that is not a string. -/
def Path.render : Path → String
  | .root => "."
  | .seq p i => p.render ++ "[" ++ Nat.repr i ++ "]"
  | .map p k => (match p with
      | .root => ""
      | _ => p.render ++ ".") ++ k
  | .alias p => p.render
  | .unknown p => (match p with
      | .root => ""
      | _ => p.render ++ ".") ++ "?"

inductive YamlError where
  | malformed (e : SyntaxError)
  | unknownAnchor (mark : Mark)
  | message (text : String) (place : Option (Mark × Path))
  | endOfStream
  | moreThanOneDocument
  | recursionLimit (mark : Mark)
  | repetitionLimit

def atMark (m : Mark) : String :=
  if m.atOrigin then "" else " at line " ++ Nat.repr (m.line + 1) ++ " column " ++ Nat.repr (m.column + 1)

def YamlError.render : YamlError → String
  | .malformed e => e.message
  | .unknownAnchor m => "unknown anchor" ++ atMark m
  | .message t none => t
  | .message t (some (m, p)) =>
    let where_ := p.render
    (if where_ == "." then "" else where_ ++ ": ") ++ t ++ atMark m
  | .endOfStream => "EOF while parsing a value"
  | .moreThanOneDocument =>
    "deserializing from YAML containing more than one document is not supported"
  | .recursionLimit m => "recursion limit exceeded" ++ atMark m
  | .repetitionLimit => "repetition limit exceeded"

def Document.failure (d : Document) : YamlError :=
  match d.error with
  | some (.malformed e) => .malformed e
  | some (.unknownAnchor m) => .unknownAnchor m
  | none => .endOfStream

structure Cursor where
  pos : Nat := 0
  jumps : Nat := 0

abbrev Reading := StateT Cursor (Except YamlError)

def depthLimit : Nat := 128

def nextItem (d : Document) : Reading (Item × Mark) := do
  let c ← get
  match d.items[c.pos]? with
  | some im =>
    set { c with pos := c.pos + 1 }
    pure im
  | none => throw d.failure

def peekItem (d : Document) : Reading (Item × Mark) := do
  match d.items[(← get).pos]? with
  | some im => pure im
  | none => throw d.failure

def skipItem : Reading Unit := modify fun c => { c with pos := c.pos + 1 }

def fault {α : Type} (f : DecodeFault) : Reading α := throw (.message f.message none)

def orFault {α : Type} : Except DecodeFault α → Reading α
  | .ok a => pure a
  | .error f => fault f

def placed {α : Type} (mark : Mark) (path : Path) (m : Reading α) : Reading α :=
  tryCatch m fun e => throw (match e with
    | .message t none => .message t (some (mark, path))
    | e => e)

def viaAlias {α : Type} (d : Document) (id : Nat) (read : Reading α) : Reading α := do
  let c ← get
  let jumps := c.jumps + 1
  if jumps > d.items.size * 100 then throw .repetitionLimit
  let back := c.pos
  set { c with jumps, pos := (d.target? id).getD 0 }
  let a ← read
  modify fun c => { c with pos := back }
  pure a

def mismatch {α : Type} (item : Item) (expected : String) : Reading α :=
  match item with
  | .scalar tag text style =>
    match resolveScalar tag text style with
    | .ok r => fault (.invalidType r.found expected)
    | .error f => fault f
  | .sequenceStart => fault (.invalidType .seq expected)
  | .mappingStart => fault (.invalidType .map expected)
  | _ => throw .endOfStream

/-- Reads one value with `read`, which gets the value's first item, its mark and its path; an
    alias is followed first. -/
def withItem {α : Type} (d : Document) (path : Path)
    (read : Item → Mark → Path → Reading α) : Reading α := do
  let (item, mark) ← nextItem d
  match item with
  | .alias id => viaAlias d id do
      let (target, tmark) ← nextItem d
      read target tmark (.alias path)
  | _ => read item mark path

def readText {α : Type} (d : Document) (path : Path) (expected : String)
    (accept : String → Except DecodeFault α) : Reading α :=
  withItem d path fun item mark path => placed mark path do
    match item with
    | .scalar _ text _ => orFault (accept text)
    | other => mismatch other expected

def readString (d : Document) (path : Path) : Reading String :=
  readText d path "a string" .ok

/-- Whether a scalar's text is read for a number or a boolean of core kind `kind`: a plain
    scalar always is, a literal block scalar when it carries that kind's tag. -/
def readsAs (kind : String) (tag : Option String) (style : ScalarStyle) : Bool :=
  style == .plain || (style == .literal && tag == some (coreTag kind))

def readUnsigned (d : Document) (path : Path) : Reading Nat :=
  withItem d path fun item mark path => placed mark path do
    match item with
    | .scalar tag text style =>
      match (if readsAs "int" tag style then unsignedText? Word.max text else none) with
      | some n => pure n
      | none => mismatch item "u64"
    | other => mismatch other "u64"

def readFlag (d : Document) (path : Path) : Reading Bool :=
  withItem d path fun item mark path => placed mark path do
    match item with
    | .scalar tag text style =>
      match (if readsAs "bool" tag style then boolText? text else none) with
      | some b => pure b
      | none => mismatch item "a boolean"
    | other => mismatch other "a boolean"

/-- Whether an optional value is present: anything but a plain null or empty scalar, a plain
    scalar tagged null, or an empty document. -/
def presentItem (item : Item) : Except DecodeFault Bool :=
  match item with
  | .scalar tag text style =>
    if style != .plain then .ok true
    else match tag with
      | some t =>
        if t == coreTag "null" then
          if isNullText text then .ok false else .error (.invalidValue (.str text) "null")
        else .ok true
      | none => .ok (!text.isEmpty && !isNullText text)
  | .empty => .ok false
  | _ => .ok true

def readOption {α : Type} (d : Document) (path : Path) (read : Path → Reading α) :
    Reading (Option α) := do
  let (item, _) ← peekItem d
  let decide (item : Item) (path : Path) : Reading (Option α) := do
    if (← orFault (presentItem item)) then some <$> read path
    else
      skipItem
      pure none
  match item with
  | .alias id =>
    skipItem
    viaAlias d id do
      let (target, _) ← peekItem d
      decide target (.alias path)
  | _ => decide item path

def skipValue (d : Document) : Reading Unit := do
  let mut level : Nat := 0
  for _ in [0:d.items.size + 1] do
    let (item, _) ← nextItem d
    match item with
    | .sequenceStart | .mappingStart => level := level + 1
    | .sequenceEnd | .mappingEnd => level := level - 1
    | _ => pure ()
    if level == 0 then break

def readSeq {α : Type} (d : Document) (path : Path) (depth : Nat)
    (elem : Path → Nat → Reading α) : Reading (List α) :=
  withItem d path fun item mark path => placed mark path do
    match item with
    | .sequenceStart =>
      if depth == 0 then throw (.recursionLimit mark)
      let mut out : Array α := #[]
      for _ in [0:d.items.size] do
        let (next, _) ← peekItem d
        match next with
        | .sequenceEnd | .empty => break
        | _ => out := out.push (← elem (.seq path out.size) (depth - 1))
      let _ ← nextItem d
      pure out.toList
    | .scalar _ "" .plain | .empty => pure []
    | other => mismatch other "a sequence"

structure Fields (β : Type) where
  value : β
  seen : List String := []

/-- Reads a record written as a mapping. `names` are its fields; `read` reads the value of one
    of them into the record; an unknown field is an error when `strict` and is skipped
    otherwise; `finish` checks the fields seen and supplies defaults. A field may appear once. -/
def readRecord {β γ : Type} (d : Document) (path : Path) (depth : Nat) (expected : String)
    (names : List String) (strict : Bool) (init : β)
    (read : String → Path → Nat → β → Reading β)
    (finish : List String → β → Except DecodeFault γ) : Reading γ :=
  withItem d path fun item mark path => placed mark path do
    match item with
    | .mappingStart =>
      if depth == 0 then throw (.recursionLimit mark)
      let mut acc : Fields β := { value := init }
      for _ in [0:d.items.size] do
        let (key, kmark) ← peekItem d
        let name? : Option (String × (Path → Path)) ← match key with
          | .mappingEnd | .empty => pure none
          | .scalar _ text _ =>
            skipItem
            pure (some (text, fun p => Path.map p text))
          | .alias id =>
            skipItem
            let text ← viaAlias d id do
              let (target, tmark) ← nextItem d
              placed tmark (.alias path) do
                match target with
                | .scalar _ text _ => pure text
                | other => mismatch other "field identifier"
            pure (some (text, fun p => Path.unknown p))
          | other =>
            skipItem
            placed kmark path (mismatch other "field identifier")
        match name? with
        | none => break
        | some (name, childPath) =>
          if names.contains name then
            if acc.seen.contains name then fault (.duplicateField name)
            let v ← read name (childPath path) (depth - 1) acc.value
            acc := { value := v, seen := acc.seen ++ [name] }
          else if strict then placed kmark path (fault (.unknownField name names))
          else skipValue d
      let _ ← nextItem d
      orFault (finish acc.seen acc.value)
    | .scalar _ "" .plain | .empty => orFault (finish [] init)
    | other => mismatch other expected

/-- Reads a whole text as one document with `read`. A text with a second document is refused,
    and so is one whose only document ends in an error after the value was read. -/
def readDocument {α : Type} (text : String) (read : Document → Reading α) : Except YamlError α :=
  match (Loader.ofText text).next with
  | (none, _) => .error .endOfStream
  | (some d, rest) =>
    match (read d).run' {} with
    | .error e => .error e
    | .ok a =>
      match d.error with
      | some _ => .error d.failure
      | none =>
        match rest.next.1 with
        | none => .ok a
        | some _ => .error .moreThanOneDocument

end RequestFirewall.Yaml

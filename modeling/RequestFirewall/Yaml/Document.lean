import RequestFirewall.Yaml.Event
/- Loading YAML documents: the events of one document with aliases resolved to the event their
   anchor named. An empty stream loads as one document holding a single empty item.

   Loading is lazy in the way reading is: a syntax error or an alias to an unknown anchor ends
   the document where it occurs, and is reported only if reading gets that far. Anchors are
   numbered by how many distinct names were seen when each was defined, so a redefined name
   takes a number that a later new name reuses; an alias follows the number. -/
namespace RequestFirewall.Yaml

inductive Item where
  | scalar (tag : Option String) (text : String) (style : ScalarStyle)
  | alias (id : Nat)
  | sequenceStart
  | sequenceEnd
  | mappingStart
  | mappingEnd
  | empty
  deriving Repr, Inhabited

inductive LoadError where
  | malformed (e : SyntaxError)
  | unknownAnchor (mark : Mark)
  deriving Repr, Inhabited

/-- A loaded document: its items with their marks, how it ended early if it did, and where
    each anchor number points. -/
structure Document where
  items : Array (Item × Mark) := #[]
  error : Option LoadError := none
  names : List (String × Nat) := []
  targets : List (Nat × Nat) := []
  deriving Inhabited

inductive Loader where
  | active (p : Parser) (count : Nat)
  | failed (e : SyntaxError)
  | done

def Document.anchorHere (d : Document) : Option String → Document
  | none => d
  | some name =>
    let id := d.names.length
    let names := if d.names.any (·.1 == name) then
        d.names.map fun (n, i) => if n == name then (n, id) else (n, i)
      else d.names ++ [(name, id)]
    { d with names, targets := (id, d.items.size) :: d.targets.filter (·.1 != id) }

def Document.target? (d : Document) (id : Nat) : Option Nat :=
  (d.targets.find? (·.1 == id)).map (·.2)

def eventBound (n : Nat) : Nat := 8 * n + 64

def Loader.next : Loader → Option Document × Loader
  | .done => (none, .done)
  | .failed e => (some { error := some (.malformed e) }, .failed e)
  | .active p0 count => Id.run do
    let first := count == 0
    let mut p := p0
    let mut d : Document := {}
    for _ in [0:eventBound p0.scanner.input.size] do
      match nextEvent.run p with
      | .error e => return (some { d with error := some (.malformed e) }, .failed e)
      | .ok (ev, p') =>
        p := p'
        match ev.kind with
        | .streamStart | .documentStart => pure ()
        | .streamEnd =>
          if first then
            let whole := if d.items.isEmpty then { d with items := d.items.push (.empty, ev.start) } else d
            return (some whole, .done)
          return (none, .done)
        | .documentEnd => return (some d, .active p (count + 1))
        | .alias name =>
          match d.names.find? (·.1 == name) with
          | some (_, id) => d := { d with items := d.items.push (.alias id, ev.start) }
          | none => return (some { d with error := some (.unknownAnchor ev.start) }, .active p (count + 1))
        | .scalar anchor tag text style =>
          d := d.anchorHere anchor
          d := { d with items := d.items.push (.scalar tag text style, ev.start) }
        | .sequenceStart anchor _ =>
          d := d.anchorHere anchor
          d := { d with items := d.items.push (.sequenceStart, ev.start) }
        | .sequenceEnd => d := { d with items := d.items.push (.sequenceEnd, ev.start) }
        | .mappingStart anchor _ =>
          d := d.anchorHere anchor
          d := { d with items := d.items.push (.mappingStart, ev.start) }
        | .mappingEnd => d := { d with items := d.items.push (.mappingEnd, ev.start) }
    return (some d, .done)

def Loader.ofText (text : String) : Loader :=
  match Parser.ofText text with
  | .ok p => .active p 0
  | .error e => .failed e

end RequestFirewall.Yaml

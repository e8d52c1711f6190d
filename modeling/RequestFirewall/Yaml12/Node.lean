import RequestFirewall.Yaml12.Event
import RequestFirewall.Text.Numeral
import RequestFirewall.Text.Escape
/- The documents of a YAML 1.2 text as trees of nodes.

   An untagged plain scalar is resolved by its text: `0x` and `0o` with hex or octal digits
   after one optional sign, or `+` and a decimal, are integers; `~` and `null` are null; `true`
   and `false` are flags; a 64-bit decimal integer is an integer; a text that reads as a float
   (the standard way, or `.inf`, `.nan` and their spellings) is a real number kept as text;
   anything else is text. Quoted and block scalars are text. A plain scalar with a core tag
   `!!bool`, `!!int`, `!!float` or `!!null` must read as that kind, or it is a bad value.

   An alias copies its anchor's node once that node is complete, and is a bad value while the
   node is still being read. In a mapping a bad value cannot be a key: the node after it takes
   the key's place. A repeated key moves to the end with the later value, and the first key
   repeated in a mapping is a fault at the mark of its second value, reported once the text has
   been read without a syntax error. -/
namespace RequestFirewall.Yaml12

open Yaml (ScalarStyle Mark)

inductive Node where
  | text (s : String)
  | real (s : String)
  | int (n : Int)
  | flag (b : Bool)
  | null
  | bad
  | list (items : List Node)
  | map (entries : List (Node × Node))
  deriving Inhabited

mutual

/-- A text that tells nodes apart as map keys: two nodes have the same signature exactly when
    they are equal. -/
def Node.signature : Node → String
  | .text s => "s" ++ Nat.repr s.length ++ ":" ++ s
  | .real s => "r" ++ Nat.repr s.length ++ ":" ++ s
  | .int n => "i" ++ (if n < 0 then "-" else "") ++ Nat.repr n.natAbs ++ ";"
  | .flag b => if b then "t" else "f"
  | .null => "n"
  | .bad => "b"
  | .list items => "[" ++ Node.listSignature items ++ "]"
  | .map entries => "\x7b" ++ Node.entrySignature entries ++ "\x7d"

def Node.listSignature : List Node → String
  | [] => ""
  | n :: rest => n.signature ++ Node.listSignature rest

def Node.entrySignature : List (Node × Node) → String
  | [] => ""
  | (k, v) :: rest => k.signature ++ v.signature ++ Node.entrySignature rest

end

mutual

def Node.debug : Node → String
  | .text s => "String(" ++ Text.debugQuote s ++ ")"
  | .real s => "Real(" ++ Text.debugQuote s ++ ")"
  | .int n => "Integer(" ++ (if n < 0 then "-" else "") ++ Nat.repr n.natAbs ++ ")"
  | .flag b => if b then "Boolean(true)" else "Boolean(false)"
  | .null => "Null"
  | .bad => "BadValue"
  | .list items => "Array([" ++ Node.listDebug items ++ "])"
  | .map entries => "Hash(\x7b" ++ Node.entryDebug entries ++ "\x7d)"

def Node.listDebug : List Node → String
  | [] => ""
  | [n] => n.debug
  | n :: rest => n.debug ++ ", " ++ Node.listDebug rest

def Node.entryDebug : List (Node × Node) → String
  | [] => ""
  | [(k, v)] => k.debug ++ ": " ++ v.debug
  | (k, v) :: rest => k.debug ++ ": " ++ v.debug ++ ", " ++ Node.entryDebug rest

end

def Node.isBad : Node → Bool
  | .bad => true
  | _ => false

/-- Whether a text reads as a float: the YAML spellings of infinity and not-a-number, or the
    standard float syntax. -/
def readsAsReal (s : String) : Bool :=
  [".inf", ".Inf", ".INF", "+.inf", "+.Inf", "+.INF", "-.inf", "-.Inf", "-.INF",
    ".nan", "NaN", ".NAN"].contains s || (standardFloat? s).isSome

def radixInteger? (radix : Nat) (cs : List Char) : Option Int :=
  Yaml.integerIn radix (-((Nat.pow 2 63 : Nat) : Int)) ((Nat.pow 2 63 - 1 : Nat) : Int) cs

def Node.ofPlain (text : String) : Node :=
  let cs := text.toList
  let viaPrefix : Option Int := match cs with
    | '0' :: 'x' :: rest => radixInteger? 16 rest
    | '0' :: 'o' :: rest => radixInteger? 8 rest
    | '+' :: rest => signedWord? (String.ofList rest)
    | _ => none
  match viaPrefix with
  | some n => .int n
  | none =>
    if text == "~" || text == "null" then .null
    else if text == "true" then .flag true
    else if text == "false" then .flag false
    else match signedWord? text with
      | some n => .int n
      | none => if readsAsReal text then .real text else .text text

def Node.ofScalar (text : String) (style : ScalarStyle) (tag : Option (String × String)) : Node :=
  if style != .plain then .text text
  else match tag with
    | none => Node.ofPlain text
    | some (pfx, suffix) =>
      if pfx != "tag:yaml.org,2002:" then .text text
      else if suffix == "bool" then
        if text == "true" then .flag true else if text == "false" then .flag false else .bad
      else if suffix == "int" then
        match signedWord? text with
        | some n => .int n
        | none => .bad
      else if suffix == "float" then
        if readsAsReal text then .real text else .bad
      else if suffix == "null" then
        if text == "~" || text == "null" then .null else .bad
      else .text text

def hasKey (key : Node) (entries : List (Node × Node)) : Bool :=
  entries.any fun e => e.1.signature == key.signature

def putNode (key v : Node) (entries : List (Node × Node)) : List (Node × Node) :=
  entries.filter (fun e => e.1.signature != key.signature) ++ [(key, v)]

/-- A collection being read, with its anchor; a mapping holds the key waiting for its value,
    a bad value when none is. -/
inductive Frame where
  | list (anchor : Nat) (items : Array Node)
  | map (anchor : Nat) (entries : List (Node × Node)) (key : Node)

/-- Where the reading of events stands: the open collections, innermost first, the finished
    anchored nodes, the node of the current document, the finished documents, and the first
    repeated key met. -/
structure Loader where
  frames : List Frame := []
  anchored : List (Nat × Node) := []
  root : Option Node := none
  documents : Array Node := #[]
  fault : Option Fault := none

namespace Loader

def noteRepeated (l : Loader) (key : Node) (mark : Mark) : Loader :=
  match l.fault with
  | some _ => l
  | none => { l with fault := some ⟨key.debug ++ ": duplicated key in mapping", mark⟩ }

/-- Adds a complete node, completed at a mark, to the collection being read, or as the
    document's node. -/
def insert (l : Loader) (anchor : Nat) (n : Node) (mark : Mark) : Loader :=
  let l := if anchor > 0 then { l with anchored := (anchor, n) :: l.anchored } else l
  match l.frames with
  | [] => { l with root := some n }
  | .list a items :: rest => { l with frames := .list a (items.push n) :: rest }
  | .map a entries key :: rest =>
    if key.isBad then { l with frames := .map a entries n :: rest }
    else
      let l := if hasKey key entries then l.noteRepeated key mark else l
      { l with frames := .map a (putNode key n entries) .bad :: rest }

def step (l : Loader) : Event × Mark → Loader
  | (.documentEnd, _) =>
    { l with documents := l.documents.push (l.root.getD .bad), root := none }
  | (.sequenceStart anchor, _) => { l with frames := .list anchor #[] :: l.frames }
  | (.mappingStart anchor, _) => { l with frames := .map anchor [] .bad :: l.frames }
  | (.sequenceEnd, m) | (.mappingEnd, m) =>
    match l.frames with
    | .list a items :: rest => { l with frames := rest }.insert a (.list items.toList) m
    | .map a entries _ :: rest => { l with frames := rest }.insert a (.map entries) m
    | [] => l
  | (.scalar text style anchor tag, m) => l.insert anchor (Node.ofScalar text style tag) m
  | (.alias id, m) => l.insert 0 (((l.anchored.find? (·.1 == id)).map (·.2)).getD .bad) m
  | _ => l

end Loader

def documents (text : String) : Except Fault (Array Node) := do
  let evs ← events text
  let l := evs.foldl Loader.step {}
  match l.fault with
  | some f => throw f
  | none => pure l.documents

end RequestFirewall.Yaml12

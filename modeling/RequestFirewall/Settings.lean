import RequestFirewall.Decimal.Shortest
import RequestFirewall.Text.Escape
import RequestFirewall.Text.Blank
import RequestFirewall.Word
import RequestFirewall.Yaml.Scalar
import RequestFirewall.Text.Numeral
import RequestFirewall.Text.Case
/- Layered settings: a tree of loosely typed values, each remembering the source it came from
   (a file path or the environment), and the lenient reading of a value as text, flag or word.

   Layers are laid one over another by dotted paths. Setting a table merges it key by key into
   what is there; setting anything else replaces. Every step down a path turns a value that is
   not a table into an empty one.

   Reading coerces: numbers and flags read as text, numbers and the words `on`/`off`,
   `yes`/`no`, `1`/`0` as flags, flags and number texts as words. A value that cannot be read
   names what it is, what was wanted, its dotted key and its source. -/
namespace RequestFirewall

inductive Setting where
  | nil (origin : Option String)
  | bool (b : Bool) (origin : Option String)
  | int (n : Int) (origin : Option String)
  | float (f : Float) (origin : Option String)
  | text (s : String) (origin : Option String)
  | list (items : List Setting) (origin : Option String)
  | table (entries : List (String × Setting)) (origin : Option String)
  deriving Inhabited

namespace Setting

def origin : Setting → Option String
  | .nil o | .bool _ o | .int _ o | .float _ o | .text _ o | .list _ o | .table _ o => o

def empty : Setting := .table [] none

def describe : Setting → String
  | .nil _ => "unit value"
  | .bool b _ => "boolean `" ++ (if b then "true" else "false") ++ "`"
  | .int n _ => "64-bit integer `" ++ (if n < 0 then "-" else "") ++ Nat.repr n.natAbs ++ "`"
  | .float f _ => "floating point `" ++ Decimal.plain f ++ "`"
  | .text s _ => "string " ++ Text.debugQuote s
  | .list _ _ => "sequence"
  | .table _ _ => "map"

def describeAsRecord : Setting → String
  | .int n _ => "integer `" ++ (if n < 0 then "-" else "") ++ Nat.repr n.natAbs ++ "`"
  | .float f _ => "floating point `" ++ Decimal.withPoint f ++ "`"
  | s => s.describe

end Setting

inductive SettingError where
  | mistyped (found expected : String) (key : Option String) (origin : Option String)
  | message (text : String)
  deriving Inhabited

namespace SettingError

def render : SettingError → String
  | .mistyped found expected key origin =>
    "invalid type: " ++ found ++ ", expected " ++ expected ++
      (match key with | some k => " for key `" ++ k ++ "`" | none => "") ++
      (match origin with | some o => " in " ++ o | none => "")
  | .message text => text

/-- Puts a segment in front of the key of an error; a field name is joined with a dot to a key
    that goes on with a name. -/
def within (segment : String) (dotted : Bool) : SettingError → SettingError
  | .mistyped found expected key origin =>
    let rest := key.getD ""
    let dot := if dotted && !rest.isEmpty && !rest.startsWith "[" then "." else ""
    .mistyped found expected (some (segment ++ dot ++ rest)) origin
  | e => e

def inField (name : String) (e : SettingError) : SettingError := e.within name true

def atIndex (i : Nat) (e : SettingError) : SettingError := e.within ("[" ++ Nat.repr i ++ "]") false

end SettingError

namespace Setting

def mismatch (s : Setting) (expected : String) : SettingError :=
  .mistyped s.describe expected none s.origin

def asText (s : Setting) : Except SettingError String :=
  match s with
  | .text t _ => .ok t
  | .bool b _ => .ok (if b then "true" else "false")
  | .int n _ => .ok ((if n < 0 then "-" else "") ++ Nat.repr n.natAbs)
  | .float f _ => .ok (Decimal.plain f)
  | s => .error (s.mismatch "a string")

/-- Reads a value as a flag: numbers are true unless zero, and texts are read without regard
    to case. -/
def asFlag (s : Setting) : Except SettingError Bool :=
  match s with
  | .bool b _ => .ok b
  | .int n _ => .ok (n != 0)
  | .float f _ => .ok (f != 0)
  | .text t o =>
    let lower := Text.toLower t
    if lower == "1" || lower == "true" || lower == "on" || lower == "yes" then .ok true
    else if lower == "0" || lower == "false" || lower == "off" || lower == "no" then .ok false
    else .error (.mistyped ("string " ++ Text.debugQuote lower) "a boolean" none o)
  | s => .error (s.mismatch "a boolean")

/-- Reads a value as an unsigned word: flags are 0 or 1, floats are rounded and clamped to the
    word range, and texts are the flag words or decimal digits. -/
def asWord (s : Setting) : Except SettingError Nat :=
  match s with
  | .int n o =>
    if 0 ≤ n then .ok n.toNat
    else .error (.mistyped (Setting.int n o).describe "an unsigned 64 bit or less integer" none o)
  | .bool b _ => .ok (if b then 1 else 0)
  | .float f _ => .ok f.round.toUInt64.toNat
  | .text t o =>
    let lower := Text.asciiLower t
    if lower == "true" || lower == "on" || lower == "yes" then .ok 1
    else if lower == "false" || lower == "off" || lower == "no" then .ok 0
    else match Word.ofDecimal? t with
      | some n => .ok n
      | none => .error (.mistyped ("string " ++ Text.debugQuote t) "an integer" none o)
  | s => .error (s.mismatch "an integer")

def asOption {α : Type} (read : Setting → Except SettingError α) (s : Setting) :
    Except SettingError (Option α) :=
  match s with
  | .nil _ => .ok none
  | s => some <$> read s

/-- Reads a record named `name` with the given fields: from a table by name (other keys are
    ignored), or from a list by position (extra items are ignored). Errors inside a field carry
    its name or index in their key. -/
def asRecord {α : Type} (name : String) (fields : List String) (init : α)
    (take : String → Setting → α → Except SettingError α) (s : Setting) :
    Except SettingError α :=
  match s with
  | .table entries _ =>
    entries.foldlM (fun acc (k, v) =>
      if fields.contains k then (take k v acc).mapError (SettingError.inField k) else .ok acc) init
  | .list items _ =>
    (fields.zip ((List.range items.length).zip items)).foldlM
      (fun acc (k, i, v) => (take k v acc).mapError (SettingError.atIndex i)) init
  | s => .error (.message ("invalid type: " ++ s.describeAsRecord ++ ", expected " ++ name))

def entry? (s : Setting) (key : String) : Option Setting :=
  match s with
  | .table entries _ => (entries.find? (·.1 == key)).map (·.2)
  | _ => none

def asTable : Setting → List (String × Setting) × Option String
  | .table entries o => (entries, o)
  | _ => ([], none)

def putEntry (key : String) (v : Setting) : List (String × Setting) → List (String × Setting)
  | [] => [(key, v)]
  | (k, w) :: rest => if k == key then (key, v) :: rest else (k, w) :: putEntry key v rest

mutual

/-- Sets a key of a value made a table: a table merges key by key into the entry there (or
    into a new table), anything else replaces the entry. -/
def assign (node : Setting) (key : String) (v : Setting) : Setting :=
  let (entries, o) := node.asTable
  match v with
  | .table incoming _ =>
    let target := (node.entry? key).getD Setting.empty
    .table (putEntry key (assignAll target incoming) entries) o
  | v => .table (putEntry key v entries) o

def assignAll (node : Setting) : List (String × Setting) → Setting
  | [] => node
  | (k, v) :: rest => assignAll (assign node k v) rest

end

def setAt (node : Setting) : List String → Setting → Setting
  | [], v => v
  | [key], v => node.assign key v
  | key :: rest, v =>
    let (entries, o) := node.asTable
    let child := (node.entry? key).getD (.nil none)
    .table (putEntry key (child.setAt rest v) entries) o

end Setting

def isKeyPathChar (c : Char) : Bool := c.isAlphanum || c == '_' || c == '-'

/-- The segments of a dotted key; a key that is not a dotted path of plain segments is one
    segment as it stands. -/
def keyPath (key : String) : List String :=
  let parts := key.splitOn "."
  if parts.all fun p => !p.isEmpty && p.all isKeyPathChar then parts else [key]

end RequestFirewall

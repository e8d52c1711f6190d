import RequestFirewall.Text.Blank
import RequestFirewall.Digest.Sha1
/- Store keys. A rule name or an extracted key becomes a segment that is safe in any counter
   store: trimmed, with every character outside `[A-Za-z0-9._:-]` turned into `_`, runs of `_`
   collapsed, and a long result cut and tagged with a digest of the untouched input. A store key
   joins a prefix, the kind of counter, the rule segment and the key segment with `:`. -/
namespace RequestFirewall

def isKeyChar (c : Char) : Bool :=
  c.isAlphanum || c == '.' || c == '_' || c == ':' || c == '-'

def sanitize : List Char → List Char
  | [] => []
  | c :: rest =>
    let d := if isKeyChar c then c else '_'
    match sanitize rest with
    | '_' :: tail => if d == '_' then '_' :: tail else d :: '_' :: tail
    | tail => d :: tail

def maxSegment : Nat := 120

def keptPrefix : Nat := 107

/-- The store-safe form of a key. Empty (after trimming) becomes `empty`; a sanitized form
    longer than `maxSegment` keeps its first `keptPrefix` characters, then `-` and the first
    twelve hex digits of the SHA-1 digest of the raw input. -/
def normalizeKey (raw : String) : String :=
  let trimmed := Text.trimBlankList raw.toList
  if trimmed.isEmpty then "empty"
  else
    let clean := sanitize trimmed
    if clean.length ≤ maxSegment then String.ofList clean
    else
      String.ofList (clean.take keptPrefix) ++ "-" ++
        String.ofList ((Digest.Sha1.hexDigest raw).toList.take 12)

inductive CounterKind where
  | throttle
  | track
  | fail2banFail
  | fail2banBan
  deriving DecidableEq, Repr

def CounterKind.segment : CounterKind → String
  | .throttle => "throttle"
  | .track => "track"
  | .fail2banFail => "fail2ban:fail"
  | .fail2banBan => "fail2ban:ban"

/-- The address of one counter: a namespace prefix, the kind of counter, and the rule and
    request key it counts for. -/
structure StoreKey where
  namespacePrefix : String
  kind : CounterKind
  rule : String
  key : String

def StoreKey.render (k : StoreKey) : String :=
  k.namespacePrefix ++ ":" ++ k.kind.segment ++ ":" ++ normalizeKey k.rule ++ ":" ++
    normalizeKey k.key

end RequestFirewall

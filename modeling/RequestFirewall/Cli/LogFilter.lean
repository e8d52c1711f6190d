import RequestFirewall.Text.Blank
import RequestFirewall.Text.Alphanumeric
import RequestFirewall.Word
/- Log filter directives. A filter is a comma-separated list of directives, empty ones
   skipped. A directive that names a level filter as a whole sets the global level. Otherwise
   its text, trimmed of blanks, is read by a small machine: a target (starting with a letter,
   a digit, `-`, `:` or `_`) or a span in brackets, whose braces may hold nonempty fields
   separated by commas, then optionally `=` and a level. A level filter is a number from 0 to
   5, a level name in any ASCII case, or nothing.

   The machine counts positions in the trimmed text but takes the level from the directive as
   written, so blanks before a directive shift the level it reads.

   The log filter comes from the environment when that filter is well formed as a whole;
   otherwise the configured level is read leniently, and each directive of it that is not well
   formed is reported and skipped. Log records themselves never reach the caller. -/
namespace RequestFirewall.Cli

/-- Whether a text names a level filter: a number from 0 to 5 written in decimal after an
    optional `+`, a level name in any ASCII case, or the empty text. -/
def isLevelFilter (s : String) : Bool :=
  let digits := match s.toList with
    | '+' :: rest => rest
    | cs => cs
  (!digits.isEmpty && digits.all Char.isDigit && Word.digitsValue digits ≤ 5) || s.isEmpty ||
    ["error", "warn", "info", "debug", "trace", "off"].contains (Text.asciiLower s)

inductive DirectiveError where
  | level
  | malformed

def DirectiveError.message : DirectiveError → String
  | .level =>
    "error parsing level filter: expected one of \"off\", \"error\", \"warn\", \"info\", " ++
      "\"debug\", \"trace\", or a number 0-5"
  | .malformed => "invalid filter directive"

inductive DirectiveState where
  | start
  | targetOrLevel
  | span
  | field (start : Nat)
  | fields
  | target
  | level (start : Nat)
  | complete

def byteSlice (raw : String) (lo hi : Nat) : Option String :=
  String.fromUTF8? (raw.toUTF8.extract lo hi)

def levelAt (raw : String) (lo hi : Nat) : Except DirectiveError Unit :=
  match byteSlice raw lo hi with
  | some t => if isLevelFilter t then .ok () else .error .level
  | none => .error .level

def startsTarget (c : Char) : Bool := c == '-' || c == ':' || c == '_' || Text.isAlphanumeric c

def stepDirective (raw : String) : DirectiveState → Nat × Char → Except DirectiveError DirectiveState
  | .start, (_, c) =>
    if c == '[' then .ok .span
    else if startsTarget c then .ok .targetOrLevel
    else .error .malformed
  | .targetOrLevel, (i, c) =>
    if c == '=' then .ok (.level (i + 1))
    else if c == '[' then .ok .span
    else if c == ',' then .ok .complete
    else .ok .targetOrLevel
  | .span, (i, c) =>
    if c == ']' then .ok .target
    else if c == '{' then .ok (.field (i + 1))
    else .ok .span
  | .field s, (i, c) =>
    if c == '}' || c == ',' then
      if s == i then .error .malformed
      else .ok (if c == '}' then .fields else .field (i + 1))
    else .ok (.field s)
  | .fields, (_, c) => if c == ']' then .ok .target else .error .malformed
  | .target, (i, c) => if c == '=' then .ok (.level (i + 1)) else .error .malformed
  | .level s, (i, c) =>
    if c == ',' then do
      levelAt raw s i
      pure .complete
    else .ok (.level s)
  | .complete, _ => .error .malformed

def finishDirective (raw : String) : DirectiveState → Except DirectiveError Unit
  | .targetOrLevel | .target | .complete => .ok ()
  | .level s => levelAt raw s raw.utf8ByteSize
  | .start | .span | .field _ | .fields => .error .malformed

def byteIndexed (cs : List Char) : List (Nat × Char) :=
  (cs.foldl (fun (acc, pos) c => (acc.push (pos, c), pos + c.utf8Size)) (#[], 0)).1.toList

def checkDirective (d : String) : Except DirectiveError Unit :=
  if isLevelFilter d then .ok ()
  else do
    let final ← (byteIndexed (Text.trimBlank d).toList).foldlM (stepDirective d) .start
    finishDirective d final

def directives (filter : String) : List String :=
  (filter.splitOn ",").filter (!·.isEmpty)

def isDirective (d : String) : Bool :=
  match checkDirective d with
  | .ok () => true
  | .error _ => false

def isFilter (filter : String) : Bool := (directives filter).all isDirective

def skippedDirectives (filter : String) : List String :=
  (directives filter).filterMap fun d =>
    match checkDirective d with
    | .ok () => none
    | .error e => some ("ignoring `" ++ d ++ "`: " ++ e.message)

/-- The reports made when logging starts: none when the environment's filter is well formed,
    else those for the configured level. -/
def loggingReports (environmentFilter : Option String) (configuredLevel : String) : List String :=
  match environmentFilter with
  | some f => if isFilter f then [] else skippedDirectives configuredLevel
  | none => skippedDirectives configuredLevel

end RequestFirewall.Cli

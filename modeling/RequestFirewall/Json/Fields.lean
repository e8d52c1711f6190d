import RequestFirewall.Json.Reader
/- Reading JSON text for a record that knows only some field names. The fields it knows are
   read in full, as `parse?` reads them; every other field's value is passed over with its
   grammar checked and nothing more: its numbers are not evaluated, so any size goes; its
   `\u` escapes need not pair into characters; and its arrays and objects may nest without
   limit. A text that is not an object is read in full. -/
namespace RequestFirewall.Json

def skipString : List Char → Option (List Char)
  | [] => none
  | '"' :: rest => some rest
  | '\\' :: c :: rest =>
    if c == 'u' then
      match rest with
      | a :: b :: d :: e :: more => if (hex4? a b d e).isSome then skipString more else none
      | _ => none
    else if "\"\\/bfnrt".contains c then skipString rest
    else none
  | '\\' :: [] => none
  | c :: rest => if c.toNat < 0x20 then none else skipString rest

/-- The rest after a number at the front that follows the grammar: `-`, an integer part
    without leading zeros, then optionally a fraction and an exponent, each with digits. -/
def skipNumber (cs : List Char) : Option (List Char) := do
  let afterSign := match cs with
    | '-' :: rest => rest
    | _ => cs
  let (intDigits, afterInt) := spanDigits afterSign
  if intDigits.isEmpty || (intDigits.length > 1 && intDigits.head? == some '0') then none
  let afterFrac ← match afterInt with
    | '.' :: rest =>
      let (ds, r) := spanDigits rest
      if ds.isEmpty then none else some r
    | _ => some afterInt
  match afterFrac with
  | e :: rest =>
    if e == 'e' || e == 'E' then
      let unsigned := match rest with
        | '-' :: r => r
        | '+' :: r => r
        | r => r
      let (ds, r) := spanDigits unsigned
      if ds.isEmpty then none else some r
    else some afterFrac
  | [] => some afterFrac

/-- Where a grammar check stands: a value is due, one just ended, a collection just opened,
    or an object key is due. -/
inductive SkipMode where
  | value
  | ended
  | opened
  | key

/-- Passes over one value, checking only its grammar. `pending` holds the brackets of the
    collections entered and not yet closed, innermost first. -/
def skipOver : Nat → SkipMode → List Char → List Char → Option (List Char)
  | 0, _, _, _ => none
  | fuel + 1, .value, pending, cs =>
    match skipBlank cs with
    | 'n' :: 'u' :: 'l' :: 'l' :: rest => skipOver fuel .ended pending rest
    | 't' :: 'r' :: 'u' :: 'e' :: rest => skipOver fuel .ended pending rest
    | 'f' :: 'a' :: 'l' :: 's' :: 'e' :: rest => skipOver fuel .ended pending rest
    | '"' :: rest => (skipString rest).bind (skipOver fuel .ended pending)
    | '[' :: rest => skipOver fuel .opened ('[' :: pending) rest
    | '{' :: rest => skipOver fuel .opened ('{' :: pending) rest
    | other => (skipNumber other).bind (skipOver fuel .ended pending)
  | fuel + 1, .ended, pending, cs =>
    match pending, skipBlank cs with
    | [], _ => some cs
    | '[' :: _, ',' :: rest => skipOver fuel .value pending rest
    | '[' :: outer, ']' :: rest => skipOver fuel .ended outer rest
    | '{' :: _, ',' :: rest => skipOver fuel .key pending rest
    | '{' :: outer, '}' :: rest => skipOver fuel .ended outer rest
    | _, _ => none
  | fuel + 1, .opened, pending, cs =>
    match pending, skipBlank cs with
    | '[' :: outer, ']' :: rest => skipOver fuel .ended outer rest
    | '[' :: _, rest => skipOver fuel .value pending rest
    | '{' :: outer, '}' :: rest => skipOver fuel .ended outer rest
    | _, rest => skipOver fuel .key pending rest
  | fuel + 1, .key, pending, cs =>
    match skipBlank cs with
    | '"' :: rest =>
      match skipString rest with
      | some afterKey =>
        match skipBlank afterKey with
        | ':' :: afterColon => skipOver fuel .value pending afterColon
        | _ => none
      | none => none
    | _ => none

def skipValue? (cs : List Char) : Option (List Char) :=
  skipOver (3 * cs.length + 3) .value [] cs

/-- Object fields after `{` or a comma: known fields read in full at nesting one, the others
    passed over; the known fields kept so far come along. -/
def knownFields? (known : List String) : Nat → List Char → List (String × Json) →
    Option (Json × List Char)
  | 0, _, _ => none
  | fuel + 1, cs, acc =>
    match skipBlank cs with
    | '"' :: rest => do
      let (k, afterKey) ← stringBody rest []
      let afterColon ← match skipBlank afterKey with
        | ':' :: r => some r
        | _ => none
      let (acc, afterValue) ← if known.contains k then
          (value? (2 * afterColon.length + 2) 1 afterColon).map fun (v, r) => ((k, v) :: acc, r)
        else (skipValue? afterColon).map fun r => (acc, r)
      match skipBlank afterValue with
      | ',' :: more => knownFields? known fuel more acc
      | '}' :: more => some (.obj acc.reverse, more)
      | _ => none
    | _ => none

/-- Reads a whole text for a record with the `known` field names: an object keeps only its
    known fields, any other value is read in full; blanks may surround it. -/
def parseFields? (known : List String) (s : String) : Option Json :=
  let cs := s.toList
  let read := match skipBlank cs with
    | '{' :: rest =>
      match skipBlank rest with
      | '}' :: more => some (Json.obj [], more)
      | _ => knownFields? known (cs.length + 1) rest []
    | _ => value? (2 * cs.length + 2) 0 cs
  match read with
  | some (v, rest) => if (skipBlank rest).isEmpty then some v else none
  | none => none

end RequestFirewall.Json

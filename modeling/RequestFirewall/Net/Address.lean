/- IP addresses: reading their text and writing it in canonical form.

   An IPv4 address is four dotted decimal octets, each of one to three digits, at most 255,
   with no leading zero. An IPv6 address is eight colon-separated groups of one to four hex
   digits; one `::` may stand for one or more zero groups, and the last two groups may be
   written as an embedded IPv4 address, but not before the `::`. Nothing else is allowed: no
   blanks, zone ids or prefixes.

   The canonical IPv6 text writes groups in lowercase hex without leading zeros and replaces
   the first longest run of two or more zero groups by `::`; an IPv4-mapped address is written
   `::ffff:` followed by its dotted IPv4 form. -/
namespace RequestFirewall.Net

inductive IpAddr where
  | v4 (octets : Vector Nat 4)
  | v6 (groups : Vector Nat 8)
  deriving DecidableEq, Repr

/-- A run of at most `max` digits of `radix` at the front, and the rest. Without
    `zeroPrefix`, a run of more than one digit may not start with `0`. -/
def readNumber (radix max : Nat) (zeroPrefix : Bool) (cs : List Char) : Option (Nat × List Char) :=
  let digitOf (c : Char) : Option Nat :=
    if c.isDigit then some (c.toNat - '0'.toNat)
    else if radix == 16 && 'a' ≤ c && c ≤ 'f' then some (c.toNat - 'a'.toNat + 10)
    else if radix == 16 && 'A' ≤ c && c ≤ 'F' then some (c.toNat - 'A'.toNat + 10)
    else none
  let run := cs.takeWhile fun c => (digitOf c).isSome
  if run.isEmpty || run.length > max then none
  else if !zeroPrefix && run.length > 1 && run.head? == some '0' then none
  else some (run.foldl (fun acc c => acc * radix + (digitOf c).getD 0) 0, cs.drop run.length)

def readV4 (cs : List Char) : Option (Vector Nat 4 × List Char) := do
  let octet (xs : List Char) : Option (Nat × List Char) := do
    let (v, r) ← readNumber 10 3 false xs
    if v ≤ 255 then pure (v, r) else none
  let (a, r1) ← octet cs
  let (b, r2) ← match r1 with | '.' :: r => octet r | _ => none
  let (c, r3) ← match r2 with | '.' :: r => octet r | _ => none
  let (d, r4) ← match r3 with | '.' :: r => octet r | _ => none
  pure (#v[a, b, c, d], r4)

/-- Up to `limit` colon-separated groups at the front: the groups read, whether the last two
    came from an embedded IPv4 address, and the rest. An embedded IPv4 address is tried first
    wherever at least two groups are left. -/
def readGroups (limit : Nat) (cs : List Char) : List Nat × Bool × List Char :=
  go limit 0 cs []
where
  go : Nat → Nat → List Char → List Nat → List Nat × Bool × List Char
    | 0, _, rest, acc => (acc.reverse, false, rest)
    | left + 1, i, rest, acc =>
      let afterSep := if i = 0 then some rest else match rest with
        | ':' :: r => some r
        | _ => none
      match afterSep with
      | none => (acc.reverse, false, rest)
      | some body =>
        let embedded := if left ≥ 1 then readV4 body else none
        match embedded with
        | some (v, r) =>
          (acc.reverse ++ [v[0] * 256 + v[1], v[2] * 256 + v[3]], true, r)
        | none =>
          match readNumber 16 4 true body with
          | some (g, r) => go left (i + 1) r (g :: acc)
          | none => (acc.reverse, false, rest)

def readV6 (cs : List Char) : Option (Vector Nat 8 × List Char) :=
  let (head, headV4, rest) := readGroups 8 cs
  if h : head.length = 8 then some (⟨head.toArray, by simpa using h⟩, rest)
  else if headV4 then none
  else match rest with
    | ':' :: ':' :: more =>
      let (tail, _, after) := readGroups (8 - (head.length + 1)) more
      let groups := head ++ List.replicate (8 - head.length - tail.length) 0 ++ tail
      if h : groups.length = 8 then some (⟨groups.toArray, by simpa using h⟩, after) else none
    | _ => none

def IpAddr.parse? (s : String) : Option IpAddr :=
  let cs := s.toList
  match readV4 cs with
  | some (v, []) => some (.v4 v)
  | _ =>
    match readV6 cs with
    | some (g, []) => some (.v6 g)
    | _ => none

def hexText (n : Nat) : String :=
  String.ofList ((Nat.toDigits 16 n).map Char.toLower)

def v4Text (o : Vector Nat 4) : String :=
  ".".intercalate (o.toList.map Nat.repr)

def longestZeroRun (gs : List Nat) : Nat × Nat :=
  let step (acc : (Nat × Nat) × (Nat × Nat)) (ig : Nat × Nat) : (Nat × Nat) × (Nat × Nat) :=
    let (best, cur) := acc
    let (i, g) := ig
    if g = 0 then
      let cur' := if cur.2 = 0 then (i, 1) else (cur.1, cur.2 + 1)
      (if cur'.2 > best.2 then cur' else best, cur')
    else (best, (0, 0))
  (gs.zipIdx.map (fun (g, i) => (i, g))).foldl step ((0, 0), (0, 0)) |>.1

def IpAddr.render : IpAddr → String
  | .v4 o => v4Text o
  | .v6 g =>
    let gs := g.toList
    if gs.take 6 == [0, 0, 0, 0, 0, 0xFFFF] then
      "::ffff:" ++ v4Text #v[g[6] / 256, g[6] % 256, g[7] / 256, g[7] % 256]
    else
      let (start, len) := longestZeroRun gs
      let part (xs : List Nat) : String := ":".intercalate (xs.map hexText)
      if len > 1 then part (gs.take start) ++ "::" ++ part (gs.drop (start + len))
      else part gs

end RequestFirewall.Net

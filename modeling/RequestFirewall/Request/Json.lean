import RequestFirewall.Request
import RequestFirewall.Decode.Json
/- Requests read from JSON. An object may carry `method`, `path`, `headers` (a map of texts)
   and `client_ip` (an address text or null), in any order, each at most once; other fields are
   ignored. An array gives the same fields by position. Missing fields take the defaults of
   `GET`, `/`, no headers and no address. -/
namespace RequestFirewall.Request

structure Parts where
  method : Option String := none
  path : Option String := none
  headers : Option (List (String × String)) := none
  clientIp : Option (Option Net.IpAddr) := none

def Parts.build (p : Parts) : Request :=
  let base : Request := { method := p.method.getD "GET", path := p.path.getD "/" }
  let withHeaders := (p.headers.getD []).foldl (fun r (k, v) => r.withHeader k v) base
  { withHeaders with clientIp := p.clientIp.getD none }

def clientIpOfJson (j : Json) : Except DecodeFault (Option Net.IpAddr) :=
  match j with
  | .null => .ok none
  | .str s =>
    match Net.IpAddr.parse? s with
    | some ip => .ok (some ip)
    | none => .error (.custom "invalid IP address syntax")
  | j => .error (.invalidType j.found "IP address")

def Parts.take (p : Parts) (name : String) (v : Json) : Except DecodeFault Parts :=
  match name with
  | "method" =>
    if p.method.isSome then .error (.duplicateField "method")
    else do pure { p with method := some (Text.asciiUpper (← v.asString)) }
  | "path" =>
    if p.path.isSome then .error (.duplicateField "path")
    else do pure { p with path := some (← v.asString) }
  | "headers" =>
    if p.headers.isSome then .error (.duplicateField "headers")
    else do pure { p with headers := some (← v.asTextMap) }
  | "client_ip" =>
    if p.clientIp.isSome then .error (.duplicateField "client_ip")
    else do pure { p with clientIp := some (← clientIpOfJson v) }
  | _ => .ok p

def positions : List String := ["method", "path", "headers", "client_ip"]

def ofJson (j : Json) : Except DecodeFault Request :=
  match j with
  | .obj fields => do
    let parts ← fields.foldlM (fun p (k, v) => p.take k v) ({} : Parts)
    pure parts.build
  | .arr items => do
    let parts ← (positions.zip items).foldlM (fun p (k, v) => p.take k v) ({} : Parts)
    if items.length > positions.length then
      .error (.invalidLength items.length "fewer elements in array")
    else pure parts.build
  | j => .error (.invalidType j.found "struct Request")

end RequestFirewall.Request

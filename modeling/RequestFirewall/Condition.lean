import RequestFirewall.Request
/- Conditions on requests, the filters of the firewall's rules. A condition tests the path (by
   prefix or whole, case-sensitively), the method (ignoring ASCII case), a header (by exact value
   or mere presence), or the client address (by membership in a list, comparing parsed
   addresses), and combines conditions by any, all and not. Every condition has a short
   description, and a check reports the header value or client address it looked at. -/
namespace RequestFirewall

inductive Condition where
  | always
  | pathPrefix (start : String)
  | pathIs (path : String)
  | methodIs (method : String)
  | headerIs (name value : String)
  | headerPresent (name : String)
  | ipIn (addrs : List Net.IpAddr)
  | anyOf (conditions : List Condition)
  | allOf (conditions : List Condition)
  | negate (condition : Condition)

/-- The result of checking a condition: whether it held, the condition's description, and
    what it looked at when that is a header value or the client address. -/
structure Check where
  isMatch : Bool
  source : String
  metadata : Option String

namespace Condition

mutual

def holds (r : Request) : Condition → Bool
  | .always => true
  | .pathPrefix p => p.isPrefixOf r.path
  | .pathIs p => r.path == p
  | .methodIs m => Text.eqIgnoreAsciiCase r.method m
  | .headerIs name value => r.header name == some value
  | .headerPresent name => (r.header name).isSome
  | .ipIn addrs =>
    match r.clientIp with
    | some ip => addrs.contains ip
    | none => false
  | .anyOf cs => holdsAny r cs
  | .allOf cs => holdsAll r cs
  | .negate c => !holds r c

def holdsAny (r : Request) : List Condition → Bool
  | [] => false
  | c :: rest => holds r c || holdsAny r rest

def holdsAll (r : Request) : List Condition → Bool
  | [] => true
  | c :: rest => holds r c && holdsAll r rest

end

def describe : Condition → String
  | .always => "always"
  | .pathPrefix p => "path_prefix:" ++ p
  | .pathIs p => "path:" ++ p
  | .methodIs m => "method:" ++ Text.asciiUpper m
  | .headerIs name _ => "header:" ++ name
  | .headerPresent name => "header_present:" ++ name
  | .ipIn _ => "ip_list"
  | .anyOf _ => "any"
  | .allOf _ => "all"
  | .negate c => "not:" ++ describe c

def check (c : Condition) (r : Request) : Check :=
  let metadata := match c with
    | .headerIs name _ => r.header name
    | .ipIn _ => r.clientIp.map Net.IpAddr.render
    | _ => none
  ⟨c.holds r, c.describe, metadata⟩

theorem holdsAny_eq_any (r : Request) (cs : List Condition) :
    holdsAny r cs = cs.any (holds r) := by
  induction cs with
  | nil => rfl
  | cons c rest ih => simp [holdsAny, ih]

theorem holdsAll_eq_all (r : Request) (cs : List Condition) :
    holdsAll r cs = cs.all (holds r) := by
  induction cs with
  | nil => rfl
  | cons c rest ih => simp [holdsAll, ih]

end Condition

inductive MatchSpec where
  | mk (pathPrefix path method : Option String) (header : Option (String × String))
      (headerPresent : Option String) (ip : Option (List Net.IpAddr))
      (any all : Option (List MatchSpec)) (negated : Option MatchSpec)

namespace MatchSpec

def empty : MatchSpec := .mk none none none none none none none none none

mutual

/-- The condition a block stands for: its present conditions in the order path prefix, path,
    method, header, header presence, address list, any, all, not; none is `always`, one is
    itself, more must all hold. -/
def build : MatchSpec → Condition
  | .mk pathPrefix path method header headerPresent ip any all negated =>
    let parts : List Condition :=
      (pathPrefix.map Condition.pathPrefix).toList ++
      (path.map Condition.pathIs).toList ++
      (method.map Condition.methodIs).toList ++
      (header.map fun (n, v) => Condition.headerIs n v).toList ++
      (headerPresent.map Condition.headerPresent).toList ++
      (ip.map Condition.ipIn).toList ++
      (match any with
        | some specs => [Condition.anyOf (buildAll specs)]
        | none => []) ++
      (match all with
        | some specs => [Condition.allOf (buildAll specs)]
        | none => []) ++
      (match negated with
        | some spec => [Condition.negate (build spec)]
        | none => [])
    match parts with
    | [] => .always
    | [c] => c
    | cs => .allOf cs

def buildAll : List MatchSpec → List Condition
  | [] => []
  | s :: rest => build s :: buildAll rest

end

end MatchSpec

structure MatchParts where
  pathPrefix : Option String := none
  path : Option String := none
  method : Option String := none
  header : Option (String × String) := none
  headerPresent : Option String := none
  ip : Option (List Net.IpAddr) := none
  any : Option (List MatchSpec) := none
  all : Option (List MatchSpec) := none
  negated : Option MatchSpec := none

def MatchParts.spec (p : MatchParts) : MatchSpec :=
  .mk p.pathPrefix p.path p.method p.header p.headerPresent p.ip p.any p.all p.negated

def matchFieldNames : List String :=
  ["path_prefix", "path", "method", "header", "header_present", "ip", "any", "all", "not"]

end RequestFirewall

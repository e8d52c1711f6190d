import RequestFirewall.Request
/- Key sources: what part of a request a counting rule counts by. The written forms are `ip`,
   `path`, `method` and `header:<name>`, read after trimming; the header name is trimmed too and
   must not be empty. A request may lack the part (no address, no such header), and then the
   rule does not count it. -/
namespace RequestFirewall

inductive KeySource where
  | ip
  | path
  | method
  | header (name : String)
  deriving DecidableEq, Repr

namespace KeySource

def parse (raw : String) : Except String KeySource :=
  let t := Text.trimBlank raw
  if t == "ip" then .ok .ip
  else if t == "path" then .ok .path
  else if t == "method" then .ok .method
  else
    let name := Text.trimBlank (t.drop 7).toString
    if "header:".isPrefixOf t && !name.isEmpty then .ok (.header name)
    else .error ("unknown key source '" ++ t ++ "' (expected ip, path, method or header:<name>)")

def canonical : KeySource → String
  | .ip => "ip"
  | .path => "path"
  | .method => "method"
  | .header name => "header:" ++ name

/-- The part of a request a key source names: the canonical address, the path, the method,
    or a header's value. -/
def extract (k : KeySource) (r : Request) : Option String :=
  match k with
  | .ip => r.clientIp.map Net.IpAddr.render
  | .path => some r.path
  | .method => some r.method
  | .header name => r.header name

end KeySource

end RequestFirewall

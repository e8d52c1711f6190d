import RequestFirewall.Table
import RequestFirewall.Text.Blank
import RequestFirewall.Net.Address
/- Requests as the firewall sees them: a method, a path, headers and the client's address.
   The method is kept in ASCII upper case and header names in ASCII lower case, so that a
   header is found whatever the case of the name it is asked for. -/
namespace RequestFirewall

structure Request where
  method : String := "GET"
  path : String := "/"
  headers : Table String := {}
  clientIp : Option Net.IpAddr := none

namespace Request

def new (method path : String) : Request := { method := Text.asciiUpper method, path }

def get (path : String) : Request := new "GET" path

def withHeader (r : Request) (name value : String) : Request :=
  { r with headers := r.headers.insert (Text.asciiLower name) value }

def withClientIp (r : Request) (ip : Net.IpAddr) : Request := { r with clientIp := some ip }

def header (r : Request) (name : String) : Option String := r.headers.find? (Text.asciiLower name)

theorem header_withHeader (r : Request) (name value : String) :
    (r.withHeader name value).header name = some value := by
  simp [header, withHeader]

end Request

end RequestFirewall

import RequestFirewall.Text.Printable
/- Debug quoting: a text between double quotes, with quote, backslash, tab, carriage return,
   line feed and NUL written as backslash escapes, and every character that does not print on
   its own or extends the grapheme before it written as its code point in hexadecimal inside
   `\u` braces. Other characters, ASCII or not, stand as they are. -/
namespace RequestFirewall.Text

def hexDigits (n : Nat) : String :=
  String.ofList ((Nat.toDigits 16 n).map fun c => c.toLower)

def debugChar (c : Char) : String :=
  match c with
  | '\x00' => "\\0"
  | '\t' => "\\t"
  | '\r' => "\\r"
  | '\n' => "\\n"
  | '\\' => "\\\\"
  | '"' => "\\\""
  | c =>
    if isExtending c || !isPrintable c then
      "\\u\x7b" ++ hexDigits c.toNat ++ "\x7d"
    else c.toString

def debugQuote (s : String) : String :=
  "\"" ++ String.join (s.toList.map debugChar) ++ "\""

end RequestFirewall.Text

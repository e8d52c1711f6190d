import RequestFirewall.Rules
/- The program's errors: bad configuration (including a rules file that does not parse), a
   rule that fails validation, input and output failures, and JSON failures. -/
namespace RequestFirewall

inductive AppError where
  | config (detail : String)
  | invalidRule (e : InvalidRule)
  | io (detail : String)
  | json (detail : String)

def AppError.kind : AppError → String
  | .config _ => "Config"
  | .invalidRule _ => "InvalidRule"
  | .io _ => "Io"
  | .json _ => "Json"

def AppError.message : AppError → String
  | .config d => "Configuration error: " ++ d
  | .invalidRule e => e.message
  | .io d => "I/O error: " ++ d
  | .json d => "JSON error: " ++ d

end RequestFirewall

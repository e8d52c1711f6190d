import RequestFirewall.Settings
import RequestFirewall.Yaml12.Node
import RequestFirewall.Text.Case
/- Settings read from a YAML file. The file holds at most one document; none reads as an empty
   table, and the document must be a table. Every value takes the file as its source.

   Nodes become settings in document order: texts, integers and flags as they are; a real
   number by reading its text the standard way, which fails for the YAML spellings `.inf` and
   `.nan`; null and bad values as nil. Table keys are texts, lowercased, or integers written
   in decimal; an entry under any other key is left out, and of two keys that lowercase alike
   the later value wins. -/
namespace RequestFirewall.Settings

open Yaml12 (Node)

inductive FileFault where
  | malformed (e : Yaml12.Fault)
  | documents (count : Nat)
  | notFloat (text : String)
  | notTable (found : String) (origin : Option String)

def FileFault.message : FileFault → String
  | .malformed e => e.message
  | .documents n => "Got " ++ Nat.repr n ++ " YAML documents, expected 1"
  | .notFloat text => "Parsing " ++ text ++ " as floating point number failed"
  | .notTable found origin =>
    "invalid type: " ++ found ++ ", expected a map" ++ ((origin.map (" in " ++ ·)).getD "")

def entryKey? : Node → Option String
  | .text s => some (Text.toLower s)
  | .int n => some ((if n < 0 then "-" else "") ++ Nat.repr n.natAbs)
  | _ => none

mutual

def settingOf (origin : Option String) : Node → Except FileFault Setting
  | .text s => .ok (.text s origin)
  | .real s =>
    match standardFloat? s with
    | some f => .ok (.float f origin)
    | none => .error (.notFloat s)
  | .int n => .ok (.int n origin)
  | .flag b => .ok (.bool b origin)
  | .null => .ok (.nil origin)
  | .bad => .ok (.nil origin)
  | .list items => do pure (.list (← settingsOf origin items) origin)
  | .map entries => do pure (.table (← entriesOf origin [] entries) origin)

def settingsOf (origin : Option String) : List Node → Except FileFault (List Setting)
  | [] => .ok []
  | n :: rest => do
    let v ← settingOf origin n
    pure (v :: (← settingsOf origin rest))

def entriesOf (origin : Option String) (acc : List (String × Setting)) :
    List (Node × Node) → Except FileFault (List (String × Setting))
  | [] => .ok acc
  | (k, v) :: rest =>
    match entryKey? k with
    | some key => do
      let value ← settingOf origin v
      entriesOf origin (Setting.putEntry key value acc) rest
    | none => entriesOf origin acc rest

end

def ofYaml (text : String) (origin : Option String) : Except FileFault Setting := do
  let docs ← (Yaml12.documents text).mapError FileFault.malformed
  if docs.size > 1 then throw (.documents docs.size)
  match docs[0]? with
  | none => pure Setting.empty
  | some root =>
    match ← settingOf origin root with
    | .table entries o => pure (.table entries o)
    | other => throw (.notTable other.describe origin)

end RequestFirewall.Settings

/- The command line's vocabulary and its texts: the commands, the options each takes, the help
   page of each, usage lines, and the wording of argument errors. Closeness of a mistyped name
   to a known one is the Jaro similarity; a name counts as close above 0.7. -/
namespace RequestFirewall.Cli

def programName : String := "rampart"

def programVersion : String := "0.1.0"

inductive Sub where
  | check
  | validate
  | normalize
  | help
  deriving DecidableEq, Repr

namespace Sub

def all : List Sub := [.check, .validate, .normalize, .help]

def name : Sub → String
  | .check => "check"
  | .validate => "validate"
  | .normalize => "normalize"
  | .help => "help"

def ofName? (s : String) : Option Sub := all.find? (·.name == s)

def about : Sub → String
  | .check => "Evaluate JSON-lines requests and print one decision per line"
  | .validate => "Load a rules file and report what it contains"
  | .normalize => "Print the store-safe form of a key"
  | .help => "Print this message or the help of the given subcommand(s)"

end Sub

structure OptionSpec where
  long : String
  short : Option Char
  valueName : Option String
  deriving DecidableEq, Repr

def configOption : OptionSpec := ⟨"config", some 'c', some "CONFIG"⟩

def rulesOption : OptionSpec := ⟨"rules", some 'r', some "RULES"⟩

def inputOption : OptionSpec := ⟨"input", some 'i', some "INPUT"⟩

def diagnosticsOption : OptionSpec := ⟨"diagnostics", none, none⟩

def OptionSpec.spec (o : OptionSpec) : String :=
  "--" ++ o.long ++ match o.valueName with
    | some v => " <" ++ v ++ ">"
    | none => ""

def optionsOf : Option Sub → List OptionSpec
  | none => [configOption]
  | some .check => [configOption, rulesOption, inputOption, diagnosticsOption]
  | some .validate => [configOption, rulesOption]
  | some .normalize => [configOption]
  | some .help => []

def longNames (cmd : Option Sub) : List String :=
  (optionsOf cmd).map (·.long) ++ (if cmd == some .help then [] else ["help"]) ++
    (if cmd.isNone then ["version"] else [])

def commandPath : Option Sub → String
  | none => programName
  | some s => programName ++ " " ++ s.name

def usage : Option Sub → String
  | none => programName ++ " [OPTIONS] <COMMAND>"
  | some .normalize => commandPath (some .normalize) ++ " [OPTIONS] <KEY>"
  | some .help => commandPath (some .help) ++ " [COMMAND]..."
  | some s => commandPath (some s) ++ " [OPTIONS]"

/-- The usage of a command naming the options used: those options, then the positional
    argument a command requires, then the subcommand the top level requires. With nothing used
    and no required argument missing it is the full usage. -/
def usageWith (cmd : Option Sub) (used : List OptionSpec) (missing : Bool) : String :=
  if used.isEmpty && !missing then usage cmd
  else
    String.intercalate " " ([commandPath cmd] ++ used.map (·.spec) ++
      (if cmd == some .normalize then ["<KEY>"] else []) ++
      (if cmd.isNone then ["<COMMAND>"] else []))

def configHelpLine : String :=
  "  -c, --config <CONFIG>  Configuration file (YAML). `RAMPART__*` environment variables override it"

def helpPage : Option Sub → List String
  | none =>
    ["Request filtering and rate limiting firewall", "", "Usage: " ++ usage none, "",
     "Commands:"] ++
    Sub.all.map (fun s => "  " ++ s.name ++ String.ofList (List.replicate (11 - s.name.length) ' ') ++ s.about) ++
    ["", "Options:", configHelpLine,
     "  -h, --help             Print help",
     "  -V, --version          Print version"]
  | some .check =>
    [Sub.check.about, "", "Usage: " ++ usage (some .check), "", "Options:", configHelpLine,
     "  -r, --rules <RULES>    Rules file; defaults to `rules_path` from the configuration",
     "  -i, --input <INPUT>    Requests file; reads stdin when omitted",
     "      --diagnostics      Print a diagnostics snapshot after the last decision",
     "  -h, --help             Print help"]
  | some .validate =>
    [Sub.validate.about, "", "Usage: " ++ usage (some .validate), "", "Options:", configHelpLine,
     "  -r, --rules <RULES>    Rules file; defaults to `rules_path` from the configuration",
     "  -h, --help             Print help"]
  | some .normalize =>
    [Sub.normalize.about, "", "Usage: " ++ usage (some .normalize), "", "Arguments:", "  <KEY>  ",
     "", "Options:", configHelpLine,
     "  -h, --help             Print help"]
  | some .help =>
    [Sub.help.about, "", "Usage: " ++ usage (some .help), "", "Arguments:",
     "  [COMMAND]...  Print help for the subcommand(s)"]

def versionLine : String := programName ++ " " ++ programVersion

/-- Marks each position of `b` that the character at position `i` of `a` matches: the first
    unmarked equal character within `range` of `i`. Returns the marks on `a`, the marks on `b`,
    and how many matched. -/
def jaroMatches (a b : Array Char) (range : Nat) : Array Bool × Array Bool × Nat := Id.run do
  let mut aMarks := Array.replicate a.size false
  let mut bMarks := Array.replicate b.size false
  let mut count := 0
  for i in [0:a.size] do
    let lo := i - range
    let hi := Nat.min b.size (i + range + 1)
    let mut found := false
    for j in [lo:hi] do
      if !found && a[i]? == b[j]? && bMarks[j]? == some false then
        aMarks := aMarks.set! i true
        bMarks := bMarks.set! j true
        count := count + 1
        found := true
  return (aMarks, bMarks, count)

/-- The Jaro similarity of two names: 1 for two empty names, 0 when one is empty or nothing
    matches, else the mean of the matched share of each name and the share of matches that are
    not transposed. -/
def jaro (x y : String) : Float :=
  let a := x.toList.toArray
  let b := y.toList.toArray
  if a.isEmpty && b.isEmpty then 1.0
  else if a.isEmpty || b.isEmpty then 0.0
  else
    let range := Nat.max a.size b.size / 2 - 1
    let (aMarks, bMarks, m) := jaroMatches a b range
    if m == 0 then 0.0
    else
      let aSeq := (a.zip aMarks).toList.filterMap fun (c, k) => if k then some c else none
      let bSeq := (b.zip bMarks).toList.filterMap fun (c, k) => if k then some c else none
      let half := ((aSeq.zip bSeq).filter fun (p, q) => p != q).length / 2
      let mf := m.toFloat
      (mf / a.size.toFloat + mf / b.size.toFloat + (m - half).toFloat / mf) / 3.0

/-- The known names close to a mistyped one, least close first; of equally close names the
    earlier stays earlier. -/
def closeNames (given : String) (known : List String) : List String :=
  let scored := known.filterMap fun k =>
    let score := jaro given k
    if score > 0.7 then some (score, k) else none
  (scored.mergeSort fun p q => p.1 ≤ q.1).map (·.2)

def tryHelp : String := "For more information, try '--help'."

/-- An argument error's lines: the message, tips, the usage line if any, and the pointer to
    help. -/
def errorLines (message : String) (tips : List String) (usageLine : Option String) : List String :=
  ("error: " ++ message).splitOn "\n" ++
  (if tips.isEmpty then [] else "" :: tips.map ("  tip: " ++ ·)) ++
  (match usageLine with | some u => ["", "Usage: " ++ u] | none => []) ++
  ["", tryHelp]

def suggestion (kind : String) : List String → Option String
  | [] => none
  | [one] => some ("a similar " ++ kind ++ " exists: '" ++ one ++ "'")
  | many => some ("some similar " ++ kind ++ "s exist: " ++
      String.intercalate ", " (many.map fun n => "'" ++ n ++ "'"))

end RequestFirewall.Cli

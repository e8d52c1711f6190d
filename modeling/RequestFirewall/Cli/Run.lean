import RequestFirewall.Cli.Command
import RequestFirewall.Cli.LogFilter
import RequestFirewall.Settings.Yaml
import RequestFirewall.Settings.Layers
import RequestFirewall.RulesFile
import RequestFirewall.Request.Json
import RequestFirewall.Json.Fields
/- Carrying out a command line against its surroundings: files by path, standard input, the
   environment and a clock, reached through a monad so that the same run works on a real
   system and on a description of one.

   The configuration is loaded first, for every command: the named file (tried as given, then
   with `.yaml` and `.yml` added), then the environment. Logging starts next, reporting the
   directives of the configured level it skips when the environment sets no usable filter.
   Then `normalize` prints the store-safe form of its key; `validate` loads the rules file and
   counts its rules by kind; `check` decides each nonblank line of the requests that reads as a
   request, and prints one decision per line with its line number, then optionally a
   diagnostics snapshot.

   A failure prints `Error: ` and its message, then, when it has a cause, a blank line,
   `Caused by:` and the cause indented by four spaces; the exit code is 1. -/
namespace RequestFirewall.Cli

inductive FileState where
  | missing
  | directory
  | file (content : String)
  | unreadable (reason : String)
  deriving DecidableEq, Repr

structure Host (m : Type → Type) where
  workingDir : String
  inspect : String → m FileState
  readInput : m String
  environment : List (String × String)
  logFilter : Option String
  now : Nat

def notFoundReason : String := "No such file or directory (os error 2)"

def directoryReason : String := "Is a directory (os error 21)"

def absolutePath (dir path : String) : String :=
  if path.startsWith "/" then path else dir ++ "/" ++ path

def inspectPath {m : Type → Type} [Monad m] (host : Host m) (path : String) : m FileState :=
  if path.isEmpty then pure .missing else host.inspect (absolutePath host.workingDir path)

def pathParts (path : String) : List String :=
  (path.splitOn "/").filter fun part => !part.isEmpty && part != "."

/-- How `path` is reached from the directory `base`, both absolute: the parts they share are
    dropped, each further part of `base` is climbed with `..`, and the rest of `path` follows.
    A `..` in `base` after the shared parts leaves no such way, and `path` stands as it is. -/
def relativePath (base path : String) : String :=
  let rec walk : List String → List String → Option (List String)
    | [], [] => some []
    | ps, [] => some ps
    | [], bs => some (bs.map fun _ => "..")
    | p :: ps, b :: bs =>
      if p == b then walk ps bs
      else if b == ".." then none
      else some ((b :: bs).map (fun _ => "..") ++ p :: ps)
  match walk (pathParts path) (pathParts base) with
  | some parts => String.intercalate "/" parts
  | none => path

def failure (message : String) (causes : List String) : Outcome :=
  let causeLines := match causes with
    | [] => []
    | [one] => "" :: "Caused by:" :: (one.splitOn "\n").map ("    " ++ ·)
    | many => "" :: "Caused by:" :: (many.zipIdx.map fun (c, i) => "    " ++ Nat.repr i ++ ": " ++ c)
  { code := 1, stderr := ("Error: " ++ message).splitOn "\n" ++ causeLines }

def appFailure (e : AppError) : Outcome :=
  match e with
  | .io reason => failure e.message [reason]
  | e => failure e.message []

def FileState.reason? : FileState → Option String
  | .missing => some notFoundReason
  | .directory => some directoryReason
  | .unreadable r => some r
  | .file _ => none

def configCandidates (path : String) : List String :=
  let base := String.ofList (path.toList.reverse.dropWhile (· == '/')).reverse
  [path, base ++ ".yaml", base ++ ".yml"]

def firstFile {m : Type → Type} [Monad m] (host : Host m) :
    List String → m (Option (String × String))
  | [] => pure none
  | p :: rest => do
    match ← host.inspect p with
    | .file content => pure (some (p, content))
    | _ => firstFile host rest

def loadConfig {m : Type → Type} [Monad m] (host : Host m) (path : Option String) :
    m (Except String AppConfig) := do
  match path with
  | none => pure ((Settings.layered none host.environment).mapError (·.render))
  | some p =>
    match ← firstFile host (configCandidates (absolutePath host.workingDir p)) with
    | none => pure (.error ("configuration file \"" ++ p ++ "\" not found"))
    | some (found, content) =>
      let uri := relativePath host.workingDir found
      match Settings.ofYaml content (some uri) with
      | .error f => pure (.error (f.message ++ " in " ++ uri))
      | .ok s => pure ((Settings.layered (some s) host.environment).mapError (·.render))

def loadRules {m : Type → Type} [Monad m] (host : Host m) (path : String) :
    m (Except Outcome RuleSet) := do
  match ← inspectPath host path with
  | .file content => pure (RulesFile.load content |>.mapError appFailure)
  | st => pure (.error (appFailure (.io ((st.reason?).getD notFoundReason))))

def rulesPath (config : AppConfig) (given : Option String) : Except Outcome String :=
  match given.orElse fun _ => config.rulesPath with
  | some p => .ok p
  | none => .error (failure "No rules file given; pass --rules or set rules_path" [])

def ruleCounts (path : String) (s : RuleSet) : String :=
  path ++ ": " ++ Nat.repr s.size ++ " rules (safelist=" ++ Nat.repr s.safelists.length ++
    ", blocklist=" ++ Nat.repr s.blocklists.length ++ ", fail2ban=" ++
    Nat.repr s.fail2bans.length ++ ", throttle=" ++ Nat.repr s.throttles.length ++ ", track=" ++
    Nat.repr s.tracks.length ++ ")"

/-- The lines of a text: pieces between line feeds, without a carriage return before a feed;
    a final feed ends the last line rather than starting an empty one. -/
def textLines (text : String) : List String :=
  let pieces := text.splitOn "\n"
  let ended := if text.endsWith "\n" then pieces.dropLast else pieces
  let count := ended.length
  ended.zipIdx.map fun (line, i) =>
    if (i + 1 < count || text.endsWith "\n") && line.endsWith "\r" then
      String.ofList line.toList.dropLast
    else line

/-- The request a line holds, if it holds one; fields a request does not have are only
    checked for their grammar. -/
def requestOfLine (line : String) : Option Request :=
  match Json.parseFields? Request.positions line with
  | some j =>
    match Request.ofJson j with
    | .ok r => some r
    | .error _ => none
  | none => none

/-- Decides the requests of the lines in order, numbering lines from one; blank lines and lines
    that hold no request are skipped but counted. -/
def decideLines (fw : Firewall) (now : Nat) (lines : List String) : List Json × Firewall :=
  let step := fun (acc : Array Json × Firewall) ((line, i) : String × Nat) =>
    if (Text.trimBlank line).isEmpty then acc
    else match requestOfLine line with
      | none => acc
      | some req =>
        let (d, _, fw') := acc.2.decide req now
        (acc.1.push (.obj (("line", Json.nat (i + 1)) :: d.fields)), fw')
  let (out, fw') := lines.zipIdx.foldl step (#[], fw)
  (out.toList, fw')

def execute {m : Type → Type} [Monad m] (host : Host m) (config : AppConfig) :
    Command → m Outcome
  | .normalize key => pure { code := 0, stdout := [normalizeKey key] }
  | .validate given =>
    match rulesPath config given with
    | .error o => pure o
    | .ok path => do
      match ← loadRules host path with
      | .error o => pure o
      | .ok rules => pure { code := 0, stdout := [ruleCounts path rules] }
  | .check given input diagnostics =>
    match rulesPath config given with
    | .error o => pure o
    | .ok path => do
      match ← loadRules host path with
      | .error o => pure o
      | .ok rules =>
        let text ← match input with
          | none => do pure (Except.ok (← host.readInput))
          | some file => do
            match ← inspectPath host file with
            | .file content => pure (.ok content)
            | .directory => pure (.error (failure directoryReason []))
            | st => pure (.error (failure ("Failed to open " ++ file) [(st.reason?).getD notFoundReason]))
        match text with
        | .error o => pure o
        | .ok text =>
          let fw := Firewall.create rules (CounterStore.ofKind .native) config.firewall
          let (decisions, fw) := decideLines fw host.now (textLines text)
          let tail := if diagnostics then [Json.obj [("diagnostics", fw.diagnostics.snapshot)]] else []
          pure { code := 0, stdout := (decisions ++ tail).map Json.render }

def run {m : Type → Type} [Monad m] (host : Host m) (args : List String) : m Outcome := do
  match readCommandLine args with
  | .done o => pure o
  | .run inv =>
    match ← loadConfig host inv.config with
    | .error detail => pure (failure "Failed to load configuration" ["Configuration error: " ++ detail])
    | .ok config => do
      let out ← execute host config inv.command
      pure { out with stderr := loggingReports host.logFilter config.logging.level ++ out.stderr }

end RequestFirewall.Cli

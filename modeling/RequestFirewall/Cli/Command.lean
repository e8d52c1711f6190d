import RequestFirewall.Cli.Help
/- Reading the command line. Arguments are read left to right, and the first fault ends the
   reading with an argument error (exit code 2) or the first help or version request with its
   page (exit code 0).

   At the top level come options, then a subcommand name; after it come that subcommand's
   options and arguments. `--long value`, `--long=value`, `-s value`, `-svalue` and `-s=value`
   give a value; short flags may be grouped. An option waiting for its value does not take one
   that looks like an option, nor at the top level a subcommand name. After `--` everything is
   an argument. An option given twice at one level is a fault; the configuration file may be
   given at both levels, and the later level wins. `help` names a path of subcommands whose
   help page to show. -/
namespace RequestFirewall.Cli

inductive Command where
  | check (rules input : Option String) (diagnostics : Bool)
  | validate (rules : Option String)
  | normalize (key : String)
  deriving DecidableEq, Repr

structure Invocation where
  config : Option String
  command : Command
  deriving DecidableEq, Repr

structure Outcome where
  code : Nat
  stdout : List String := []
  stderr : List String := []
  deriving DecidableEq, Repr

inductive Reading where
  | run (inv : Invocation)
  | done (o : Outcome)
  deriving DecidableEq, Repr

def argumentError (message : String) (tips : List String) (usageLine : Option String) : Outcome :=
  { code := 2, stderr := errorLines message tips usageLine }

def shown (lines : List String) : Outcome := { code := 0, stdout := lines }

structure Given where
  values : List (String × String) := []
  flags : List String := []
  used : List OptionSpec := []
  positionals : List String := []
  deriving Inhabited

namespace Given

def value? (g : Given) (o : OptionSpec) : Option String :=
  (g.values.find? (·.1 == o.long)).map (·.2)

def has (g : Given) (o : OptionSpec) : Bool := g.used.contains o

end Given

/-- Where the reading of one level stands: what is given, the option waiting for a value, and
    whether `--` was passed. -/
structure LevelState where
  given : Given := {}
  pending : Option OptionSpec := none
  escaped : Bool := false
  deriving Inhabited

/-- How reading one level ends: the rest of the line after a subcommand name, the whole level
    read, or an outcome. -/
inductive LevelEnd where
  | sub (s : Sub) (rest : List String) (given : Given)
  | finished (given : Given)
  | stop (o : Outcome)
  deriving Inhabited

def emptyValue (o : OptionSpec) : Outcome :=
  argumentError ("a value is required for '" ++ o.spec ++ "' but none was supplied") [] none

def record (cmd : Option Sub) (g : Given) (o : OptionSpec) (v : Option String) :
    Except Outcome Given :=
  if g.has o then
    .error (argumentError ("the argument '" ++ o.spec ++ "' cannot be used multiple times") []
      (some (usage cmd)))
  else
    let g := { g with used := g.used ++ [o] }
    match v with
    | some v => .ok { g with values := g.values ++ [(o.long, v)] }
    | none => .ok { g with flags := g.flags ++ [o.long] }

def settle (st : LevelState) : Except Outcome LevelState :=
  match st.pending with
  | some o => .error (emptyValue o)
  | none => .ok st

def takesArguments (cmd : Option Sub) : Bool := cmd == some .normalize

/-- The subcommand, named among the arguments after a mistyped long option, that has a long
    option close to it, with that option: of several, the one named first. -/
def subcommandTip (name : String) (rest : List String) : Option (Sub × String) :=
  let found := Sub.all.filterMap fun s =>
    match (closeNames name (longNames (some s))).getLast?, rest.idxOf? s.name with
    | some close, some pos => some (pos, s, close)
    | _, _ => none
  let first := found.foldl (fun best f =>
    match best with
    | some b => if f.1 < b.1 then some f else best
    | none => some f) none
  first.map (·.2)

/-- The error for an unknown option, given the arguments after it. A mistyped long option is
    compared with the level's long options and, at the top level, with those of the
    subcommands named after it. -/
def unknownOption (cmd : Option Sub) (g : Given) (shown : String) (long : Option String)
    (rest : List String) : Outcome :=
  match long.bind fun name => (closeNames name (longNames cmd)).getLast? with
  | some close =>
    let used := g.used ++ ((optionsOf cmd).filter (·.long == close)).filter (!g.used.contains ·)
    argumentError ("unexpected argument '" ++ shown ++ "' found")
      ["a similar argument exists: '--" ++ close ++ "'"] (some (usageWith cmd used false))
  | none =>
    let viaSub := if cmd.isNone then long.bind fun name => subcommandTip name rest else none
    match viaSub with
    | some (s, close) =>
      argumentError ("unexpected argument '" ++ shown ++ "' found")
        ["'" ++ s.name ++ " --" ++ close ++ "' exists"] (some (usageWith cmd g.used false))
    | none =>
      let tips := if takesArguments cmd then
          ["to pass '" ++ shown ++ "' as a value, use '-- " ++ shown ++ "'"] else []
      let usageLine := if long.isSome then usageWith cmd g.used false else usage cmd
      argumentError ("unexpected argument '" ++ shown ++ "' found") tips (some usageLine)

def longOption (cmd : Option Sub) (st : LevelState) (name : String) (inline : Option String)
    (rest : List String) : Except Outcome LevelState := do
  if name == "help" && cmd != some .help then
    let _ ← settle st
    throw (shown (helpPage cmd))
  if name == "version" && cmd.isNone then
    let _ ← settle st
    throw (shown [versionLine])
  match (optionsOf cmd).find? (·.long == name) with
  | none => throw (unknownOption cmd st.given ("--" ++ name) (some name) rest)
  | some o =>
    let st ← settle st
    match o.valueName, inline with
    | some _, some v => pure { st with given := ← record cmd st.given o (some v) }
    | some _, none => pure { st with pending := some o }
    | none, some v =>
      throw (argumentError ("unexpected value '" ++ v ++ "' for '" ++ o.spec ++
        "' found; no more were expected") [] (some (usageWith cmd (st.given.used ++ [o]) false)))
    | none, none => pure { st with given := ← record cmd st.given o none }

def shortOptions (cmd : Option Sub) : LevelState → List Char → Except Outcome LevelState
  | st, [] => pure st
  | st, c :: rest => do
    if c == 'h' && cmd != some .help then
      let _ ← settle st
      throw (shown (helpPage cmd))
    if c == 'V' && cmd.isNone then
      let _ ← settle st
      throw (shown [versionLine])
    match (optionsOf cmd).find? (·.short == some c) with
    | none => throw (unknownOption cmd st.given ("-" ++ c.toString) none [])
    | some o =>
      let st ← settle st
      match o.valueName with
      | some _ =>
        let attached := match rest with
          | '=' :: v => v
          | v => v
        if rest.isEmpty then pure { st with pending := some o }
        else pure { st with given := ← record cmd st.given o (some (String.ofList attached)) }
      | none => shortOptions cmd { st with given := ← record cmd st.given o none } rest

def looksLikeOption (a : String) : Bool := a.startsWith "-" && a != "-"

def positional (cmd : Option Sub) (st : LevelState) (a : String) : Except Outcome LevelState :=
  if takesArguments cmd && st.given.positionals.isEmpty then
    .ok { st with given := { st.given with positionals := [a] } }
  else .error (argumentError ("unexpected argument '" ++ a ++ "' found") [] (some (usage cmd)))

def readLevel (cmd : Option Sub) : LevelState → List String → LevelEnd
  | st, [] =>
    match settle st with
    | .ok st => .finished st.given
    | .error o => .stop o
  | st, a :: rest =>
    if st.escaped then
      match positional cmd st a with
      | .ok st => readLevel cmd st rest
      | .error o => .stop o
    else if cmd.isNone && (Sub.ofName? a).isSome then
      match settle st, Sub.ofName? a with
      | .ok st, some s => .sub s rest st.given
      | .error o, _ => .stop o
      | .ok st, none => .finished st.given
    else if a == "--" then
      match settle st with
      | .ok st => readLevel cmd { st with escaped := true } rest
      | .error o => .stop o
    else if a.startsWith "--" then
      let body := String.ofList (a.toList.drop 2)
      let (name, inline) := match body.splitOn "=" with
        | [n] => (n, none)
        | n :: vs => (n, some (String.intercalate "=" vs))
        | [] => (body, none)
      match longOption cmd st name inline rest with
      | .ok st => readLevel cmd st rest
      | .error o => .stop o
    else if looksLikeOption a then
      match shortOptions cmd st (a.toList.drop 1) with
      | .ok st => readLevel cmd st rest
      | .error o => .stop o
    else
      match st.pending with
      | some o =>
        match record cmd st.given o (some a) with
        | .ok g => readLevel cmd { st with given := g, pending := none } rest
        | .error out => .stop out
      | none =>
        if cmd.isNone then
          let close := closeNames a (Sub.all.map (·.name))
          match suggestion "subcommand" close with
          | some tip => .stop (argumentError ("unrecognized subcommand '" ++ a ++ "'") [tip] (some (usage cmd)))
          | none => .stop (argumentError ("unrecognized subcommand '" ++ a ++ "'") [] (some (usage cmd)))
        else
          match positional cmd st a with
          | .ok st => readLevel cmd st rest
          | .error o => .stop o

def helpFor : Option Sub → List String → Outcome
  | cmd, [] => shown (helpPage cmd)
  | none, a :: rest =>
    match Sub.ofName? a with
    | some s => helpFor (some s) rest
    | none => argumentError ("unrecognized subcommand '" ++ a ++ "'") [] (some (usage none))
  | some s, a :: _ =>
    argumentError ("unrecognized subcommand '" ++ a ++ "'") [] (some (usage (some s)))

def missingKey (g : Given) : Outcome :=
  argumentError "the following required arguments were not provided:\n  <KEY>" []
    (some (usageWith (some .normalize) g.used true))

def readCommandLine (args : List String) : Reading :=
  if args.isEmpty then .done { code := 2, stderr := helpPage none }
  else
    match readLevel none {} args with
    | .stop o => .done o
    | .finished _ =>
      .done (argumentError ("'" ++ programName ++ "' requires a subcommand but one was not provided\n  [subcommands: " ++
        String.intercalate ", " (Sub.all.map (·.name)) ++ "]") [] (some (usage none)))
    | .sub .help rest _ => .done (helpFor none rest)
    | .sub s rest top =>
      match readLevel (some s) {} rest with
      | .stop o => .done o
      | .sub _ _ _ => .done (shown (helpPage (some s)))
      | .finished g =>
        let config := (g.value? configOption).orElse fun _ => top.value? configOption
        match s with
        | .check =>
          .run ⟨config, .check (g.value? rulesOption) (g.value? inputOption) (g.flags.contains "diagnostics")⟩
        | .validate => .run ⟨config, .validate (g.value? rulesOption)⟩
        | .normalize =>
          match g.positionals with
          | key :: _ => .run ⟨config, .normalize key⟩
          | [] => .done (missingKey g)
        | .help => .done (helpFor none rest)

end RequestFirewall.Cli

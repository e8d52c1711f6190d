import RequestFirewall.Cli.Run
/- The command-line program: runs its arguments against this system's files, standard input,
   the settings variables of its environment and its millisecond clock, then writes what the run
   printed and exits with its code. -/
namespace RequestFirewall.Cli

def settingVariables : List String :=
  ["RAMPART__FIREWALL__KEY_PREFIX", "RAMPART__FIREWALL__RATE_LIMIT_HEADERS",
   "RAMPART__RULES_PATH", "RAMPART__LOGGING__LEVEL", "RAMPART__LOGGING__JSON",
   "RAMPART__STORE__SWEEP_INTERVAL_SECS"]

def systemFileState (path : String) : IO FileState := do
  try
    pure (.file (← IO.FS.readFile path))
  catch e =>
    match e with
    | .noFileOrDirectory .. => pure .missing
    | .inappropriateType .. => pure .directory
    | .permissionDenied .. => pure (.unreadable "Permission denied (os error 13)")
    | e => pure (.unreadable (toString e))

partial def readRest (stream : IO.FS.Stream) (acc : String) : IO String := do
  let line ← stream.getLine
  if line.isEmpty then pure acc else readRest stream (acc ++ line)

def settingEnvironment : IO (List (String × String)) :=
  settingVariables.filterMapM fun name => do
    pure ((← IO.getEnv name).map (name, ·))

end RequestFirewall.Cli

open RequestFirewall.Cli in
def main (args : List String) : IO UInt32 := do
  let host : Host IO :=
    { workingDir := (← IO.currentDir).toString, inspect := systemFileState,
      readInput := do readRest (← IO.getStdin) "", environment := ← settingEnvironment,
      logFilter := ← IO.getEnv "RUST_LOG", now := ← IO.monoMsNow }
  let out ← run host args
  let stdout ← IO.getStdout
  for line in out.stdout do stdout.putStrLn line
  let stderr ← IO.getStderr
  for line in out.stderr do stderr.putStrLn line
  pure out.code.toUInt32

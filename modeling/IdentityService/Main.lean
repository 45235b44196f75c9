import IdentityService.Service.CommandLine

/-!
# The Launcher

Reads the environment, the environment file and the command line, and announces the plan
with which the server is started.
-/

namespace IdentityService.Launcher

/-- The text of the environment file, if there is one. -/
def readFile : IO (Option String) := do
  try
    return some (← IO.FS.readFile ".env")
  catch _ =>
    return none

/-- The variables that hold settings, in upper and lower case. -/
def readEnvironment : IO Environment := do
  let names := ServiceSettings.plainNames ++ ServiceSettings.listNames
  let mut found := []
  for name in names ++ names.map (·.map Char.toUpper) do
    if let some v ← IO.getEnv name then
      found := found ++ [(name, v)]
  return found

/-- The line for a plan, or for the fault that prevents it, and the status of the program. -/
def report : Outcome LaunchPlan → String × UInt32
  | .ok p => (LaunchPlan.application ++ " " ++ p.toJson.render, 0)
  | .error (.exit status) => ("usage: [-h] [--reload] [--host HOST] [--port PORT] "
      ++ "[--log-level LOG_LEVEL]", UInt32.ofNat status.toNat)
  | .error f => (f.summary, 1)

end IdentityService.Launcher

/-- Prints the plan of the launch. -/
def main (words : List String) : IO UInt32 := do
  let environment ← IdentityService.Launcher.readEnvironment
  let file ← IdentityService.Launcher.readFile
  let plan := IdentityService.LaunchPlan.ofWords environment file words
  let (line, status) := IdentityService.Launcher.report plan
  IO.println line
  return status

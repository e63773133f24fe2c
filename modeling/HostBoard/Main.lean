import HostBoard.Program

/-!
# The command line

Reads the environment and the configuration file, runs the program and prints its page. Neither a
transport nor the tables of international names are linked in here, so the network is out of reach,
which the page shows, and only plain domains are read.
-/

namespace HostBoard

/-- The variables that the program looks at. -/
def variableNames : List String :=
  ["HOSTDASH_CONFIG", "HOSTDASH_BASE_URL", "HOSTDASH_HOSTS_PATH", "HOSTDASH_LOGS_PATH",
    "HOSTDASH_TIMEOUT", "HOSTDASH_LOG", "RUST_LOG"]

/-- The environment of the process. -/
def processEnvironment : IO Environment := do
  let values ← variableNames.mapM fun name => return (name, ← IO.getEnv name)
  return fun name => (values.lookup name).join

/-- The octets of a file. -/
def readOctets (path : String) : IO (Except ReadError (List UInt8)) := do
  try
    return .ok (← IO.FS.readBinFile path).toList
  catch
    | .noFileOrDirectory .. => return .error .notFound
    | _ => return .error .unreadable

/-- Why a run failed, in words. -/
def RunError.message : RunError → String
  | .config e => e.message
  | .client e => e.text

end HostBoard

open HostBoard in
/-- Run the program once. -/
def main : IO UInt32 := do
  let env ← processEnvironment
  let contents ← readOctets (Config.path env)
  let run := HostBoard.run .asciiOnly (fun _ => contents) env .outOfReach
  IO.print run.output
  if let .error e := run.result then IO.eprintln e.message
  return run.exitCode

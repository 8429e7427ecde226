import ExprScan.CommandLine.Run

/-!
# The program

The files and the environment of the machine, and printing.
-/

namespace ExprScan

/-- Why reading failed, in the terms of a host. -/
def readErrorOf : IO.Error → ReadError
  | .noFileOrDirectory .. => .notFound
  | .inappropriateType _ code _ => if code = 21 then .isDirectory else .notDirectory
  | e@(.invalidArgument _ code _) => if code = 36 then .nameTooLong else .other (toString e)
  | e => .other (toString e)

/-- The bytes under a path. -/
def readBytes (path : String) : IO (Except ReadError ByteArray) := do
  if path.toList.contains '\x00' then return .error .badPath
  try return .ok (← IO.FS.readBinFile path)
  catch e => return .error (readErrorOf e)

/-- The files of the machine. -/
def machine : Host IO where
  isPresent path := do
    match ← readBytes path with
    | .error .notFound | .error .notDirectory | .error .nameTooLong | .error .badPath =>
      return false
    | _ => return true
  read path := do
    match ← readBytes path with
    | .error e => return .error e
    | .ok content =>
      match String.fromUTF8? content with
      | some text => return .ok text
      | none => return .error .notText

/-- What the environment says instead of flags. -/
def environment : IO CommandLine.Environment := do
  return {
    verbose := ← IO.getEnv "GOVALT_VERBOSE"
    config := ← IO.getEnv "GOVALT_CONFIG"
    noColor := ← IO.getEnv "GOVALT_NO_COLOR" }

/-- Where to look for a configuration. -/
def searchPaths : IO (List String) := do
  let home := (← IO.getEnv "HOME").filter (!·.isEmpty)
  let configHome := (← IO.getEnv "XDG_CONFIG_HOME").filter (·.startsWith "/")
  return Config.searchPaths home (configHome.or (home.map (· ++ "/.config")))

end ExprScan

/-- Runs the program and returns its exit code. -/
def main (args : List String) : IO UInt32 := do
  match ← ExprScan.CommandLine.run ExprScan.machine (← ExprScan.environment)
      (← ExprScan.searchPaths) args with
  | .usageError =>
    IO.eprint ("error: invalid arguments\n\n" ++ ExprScan.CommandLine.helpLine)
    return 2
  | .finished code out err =>
    IO.print out
    IO.eprint err
    return code.toUInt32

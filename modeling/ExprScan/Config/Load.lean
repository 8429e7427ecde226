import ExprScan.Config.Basic
import ExprScan.Failure
import ExprScan.Host.Basic
import ExprScan.Toml.Document

/-!
# Loading a configuration

A configuration is a document in a file. If no file is named, the first that exists counts: in the
working directory, then among the files of the user. If there is none, the defaults hold.
-/

namespace ExprScan.Config

variable {m : Type → Type} [Monad m]

/-- The name of the file. -/
def fileName : String := "govalt.toml"

/-- The configuration in the text of a document. -/
def ofDocument (text : String) : Except Failure Config :=
  match (Toml.parse? text).bind (decode .lenient) with
  | some config => .ok config
  | none => .error (.config "Failed to parse configuration: not a valid document")

/-- The configuration in a file. -/
def loadFrom (host : Host m) (path : String) : m (Except Failure Config) := do
  if ← host.isPresent path then
    match ← host.read path with
    | .ok text => return ofDocument text
    | .error e => return .error (.io e.message)
  else
    return .error (.config ("Configuration file not found: " ++ path))

/-- The first of several paths under which there is something. -/
def firstPresent (host : Host m) : List String → m (Option String)
  | [] => return none
  | path :: paths => do if ← host.isPresent path then return some path else firstPresent host paths

/-- The configuration in the first file that exists, or the defaults. -/
def search (host : Host m) (paths : List String) : m (Except Failure Config) := do
  match ← firstPresent host paths with
  | some path => loadFrom host path
  | none => return .ok {}

/-- Where to look for a configuration, given the home directory and the directory for
configurations of a user. -/
def searchPaths (home configHome : Option String) : List String :=
  [fileName] ++ home.toList.map (· ++ "/.config/govalt/" ++ fileName) ++
    configHome.toList.map (· ++ "/govalt/" ++ fileName)

end ExprScan.Config

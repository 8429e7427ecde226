/-!
# Access to files

Commands read files through a host, which answers in a monad of its own. The logic of a command is
thereby the same for the files of a machine and for a tree of files in memory.
-/

namespace ExprScan

/-- Why a file cannot be read. -/
inductive ReadError where
  /-- There is nothing under this path. -/
  | notFound
  /-- The path goes on after a file. -/
  | notDirectory
  /-- The path leads to a directory. -/
  | isDirectory
  /-- The path, or one of the names in it, is longer than any can be. -/
  | nameTooLong
  /-- The content is not text in UTF-8. -/
  | notText
  /-- The path holds a character that no path can hold. -/
  | badPath
  /-- Some other reason, in the words of the machine. -/
  | other (reason : String)
  deriving DecidableEq, Repr

/-- The reason as a sentence. -/
def ReadError.message : ReadError → String
  | .notFound => "No such file or directory (os error 2)"
  | .notDirectory => "Not a directory (os error 20)"
  | .isDirectory => "Is a directory (os error 21)"
  | .nameTooLong => "File name too long (os error 36)"
  | .notText => "stream did not contain valid UTF-8"
  | .badPath => "file name contained an unexpected NUL byte"
  | .other reason => reason

/-- A place where files are. -/
structure Host (m : Type → Type) where
  /-- Whether there is a file or a directory under a path. -/
  isPresent : String → m Bool
  /-- The text of a file. -/
  read : String → m (Except ReadError String)

end ExprScan

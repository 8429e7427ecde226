import ExprScan.Host.Basic

/-!
# Files in memory

A tree of files is given by the paths of its files and of its empty directories. All directories on
the way to one of them are there as well. Of what lies above the top only directories are known.
-/

namespace ExprScan

/-- What a path can lead to. -/
inductive Entry where
  /-- A file with its bytes. -/
  | file (content : ByteArray)
  /-- A directory. -/
  | directory

/-- A tree of files. -/
structure FileTree where
  /-- The files and directories, each under the parts of its path. -/
  entries : List (List String × Entry)

namespace FileTree

/-- The parts of a path between its slashes. -/
def parts (path : String) : List String := path.splitOn "/"

/-- The greatest length of a path, in bytes. -/
def pathLimit : Nat := 4095

/-- The greatest length of a name in a path, in bytes. -/
def nameLimit : Nat := 255

/-- Whether a part of a path leads nowhere new, or up. -/
def isSpecial (part : String) : Bool := part == "" || part == "." || part == ".."

/-- What the parts of a path lead to, if none of them is special. -/
def entry? (t : FileTree) (path : List String) : Option Entry :=
  match t.entries.find? fun (p, _) => p == path with
  | some (_, e) => some e
  | none => if t.entries.any fun (p, _) => path.isPrefixOf p then some .directory else none

/-- Follows a path from above the top of the tree. -/
def walkOutside (path : List String) : Except ReadError Entry :=
  match path.find? (!isSpecial ·) with
  | none => .ok .directory
  | some part => .error (if part.utf8ByteSize > nameLimit then .nameTooLong else .notFound)

/-- Follows a path from a directory, part by part. A name that is too long is noticed only where
it would be looked up. -/
def walk (t : FileTree) : List String → List String → Except ReadError Entry
  | _, [] => .ok .directory
  | here, part :: rest =>
    if part == "" || part == "." then t.walk here rest
    else if part == ".." then
      if here.isEmpty then walkOutside rest else t.walk here.dropLast rest
    else if part.utf8ByteSize > nameLimit then .error .nameTooLong
    else
      match t.entry? (here ++ [part]) with
      | none => .error .notFound
      | some .directory => t.walk (here ++ [part]) rest
      | some (.file content) => if rest.isEmpty then .ok (.file content) else .error .notDirectory

/-- What a path leads to. Paths from the root of a machine lead out of the tree. -/
def find (t : FileTree) (path : String) : Except ReadError Entry :=
  if path.toList.contains '\x00' then .error .badPath
  else if path.isEmpty then .error .notFound
  else if path.utf8ByteSize > pathLimit then .error .nameTooLong
  else if path.startsWith "/" then walkOutside (parts path)
  else t.walk [] (parts path)

/-- Adds a file or a directory. -/
def add (t : FileTree) (path : String) (e : Entry) : FileTree :=
  ⟨((parts path).filter fun p => p != "" && p != ".", e) :: t.entries⟩

/-- Reading from the tree. -/
def host (t : FileTree) : Host Id where
  isPresent path := (t.find path).isOk
  read path :=
    match t.find path with
    | .error e => .error e
    | .ok .directory => .error .isDirectory
    | .ok (.file content) =>
      match String.fromUTF8? content with
      | some text => .ok text
      | none => .error .notText

end FileTree

end ExprScan

import AuthChain.Error
import AuthChain.Text.Utf8

/-!
# Files

A tree of directories and files below a base directory, and reading a file by its path: the path is
followed name by name from the base directory. A missing file is no fault; a path through a regular
file, an overlong name, a directory and contents that are no text are.
-/

namespace AuthChain.Config

/-- What a file holds: a text, or bytes that are none. -/
inductive Content where
  | text (s : String)
  | bytes (b : List UInt8)
  deriving DecidableEq, Repr

/-- The content that a byte sequence is. -/
def Content.ofBytes (b : List UInt8) : Content :=
  match Text.decodeUtf8? b with
  | some s => .text s
  | none => .bytes b

/-- A file or a directory. -/
inductive Node where
  | file (content : Content)
  | directory (entries : List (String × Node))

/-- The entries of a directory by their names. -/
abbrev Directory := List (String × Node)

namespace Directory

/-- Put an entry in the place of one of the same name. -/
def replace (name : String) (node : Node) (d : Directory) : Directory :=
  (name, node) :: d.filter (·.1 != name)

/-- The entries of a subdirectory; a missing one has none. -/
def below (d : Directory) (name : String) : Directory :=
  match d.lookup name with
  | some (.directory entries) => entries
  | _ => []

/-- Put a node at a path of names, with the directories above it. -/
def put : List String → Node → Directory → Directory
  | [], _, d => d
  | [name], node, d => d.replace name node
  | name :: rest, node, d => d.replace name (.directory (put rest node (d.below name)))

/-- Remove the node at a path of names. -/
def remove : List String → Directory → Directory
  | [], d => d
  | [name], d => d.filter (·.1 != name)
  | name :: rest, d =>
    match d.lookup name with
    | some (.directory entries) => d.replace name (.directory (remove rest entries))
    | _ => d

end Directory

/-- The longest name of an entry, in bytes. -/
def nameLimit : Nat := 255

/-- The longest path, in bytes. -/
def pathLimit : Nat := 4095

/-- Follow names from a node; `above` are the directories over it, the nearest first. Above the base
directory there are only directories. -/
def follow : List String → List Directory → Node → Except FileFault (Option Node)
  | [], _, node => .ok (some node)
  | _ :: _, _, .file _ => .error .notDirectory
  | name :: rest, above, .directory entries =>
    if name = "" ∨ name = "." then follow rest above (.directory entries)
    else if name = ".." then
      match above with
      | [] => follow rest [] (.directory [])
      | parent :: above => follow rest above (.directory parent)
    else if nameLimit < name.utf8ByteSize then .error .nameTooLong
    else
      match entries.lookup name with
      | some node => follow rest (entries :: above) node
      | none => .ok none

/-- The names of a path. -/
def pathNames (path : String) : List String :=
  (path.toList.splitOn '/').map String.ofList

/-- The node at a path. An absolute path does not lead to the base directory. -/
def locate (base : Directory) (path : String) : Except FileFault (Option Node) :=
  if path.toList.contains '\x00' then .error .nulInPath
  else if path.isEmpty then .ok none
  else if pathLimit < path.utf8ByteSize then .error .nameTooLong
  else
    match pathNames path with
    | "" :: names => follow names [] (.directory [])
    | names => follow names [] (.directory base)

/-- The text of the file at a path, none when there is no file. -/
def readFile (base : Directory) (path : String) : Except FileFault (Option String) := do
  match ← locate base path with
  | none => return none
  | some (.directory _) => .error .isDirectory
  | some (.file (.bytes _)) => .error .notText
  | some (.file (.text s)) => return some s

end AuthChain.Config

import AuthChain.Cell
import AuthChain.Config.Files
import AuthChain.Config.Provider

/-!
# Values of a file

A provider that serves the members of a JSON document in a file. The document is loaded at the first
lookup and again on demand; a load that fails leaves the document that is served as it is.
-/

namespace AuthChain.Config

/-- The raw value of a document: none for null, the contents of a text, compact JSON otherwise. -/
def rawValue : Json.Value → Option String
  | .null => none
  | .string s => some s
  | v => some v.compact

/-- The value at a path of member names. -/
def memberAt : List String → Json.Value → Option Json.Value
  | [], v => some v
  | name :: rest, v => (v.member? name).bind (memberAt rest)

/-- The member names of a dotted key. -/
def keyNames (key : String) : List String :=
  (key.toList.splitOn '.').map String.ofList

/-- The raw value of a dotted key in a document. -/
def lookupKey (document : Json.Value) (key : String) : Option String :=
  (memberAt (keyNames key) document).bind rawValue

/-- What a provider of a file works on: the files and the document it serves. -/
structure FileSource (σ : Type) where
  path : String
  files : σ → Directory
  document : Cell σ (Option Json.Value)

namespace FileSource

variable {σ : Type}

/-- The document of a text. -/
def parseDocument (text : String) : Except ConfigError Json.Value :=
  match Json.parse text with
  | .ok v => .ok v
  | .error f => .error (.serialization (.text f))

/-- Read the document from the file; a missing file is an empty document. -/
def load (f : FileSource σ) : Reading σ Json.Value := do
  let s ← Reading.ofAct Act.get
  match readFile (f.files s) f.path with
  | .error fault => throw (.io fault)
  | .ok none =>
    Reading.ofAct (Act.emit (.fileMissing f.path))
    return .null
  | .ok (some text) => Reading.ofExcept (parseDocument text)

/-- Load the document and serve it from now on. -/
def reload (f : FileSource σ) : Reading σ Json.Value := do
  let fresh ← f.load
  -- not reached when the load failed, so the former document stays
  Reading.ofAct (Act.modify (f.document.set (some fresh)))
  return fresh

/-- The document that is served, which is loaded if there is none. -/
def current (f : FileSource σ) : Reading σ Json.Value := do
  match ← Reading.ofAct (Act.gets f.document.get) with
  | some document => return document
  | none => f.reload

/-- The provider of the file. -/
def provider (f : FileSource σ) : Provider σ :=
  ⟨"file", fun key => do
    let document ← f.current
    return lookupKey document key⟩

/-- The description of a provider of a file. -/
def describe (path : String) : String :=
  Text.recorded "FileConfigProvider" [("path", Text.quote path)]

end FileSource

end AuthChain.Config

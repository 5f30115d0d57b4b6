import AuthChain.Config.Layers
import AuthChain.Config.Environment
import AuthChain.Config.Document
import AuthChain.Config.Load
import AuthChain.Json.Depth
import AuthChain.Script.Faults
import AuthChain.Slots

/-!
# Described providers

An environment, files and providers over them that a document describes, with the maps and the
documents that the providers keep.
-/

namespace AuthChain.Script

open Config
open Json (Value)

/-- What described providers work on. -/
structure Site where
  environment : Environment
  files : Directory
  memories : Slots Nat TextMap
  documents : Slots Nat (Option Value)

namespace Site

/-- No variables and no files. -/
def empty : Site :=
  ⟨.empty, [], .empty, .empty⟩

/-- The map of a provider. -/
def memory (n : Nat) : Cell Site TextMap :=
  (⟨fun s => s.memories, fun a s => { s with memories := a }⟩ : Cell Site (Slots Nat TextMap)).comp
    (Slots.slot n .empty)

/-- The document of a provider. -/
def document (n : Nat) : Cell Site (Option Value) :=
  (⟨fun s => s.documents, fun a s => { s with documents := a }⟩ :
    Cell Site (Slots Nat (Option Value))).comp (Slots.slot n none)

/-- Set or remove variables. -/
def setVariables (s : Site) (bindings : Json.Members) : Site :=
  bindings.foldl (fun s (name, v) =>
    match v with
    | .string text => { s with environment := s.environment.set name (.text text) }
    | .array bytes =>
      { s with environment := s.environment.set name (.ofBytes (readBytes bytes)) }
    | _ => { s with environment := s.environment.unset name }) s

/-- Write or remove files and directories. -/
def setFiles (s : Site) (files : Json.Members) : Site :=
  files.foldl (fun s (path, v) =>
    let names := (pathNames path).filter fun name => name != "" && name != "."
    match v with
    | .string "<dir>" =>
      match locate s.files path with
      | .ok (some (.directory _)) => s
      | _ => { s with files := s.files.put names (.directory []) }
    | .string text => { s with files := s.files.put names (.file (.text text)) }
    | .array bytes => { s with files := s.files.put names (.file (.ofBytes (readBytes bytes))) }
    | _ => { s with files := s.files.remove names }) s

end Site

/-- A provider with what it is made of. -/
inductive Source where
  | memory (name : String) (n : Nat)
  | environment (start : Option String)
  | file (path : String) (n : Nat)
  | composite (sources : List Source)
  | failing (keys : List String) (error : ConfigError)

namespace Source

/-- The part of a site that a provider of a file works on. -/
def fileSource (path : String) (n : Nat) : FileSource Site :=
  ⟨path, fun s => s.files, Site.document n⟩

mutual

/-- The provider of a source. -/
def provider : Source → Provider Site
  | memory name n => .memory name (Site.memory n)
  | environment start => .environment start fun s => s.environment
  | file path n => (fileSource path n).provider
  | composite sources => .composite (providers sources)
  | failing keys error =>
    ⟨"failing", fun key => if keys.contains key then throw error else return none⟩

/-- The providers of sources. -/
def providers : List Source → List (Provider Site)
  | [] => []
  | s :: rest => s.provider :: providers rest

end

end Source

/-- A site under construction with the sources that have a name and the number of the next one. -/
structure Construction where
  site : Site
  named : List (String × Source)
  next : Nat

/-- The source that a document describes, at most `limit` composites deep. -/
def makeSource : Nat → Value → StateM Construction Source
  | 0, _ => return .composite []
  | limit + 1, v => do
    let n := (← get).next
    modify fun c => { c with next := n + 1 }
    let source ← match v.textAt "type" "" with
      | "memory" => do
        let values := ((v.field? "values").map Value.members).getD []
        let map := TextMap.ofList (values.filterMap fun (k, x) => x.text?.map (k, ·))
        modify fun c => { c with site := (Site.memory n).set map c.site }
        let name :=
          if v.textAt? "via" = some "from_data" then memoryName else v.textAt "name" memoryName
        pure (Source.memory name n)
      | "env" => pure (.environment ((v.textAt? "prefix").map underscored))
      | "file" => pure (.file (v.textAt "path" "") n)
      | "composite" => do
        let sources ← (v.itemsAt "providers").mapM (makeSource limit)
        pure (.composite sources)
      | _ => pure (.failing (v.textsAt "keys") (readConfigError ((v.field? "error").getD .null)))
    if let some id := v.textAt? "id" then
      modify fun c => { c with named := (id, source) :: c.named }
    return source

end AuthChain.Script

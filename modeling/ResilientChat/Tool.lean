import ResilientChat.Digest.Sha256
import ResilientChat.Json.Record
import ResilientChat.NameMap

/-!
The tools that a chat may use. A tool belongs to one module and stands for one
stored procedure; tools are found by their names, which are unique.
-/

namespace ResilientChat

structure Tool where
  name : String
  module : String
  procedure : String
  description : String := ""
deriving Repr, DecidableEq, Inhabited

namespace Tool

def ofJson? (v : Json.Value) : Option Tool := do
  let r ← Json.Record.ofValue? ["name", "module", "procedure", "description"] v
  return {
    name := ← r.required "name" Json.Value.string?
    module := ← r.required "module" Json.Value.string?
    procedure := ← r.required "procedure" Json.Value.string?
    description := ← r.withDefault "description" "" Json.Value.string? }

def toJson (t : Tool) : Json.Value :=
  .object [("name", .string t.name), ("module", .string t.module),
    ("procedure", .string t.procedure), ("description", .string t.description)]

end Tool

inductive ToolFault where
  | duplicate (name : String)
  | notFound (name : String)
deriving Repr, DecidableEq

def ToolFault.message : ToolFault → String
  | .duplicate name => "tool '" ++ name ++ "' is already registered"
  | .notFound name => "tool '" ++ name ++ "' is not registered"

/-- The tools of all modules, by name. -/
structure Toolbox where
  tools : NameMap Tool := ∅

namespace Toolbox

instance : EmptyCollection Toolbox := ⟨⟨∅⟩⟩

instance : Inhabited Toolbox := ⟨∅⟩

def register (b : Toolbox) (t : Tool) : Except ToolFault Toolbox :=
  if b.tools.contains t.name then .error (.duplicate t.name)
  else .ok ⟨b.tools.insert t.name t⟩

def registerAll (b : Toolbox) (tools : List Tool) : Except ToolFault Toolbox :=
  tools.foldlM register b

/-- Adds the tools of all modules, in order. -/
def ofModules (modules : List (List Tool)) : Except ToolFault Toolbox :=
  modules.foldlM registerAll ∅

def find (b : Toolbox) (name : String) : Except ToolFault Tool :=
  match b.tools.get? name with
  | some t => .ok t
  | none => .error (.notFound name)

def ofModule (b : Toolbox) (module : String) : List Tool :=
  b.tools.values.filter (·.module = module)

def offered (b : Toolbox) (module : String) : List String := (b.ofModule module).map (·.name)

def names (b : Toolbox) : List String := b.tools.names

def size (b : Toolbox) : Nat := b.tools.size

end Toolbox

/-- A list of names as a set: in ascending order and without repetitions. -/
def canonicalNames (names : List String) : List String :=
  (names.mergeSort fun a b => a ≤ b).eraseReps

def toolSetDigest (names : List String) : String :=
  Digest.sha256 (Digest.terminated (canonicalNames names))

end ResilientChat

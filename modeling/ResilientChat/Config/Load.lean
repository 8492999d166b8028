import ResilientChat.Config.Conversion
import ResilientChat.Config.Format
import ResilientChat.Config.Ini
import ResilientChat.Config.Json5
import ResilientChat.Config.Ron
import ResilientChat.Config.Substitute
import ResilientChat.Config.Toml
import ResilientChat.Config.Yaml
import ResilientChat.ServiceFault

/-!
Settings from documents and from the environment. Documents are laid over one
another in order, after the references in them are replaced; variables whose
names start with `bastion__` come last and name a single field each.
-/

namespace ResilientChat

namespace Config

open Text

structure Source where
  format : Format
  text : String
deriving Repr, DecidableEq

/-- The entries of a document; none if it breaks the rules of its format. -/
def read (format : Format) (text : String) : Option Entries :=
  match format with
  | .toml => readToml text
  | .json => readJson text
  | .yaml => readYaml text
  | .ini => readIni text
  | .ron => readRon text
  | .json5 => readJson5 text

def Source.entries (env : Environment) (s : Source) : Except Fault Entries :=
  match read s.format (substitute env s.text) with
  | some entries => .ok entries
  | none => .error (.parse ("not a document of format " ++ s.format.name))

def merge (env : Environment) (sources : List Source) : Except Fault Tree := do
  let documents ← sources.mapM (Source.entries env)
  return documents.foldl layOver (.table [])

def convert (tree : Tree) : Except Fault Settings :=
  match settingsOf? tree with
  | some settings => .ok settings
  | none => .error (.conversion "a field has a value that it cannot have")

def settingsFrom (env : Environment) (sources : List Source) : Except Fault Settings := do
  convert (← merge env sources)

abbrev Files := String → Option String

def sourceAt (files : Files) (path : String) : Except Fault Source := do
  match detectFormat path with
  | .error fault => throw (.unsupportedFormat fault.text)
  | .ok format =>
    match files path with
    | some text => return ⟨format, text⟩
    | none => throw (.file .notFound)

def loadTree (env : Environment) (files : Files) (path : String) : Except Fault Tree := do
  merge env [← sourceAt files path]

/-- Variables with this in front of their names are laid over the documents. -/
def overrideMark : List Char := "bastion__".toList

/-- A name with points in the place of doubled underscores. -/
def dotted : List Char → List Char
  | '_' :: '_' :: rest => '.' :: dotted rest
  | c :: rest => c :: dotted rest
  | [] => []

/-- The value of a variable: a truth value, a number or a string. -/
def overrideValue (text : String) : Tree :=
  if lower text = "true" then .bool true
  else if lower text = "false" then .bool false
  else
    match (Decimal.int? text).filter isWhole with
    | some n => .int n
    | none =>
      match Decimal.float? text with
      | some x => .float x
      | none => .string text

def override? (name value : String) : Option (String × Tree) :=
  let cs := (lower name).toList
  if overrideMark.isPrefixOf cs then
    some (String.ofList (dotted (cs.drop overrideMark.length)), overrideValue value)
  else none

def overrides (assignments : List (String × String)) : Entries :=
  assignments.filterMap fun v => override? v.1 v.2

structure LoadFailure where
  fault : ServiceFault
  activity : String
deriving Repr, DecidableEq

def loadDocument (files : Files) :
    Option String → Except LoadFailure (Option Source)
  | none => .ok none
  | some path =>
    match sourceAt files path with
    | .ok source => .ok (some source)
    | .error (.file fault) => .error ⟨.file fault, "reading " ++ path⟩
    | .error fault => .error ⟨.config fault, "detecting format of " ++ path⟩

/-- The settings of a file and of the variables, without a look at their rules. -/
def build (assignments : List (String × String)) (source : Option Source) :
    Except Fault Settings := do
  let env : Environment := fun name => assignments.lookup name
  let base ← merge env source.toList
  convert (layOver base (overrides assignments))

/-- Settings that keep their rules, from a file, if one is named, and from the variables. -/
def load (assignments : List (String × String)) (files : Files) (path : Option String) :
    Except LoadFailure Settings := do
  let source ← loadDocument files path
  let settings ←
    match build assignments source with
    | .ok settings => pure settings
    | .error fault => throw ⟨.config (.parse fault.message), "building resilience settings"⟩
  match settings.validate with
  | .ok () => return settings
  | .error fault => throw ⟨.config (.invalid fault), "validating resilience settings"⟩

end Config

end ResilientChat

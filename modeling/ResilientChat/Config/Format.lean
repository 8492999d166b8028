import ResilientChat.Text.LowerCase

/-!
The formats of settings documents, told by the extension of a file's name.
-/

namespace ResilientChat

namespace Config

inductive Format where
  | toml
  | json
  | yaml
  | ini
  | ron
  | json5
deriving Repr, DecidableEq, Inhabited

namespace Format

def name : Format → String
  | .toml => "toml"
  | .json => "json"
  | .yaml => "yaml"
  | .ini => "ini"
  | .ron => "ron"
  | .json5 => "json5"

def all : List Format := [.toml, .json, .yaml, .ini, .ron, .json5]

def ofName? (s : String) : Option Format := all.find? (·.name = s)

/-- The format of an extension in lower case; YAML has two. -/
def ofExtension? (extension : String) : Option Format :=
  if extension = "yml" then some .yaml else ofName? extension

end Format

def pathParts (path : String) : List String :=
  (path.splitOn "/").filter fun part => part ≠ "" && part ≠ "."

def fileName? (path : String) : Option String :=
  match (pathParts path).getLast? with
  | some ".." => none
  | last => last

/-- What follows the last dot of a file's name, unless that dot comes first. -/
def extension? (path : String) : Option String :=
  match fileName? path with
  | none => none
  | some name =>
    let backwards := name.toList.reverse
    let extension := backwards.takeWhile (· ≠ '.')
    match backwards.drop extension.length with
    | '.' :: _ :: _ => some (String.ofList extension.reverse)
    | _ => none

inductive FormatFault where
  | noExtension
  | unknown (extension : String)
deriving Repr, DecidableEq

def FormatFault.text : FormatFault → String
  | .noExtension => "No file extension found"
  | .unknown extension => extension

def detectFormat (path : String) : Except FormatFault Format :=
  match extension? path with
  | none => .error .noExtension
  | some extension =>
    match Format.ofExtension? (Text.lower extension) with
    | some format => .ok format
    | none => .error (.unknown extension)

end Config

end ResilientChat

import ResilientChat.Json.Reader
import ResilientChat.Json.Record
import ResilientChat.Policy

/-!
The bodies of chat and tool requests. A body is an object with one field of its
own besides the fields that say who asks. It is read from front to back, and the
first thing wrong with it decides whether it is no JSON or JSON of another shape.
-/

namespace ResilientChat

namespace Http

open Text

inductive BodyFault where
  | notJson
  | wrongShape
deriving Repr, DecidableEq

/-- Who asks, and what is known of the content. -/
structure Scope where
  tenant : String
  module : String
  signal : SensitivitySignal := {}
deriving Repr, DecidableEq, Inhabited

def Scope.ofMembers? (members : List (String × Json.Value)) : Option Scope := do
  let r ← Json.Record.ofValue? ["tenant", "module", "sensitive", "handling_mode"] (.object members)
  return {
    tenant := ← r.required "tenant" Json.Value.string?
    module := ← r.required "module" Json.Value.string?
    signal := {
      sensitive := ← r.withDefault "sensitive" false Json.Value.bool?
      mode := ← r.optional "handling_mode" fun v =>
        v.memberVariant?.bind HandlingMode.ofName? } }

/-- Reads with a scanner; what it does not take is no JSON. -/
def scanned {α : Type} (scan : Scan α) (cs : List Char) : Except BodyFault (α × List Char) :=
  match scan.run cs with
  | some (a, rest) => .ok (a, rest)
  | none => .error .notJson

/-- How the value of a body's own field is read. -/
inductive OwnField where
  | string (name : String)
  | any (name : String)

def OwnField.name : OwnField → String
  | .string name => name
  | .any name => name

def memberDepth : Nat := Json.depthLimit - 1

def scanMember : Scan Json.Value := do
  Json.scanReadable memberDepth

/-- The value of the own field; one that cannot be a string is refused where it starts. -/
def readOwn (field : OwnField) (cs : List Char) : Except BodyFault (Json.Value × List Char) :=
  match field with
  | .any _ => scanned scanMember cs
  | .string _ =>
    match cs.dropWhile Json.isSpace with
    | '[' :: _ | '\x7b' :: _ => .error .wrongShape
    | rest => do
      let (v, rest) ← scanned scanMember rest
      match v with
      | .string _ => return (v, rest)
      | _ => .error .wrongShape

def scanKey : Scan String := do
  match ← Json.scanString with
  | some key => return key
  | none => failure

def readMembers (field : OwnField) :
    (bound : Nat) → (done : List (String × Json.Value)) → List Char →
      Except BodyFault (List (String × Json.Value) × List Char)
  | 0, _, _ => .error .notJson
  | bound + 1, done, cs => do
    let (key, rest) ← scanned scanKey (cs.dropWhile Json.isSpace)
    if key = field.name && done.any (·.1 = key) then throw .wrongShape
    let (_, rest) ← scanned (Scan.expect ':') (rest.dropWhile Json.isSpace)
    let (v, rest) ← if key = field.name then readOwn field rest else scanned scanMember rest
    let done := done ++ [(key, v)]
    match rest.dropWhile Json.isSpace with
    | '\x7d' :: rest => return (done, rest)
    | ',' :: rest => readMembers field bound done rest
    | _ => throw .notJson

def readObject (field : OwnField) (text : String) :
    Except BodyFault (List (String × Json.Value) × List Char) :=
  match text.toList.dropWhile Json.isSpace with
  | '\x7b' :: rest =>
    match rest.dropWhile Json.isSpace with
    | '\x7d' :: rest => .ok ([], rest)
    | rest => readMembers field rest.length [] rest
  | '[' :: _ => .error .wrongShape
  | rest => do
    let _ ← scanned scanMember rest
    throw .wrongShape

/-- The scope of a body and the value of its own field, if it is given. -/
def readBody (field : OwnField) (required : Bool) (text : String) :
    Except BodyFault (Scope × Option Json.Value) := do
  let (members, rest) ← readObject field text
  let own := members.lookup field.name
  if required && own.isNone then throw .wrongShape
  let some scope := Scope.ofMembers? (members.filter (·.1 ≠ field.name)) | throw .wrongShape
  if (rest.dropWhile Json.isSpace).isEmpty then return (scope, own) else throw .notJson

def readQuestion (text : String) : Except BodyFault (Scope × String) := do
  let (scope, own) ← readBody (.string "question") true text
  match own with
  | some (.string question) => return (scope, question)
  | _ => throw .wrongShape

/-- The body of a tool request; arguments that are left out are null. -/
def readToolCall (text : String) : Except BodyFault (Scope × Json.Value) := do
  let (scope, own) ← readBody (.any "args") false text
  return (scope, (own.getD .null).canonical)

end Http

end ResilientChat

import ResilientChat.Json.Writer
import ResilientChat.Text.Percent

/-!
Requests and responses of the service, and the paths that it knows.
-/

namespace ResilientChat

namespace Http

structure Request where
  method : String
  /-- The path and what may follow it. -/
  target : String
  contentType : Option String := none
  body : String := ""
deriving Repr, DecidableEq, Inhabited

inductive Content where
  | empty
  | text (s : String)
  | json (v : Json.Value)
deriving Repr, Inhabited

structure Response where
  status : Nat
  content : Content := .empty
deriving Repr, Inhabited

/-- What a path leads to; names are still encoded. -/
inductive Route where
  | health
  | circuits
  | isolate (name : String)
  | reset (name : String)
  | chat
  | tool (name : String)
deriving Repr, DecidableEq

namespace Route

/-- The parts of a path after its slashes; none for a path that starts otherwise. -/
def segments? (target : String) : Option (List String) :=
  let path := target.toList.takeWhile fun c => c ≠ '?' && c ≠ '#'
  match (path.splitOn '/').map String.ofList with
  | "" :: rest => some rest
  | _ => none

def ofTarget? (target : String) : Option Route :=
  match segments? target with
  | some ["health"] => some .health
  | some ["health", "circuits"] => some .circuits
  | some ["admin", "circuits", name, "isolate"] => some (.isolate name)
  | some ["admin", "circuits", name, "reset"] => some (.reset name)
  | some ["v1", "chat"] => some .chat
  | some ["v1", "tools", name] => if name.isEmpty then none else some (.tool name)
  | _ => none

def methods : Route → List String
  | .health | .circuits => ["GET", "HEAD"]
  | .isolate _ | .reset _ | .chat | .tool _ => ["POST"]

end Route

def isTokenChar (c : Char) : Bool :=
  c.isAlphanum || "!#$%&'*+-.^_`|~".toList.contains c

def isQuotable (c : Char) : Bool := 0x20 ≤ c.val && c.val < 0x7f

/--
What follows a quoted text, which holds at least one character. The first one may be a quote
itself; the next quote ends the text.
-/
def afterQuoted? : List Char → Option (List Char)
  | [] => none
  | first :: rest =>
    match rest.dropWhile fun c => isQuotable c && c ≠ '"' with
    | '"' :: rest => if isQuotable first then some rest else none
    | _ => none

/--
Parameters of a media type, after the mark that sets them off. A semicolon stands between two of
them, blanks before a name and after a quoted value. A value without quotes is empty only at the
end of the text.
-/
def areParameters : (bound : Nat) → List Char → Bool
  | _, [] => true
  | 0, _ => false
  | bound + 1, ' ' :: rest => areParameters bound rest
  | bound + 1, cs =>
    let name := cs.takeWhile isTokenChar
    match name.isEmpty, cs.drop name.length with
    | false, '=' :: '"' :: quoted =>
      match (afterQuoted? quoted).map (·.dropWhile (· = ' ')) with
      | some [] => true
      | some (';' :: rest) => areParameters bound rest
      | _ => false
    | false, '=' :: value =>
      match value.takeWhile isTokenChar, value.dropWhile isTokenChar with
      | _, [] => true
      | _ :: _, ';' :: rest => areParameters bound rest
      | _, _ => false
    | _, _ => false

/-- A subtype stands for JSON itself or by its last suffix. -/
def isJsonSubtype (subtype : List Char) : Bool :=
  let backwards := subtype.reverse
  let suffix := (backwards.takeWhile (· ≠ '+')).reverse
  let base := ((backwards.dropWhile (· ≠ '+')).drop 1).reverse
  let json := "json".toList
  if base.isEmpty then subtype = json else suffix = json || base = json

/-- The media type is one of JSON, in any case of letters. -/
def isJsonType (mediaType : String) : Bool :=
  let cs := mediaType.toLower.toList
  let family := cs.takeWhile isTokenChar
  match cs.dropWhile isTokenChar with
  | '/' :: rest =>
    let subtype := rest.takeWhile isTokenChar
    family = "application".toList && isJsonSubtype subtype &&
      match rest.dropWhile isTokenChar with
      | [] => true
      | mark :: parameters =>
        (mark = ';' || mark = ' ') && areParameters parameters.length parameters
  | _ => false

end Http

end ResilientChat

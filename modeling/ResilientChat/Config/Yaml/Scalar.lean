import ResilientChat.Config.Yaml.Node
import ResilientChat.Decimal.Reading
import ResilientChat.Text.Digit

/-!
The values of scalars. One without quotes is a number, a truth value or null if it
is written like one. A tag says which of them it has to be; with any other tag, as
in quotes, it is a text.
-/

namespace ResilientChat

namespace Config

open Text

namespace Yaml

/-- A tag: the meaning of its handle, and what is written after it. -/
structure Tag where
  handle : String
  suffix : String
deriving Repr, DecidableEq

namespace Tag

def common : String := "tag:yaml.org,2002:"

end Tag

namespace Scalar

/-- A whole number in a base, with a sign that may be left out. -/
def inBase? (base : Nat) (cs : List Char) : Option Int :=
  let n? : Option Int :=
    match cs with
    | '-' :: ds => (Text.inBase? base ds).map fun n => -n
    | '+' :: ds => (Text.inBase? base ds).map fun n => n
    | ds => (Text.inBase? base ds).map fun n => n
  n?.filter isWhole

def decimal? (s : String) : Option Int := (Decimal.int? s).filter isWhole

/-- A whole number; a plus sign may stand in front of another sign. -/
def int? (s : String) : Option Int :=
  let marked? :=
    match s.toList with
    | '0' :: 'x' :: ds => inBase? 16 ds
    | '0' :: 'o' :: ds => inBase? 8 ds
    | '+' :: ds => decimal? (String.ofList ds)
    | _ => none
  marked? <|> decimal? s

def floatWords : List String :=
  [".inf", ".Inf", ".INF", "+.inf", "+.Inf", "+.INF", "-.inf", "-.Inf", "-.INF", ".nan", ".NAN"]

def float? (s : String) : Option Node :=
  if floatWords.contains s then some .refused
  else (Decimal.float? s).map fun x => .tree (.float x)

def null? (s : String) : Option Node :=
  if s = "~" || s = "null" then some .null else none

def bool? (s : String) : Option Node :=
  if s = "true" then some (.tree (.bool true))
  else if s = "false" then some (.tree (.bool false))
  else none

def text (s : String) : Node := .tree (.string s)

def plain (s : String) : Node :=
  if s.isEmpty then .null
  else
    let int? := (int? s).map fun n => Node.tree (.int n)
    (int? <|> null? s <|> bool? s <|> float? s).getD (text s)

def tagged (tag : Tag) (s : String) : Node :=
  if tag.handle = Tag.common then
    match tag.suffix with
    | "bool" => (bool? s).getD .misfit
    | "int" => ((decimal? s).map fun n => Node.tree (.int n)).getD .misfit
    | "float" => (float? s).getD .misfit
    | "null" => (null? s).getD .misfit
    | _ => text s
  else text s

/-- A scalar; `isPlain` says that it has no quotes and no lines of its own. -/
def node (isPlain : Bool) (tag? : Option Tag) (s : String) : Node :=
  if !isPlain then text s
  else
    match tag? with
    | some tag => tagged tag s
    | none => plain s

end Scalar

end Yaml

end Config

end ResilientChat

import ResilientChat.Text.Word

/-!
References to environment variables in a text. A reference in braces may stand
anywhere; a bare one ends where no word character follows. References in braces
are replaced first, and bare ones in the text that comes of it.
-/

namespace ResilientChat

namespace Config

open Text

abbrev Environment := String → Option String

def startsVariable (c : Char) : Bool := c.isAlpha || c = '_'

def isVariableChar (c : Char) : Bool := c.isAlphanum || c = '_'

/-- The longest name at the front of a text, and the rest. -/
def name? : List Char → Option (List Char × List Char)
  | c :: rest =>
    if startsVariable c then
      some (c :: rest.takeWhile isVariableChar, rest.dropWhile isVariableChar)
    else none
  | [] => none

/-- How a reference looks after its dollar sign: the name in it, and the text after it. -/
abbrev ReferenceForm := List Char → Option (List Char × List Char)

def braced : ReferenceForm
  | '\x7b' :: cs =>
    match name? cs with
    | some (name, '\x7d' :: rest) => some (name, rest)
    | _ => none
  | _ => none

/-- A name that no word character follows. -/
def bare : ReferenceForm := fun cs =>
  match name? cs with
  | some (name, rest) => if rest.head?.any isWord then none else some (name, rest)
  | none => none

/-- Replaces the references of one form; one without a value stays as it is. -/
def replace (form : ReferenceForm) (env : Environment) : (bound : Nat) → List Char → List Char
  | _, [] => []
  | 0, cs => cs
  | bound + 1, c :: cs =>
    if c = '$' then
      match form cs with
      | some (name, rest) =>
        let text :=
          match env (String.ofList name) with
          | some v => v.toList
          | none => '$' :: cs.take (cs.length - rest.length)
        text ++ replace form env bound rest
      | none => c :: replace form env bound cs
    else c :: replace form env bound cs

def replaceAll (form : ReferenceForm) (env : Environment) (cs : List Char) : List Char :=
  replace form env cs.length cs

/-- Replaces every reference to a variable that is set. -/
def substitute (env : Environment) (content : String) : String :=
  String.ofList (replaceAll bare env (replaceAll braced env content.toList))

end Config

end ResilientChat

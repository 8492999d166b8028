import ResilientChat.Json.Value

/-!
Values that are one of a fixed set of names.
-/

namespace ResilientChat.Json.Value

/-- A name, given as a string or as the only key of an object that holds null. -/
def variant? : Value → Option String
  | .string s => some s
  | .object [(name, .null)] => some name
  | _ => none

/-- The same where the value is a member of a larger object: an empty object stands for null. -/
def memberVariant? : Value → Option String
  | .object [(name, .object [])] => some name
  | v => v.variant?

end ResilientChat.Json.Value

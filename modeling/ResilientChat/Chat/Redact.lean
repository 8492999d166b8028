import ResilientChat.Json.Value

/-!
A result with its texts blacked out. Keys, numbers, truth values and nulls stay.
-/

namespace ResilientChat

namespace Chat

def blackout : String := "[REDACTED]"

mutual

def redact : Json.Value → Json.Value
  | .string _ => .string blackout
  | .array items => .array (redactItems items)
  | .object members => .object (redactMembers members)
  | v => v

def redactItems : List Json.Value → List Json.Value
  | [] => []
  | v :: rest => redact v :: redactItems rest

def redactMembers : List (String × Json.Value) → List (String × Json.Value)
  | [] => []
  | (key, v) :: rest => (key, redact v) :: redactMembers rest

end

end Chat

end ResilientChat

/-!
What can go wrong in one call of a dependency, which of these faults are worth
another attempt, and their texts.
-/

namespace ResilientChat

/-- The failure of a single call of a dependency. -/
inductive Fault where
  | timeout
  | rateLimited (retryAfterMs : Option UInt64)
  | unavailable (reason : String)
  | transport (reason : String)
  | status (code : UInt16) (text : String)
  | invalid (reason : String)
  | unsupported (operation : String)
  | cancelled
deriving Repr, DecidableEq, Inhabited

namespace Fault

def ofStatus (code : UInt16) (text : String) : Fault :=
  if code = 429 then .rateLimited none
  else if code = 503 then .unavailable text
  else .status code text

/-- Another attempt may succeed. -/
def isRetryable : Fault → Bool
  | .timeout | .rateLimited _ | .unavailable _ | .transport _ => true
  | .status code _ => code = 429 || (500 ≤ code && code < 600)
  | .invalid _ | .unsupported _ | .cancelled => false

/-- The caller gave up; this is neither retried nor held against the dependency. -/
def isCancellation (fault : Fault) : Bool := fault = .cancelled

def kind : Fault → String
  | .timeout => "timeout"
  | .rateLimited _ => "rate_limited"
  | .unavailable _ => "unavailable"
  | .transport _ => "transport"
  | .status _ _ => "status"
  | .invalid _ => "validation"
  | .unsupported _ => "unsupported"
  | .cancelled => "cancelled"

def message : Fault → String
  | .timeout => "dependency call timed out"
  | .rateLimited none => "rate limited"
  | .rateLimited (some ms) => "rate limited (retry after " ++ toString ms.toNat ++ "ms)"
  | .unavailable reason => "dependency unavailable: " ++ reason
  | .transport reason => "transport failure: " ++ reason
  | .status code text => "status " ++ toString code.toNat ++ ": " ++ text
  | .invalid reason => "validation failed: " ++ reason
  | .unsupported operation => "unsupported operation: " ++ operation
  | .cancelled => "call cancelled"

end Fault

end ResilientChat

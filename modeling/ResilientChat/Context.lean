import ResilientChat.Policy
import ResilientChat.RequestId

/-!
The context of a request: who asks, how the request is handled, and the token by
which its caller gives up. A token may have children; cancelling one cancels
those below it and none above.
-/

namespace ResilientChat

/-- A token, known by its place: its own number before those of its ancestors. -/
abbrev Token := List Nat

namespace Token

def child (parent : Token) (n : Nat) : Token := n :: parent

/-- One of the cancelled tokens is `t` or one of its ancestors. -/
def isCancelled (cancelled : List Token) (t : Token) : Bool := cancelled.any (·.isSuffixOf t)

end Token

structure RequestContext where
  requestId : RequestId
  tenant : String
  module : String
  policy : Policy := Policy.standard
  token : Token
deriving Repr, DecidableEq

namespace RequestContext

def withSensitivity (c : RequestContext) (signal : SensitivitySignal)
    (rules : SensitivityRules) : RequestContext :=
  { c with policy := Policy.derive signal rules }

def withPolicy (c : RequestContext) (policy : Policy) : RequestContext := { c with policy }

def withToken (c : RequestContext) (token : Token) : RequestContext := { c with token }

def withRequestId (c : RequestContext) (requestId : RequestId) : RequestContext :=
  { c with requestId }

end RequestContext

end ResilientChat

import ResilientChat.CallFailure
import ResilientChat.Tool

/-!
How a chat or tool request fails, and the texts of these failures.
-/

namespace ResilientChat

namespace Chat

open Breaker

inductive Failure where
  /-- The dependency's circuit refused the call. -/
  | unavailable (dependency : String) (phase : Phase)
  /-- Every attempt failed. -/
  | exhausted (dependency : String) (attempts : Nat) (last : Fault)
  /-- The dependency failed for good. -/
  | dependency (name : String) (fault : Fault)
  | cancelled
  | tool (fault : ToolFault)
deriving Repr, DecidableEq

namespace Failure

def ofCall (name : String) : CallFailure Fault → Failure
  | .refused _ phase => .unavailable name phase
  | .exhausted attempts _ last => .exhausted name attempts last
  | .cancelled => .cancelled
  | .fault fault => .dependency name fault

/-- The caller should come back later. -/
def isUnavailable : Failure → Bool
  | .unavailable _ _ | .exhausted _ _ _ => true
  | .dependency _ _ | .cancelled | .tool _ => false

def cause? : Failure → Option Fault
  | .exhausted _ _ last => some last
  | .dependency _ fault => some fault
  | .unavailable _ _ | .cancelled | .tool _ => none

def message : Failure → String
  | .unavailable name phase => name ++ " is unavailable (circuit " ++ phase.name ++ ")"
  | .exhausted name attempts last =>
    name ++ " failed after " ++ toString attempts ++ " attempts: " ++ last.message
  | .dependency name fault => name ++ " call failed: " ++ fault.message
  | .cancelled => "request cancelled"
  | .tool fault => fault.message

end Failure

end Chat

end ResilientChat

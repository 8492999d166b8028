import ResilientChat.Breaker.Phase
import ResilientChat.Duration
import ResilientChat.Fault

/-!
How a call that goes through a circuit and a retry policy can fail.
-/

namespace ResilientChat

open Breaker

/-- The failure of a call; `ε` is the failure of a single attempt. -/
inductive CallFailure (ε : Type) where
  /-- The circuit refused the call; the dependency was not called. -/
  | refused (circuit : String) (phase : Phase)
  /-- Every attempt failed with a fault worth another attempt. -/
  | exhausted (attempts : Nat) (elapsed : Duration) (last : ε)
  /-- The caller gave up. -/
  | cancelled
  /-- A fault that another attempt would not mend. -/
  | fault (error : ε)
deriving Repr, DecidableEq

namespace CallFailure

variable {ε δ : Type}

def isRefused : CallFailure ε → Bool
  | .refused _ _ => true
  | _ => false

def isCancelled : CallFailure ε → Bool
  | .cancelled => true
  | _ => false

def cause? : CallFailure ε → Option ε
  | .exhausted _ _ last => some last
  | .fault error => some error
  | .refused _ _ | .cancelled => none

def map (f : ε → δ) : CallFailure ε → CallFailure δ
  | .refused circuit phase => .refused circuit phase
  | .exhausted attempts elapsed last => .exhausted attempts elapsed (f last)
  | .cancelled => .cancelled
  | .fault error => .fault (f error)

/-- The failure of a call that was one attempt only. -/
def ofFault (fault : Fault) : CallFailure Fault :=
  if fault.isCancellation then .cancelled else .fault fault

def messageWith (text : ε → String) : CallFailure ε → String
  | .refused circuit phase => "circuit '" ++ circuit ++ "' is " ++ phase.name
  | .exhausted attempts elapsed last =>
    "retry exhausted after " ++ toString attempts ++ " attempts in "
      ++ toString (Duration.millis elapsed) ++ "ms: " ++ text last
  | .cancelled => "call cancelled"
  | .fault error => text error

def message : CallFailure Fault → String := messageWith Fault.message

end CallFailure

end ResilientChat

import ResilientChat.Chat.Failure
import ResilientChat.Json.Value

/-!
How a request to the service is refused or fails: the status, the code and the
text that the client is sent.
-/

namespace ResilientChat

namespace Http

inductive Failure where
  | circuitNotFound (name : String)
  | chatNotConfigured
  | invalidRequest (reason : String)
  | chat (failure : Chat.Failure)
deriving Repr, DecidableEq

namespace Failure

def blankQuestion : Failure := .invalidRequest "question is empty"

def blankScope : Failure := .invalidRequest "tenant and module are required"

def status : Failure → Nat
  | .circuitNotFound _ => 404
  | .chatNotConfigured => 503
  | .invalidRequest _ => 400
  | .chat (.unavailable _ _) => 503
  | .chat (.exhausted _ _ _) => 503
  | .chat (.dependency _ _) => 502
  | .chat .cancelled => 408
  | .chat (.tool (.notFound _)) => 404
  | .chat (.tool (.duplicate _)) => 409

def code : Failure → String
  | .circuitNotFound _ => "CIRCUIT_NOT_FOUND"
  | .chatNotConfigured => "CHAT_NOT_CONFIGURED"
  | .invalidRequest _ => "INVALID_REQUEST"
  | .chat (.unavailable _ _) => "CIRCUIT_OPEN"
  | .chat (.exhausted _ _ _) => "DEPENDENCY_UNAVAILABLE"
  | .chat (.dependency _ _) => "DEPENDENCY_FAILED"
  | .chat .cancelled => "REQUEST_CANCELLED"
  | .chat (.tool (.notFound _)) => "TOOL_NOT_FOUND"
  | .chat (.tool (.duplicate _)) => "TOOL_REGISTRY"

def message : Failure → String
  | .circuitNotFound name => "circuit not found: " ++ name
  | .chatNotConfigured => "chat backend is not configured"
  | .invalidRequest reason => "invalid request: " ++ reason
  | .chat failure => failure.message

def body (f : Failure) : Json.Value :=
  .object [("error", .object [("code", .string f.code), ("message", .string f.message)])]

end Failure

end Http

end ResilientChat

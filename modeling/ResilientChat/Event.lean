import ResilientChat.CallFailure

/-!
What happens during calls, as data: attempts, changes of phase and the outcomes
of whole calls. Each event has one log line.
-/

namespace ResilientChat

open Breaker

structure AttemptReport where
  /-- Counted from one. -/
  attempt : Nat
  /-- How many attempts the call may make. -/
  total : Nat
  /-- The text of the attempt's fault; none if it succeeded. -/
  lastError : Option String
  /-- Time since the first attempt started. -/
  elapsed : Duration
  /-- The pause before the next attempt, if there is one. -/
  nextDelay : Option Duration
deriving Repr, DecidableEq, Inhabited

namespace AttemptReport

def isFailure (r : AttemptReport) : Bool := r.lastError.isSome

def willRetry (r : AttemptReport) : Bool := r.nextDelay.isSome

def ofJson? (v : Json.Value) : Option AttemptReport := do
  let r ← Json.Record.ofValue?
    ["attempt_number", "total_attempts", "last_error", "elapsed", "next_delay"] v
  return {
    attempt := ← r.required "attempt_number" (Json.Value.natBelow? UInt32.size)
    total := ← r.required "total_attempts" (Json.Value.natBelow? UInt32.size)
    lastError := ← r.optional "last_error" Json.Value.string?
    elapsed := ← r.required "elapsed" Duration.ofJson?
    nextDelay := ← r.optional "next_delay" Duration.ofJson? }

def toJson (r : AttemptReport) : Json.Value :=
  .object [("attempt_number", .nat r.attempt), ("total_attempts", .nat r.total),
    ("last_error", (r.lastError.map Json.Value.string).getD .null),
    ("elapsed", Duration.toJson r.elapsed),
    ("next_delay", (r.nextDelay.map Duration.toJson).getD .null)]

end AttemptReport

inductive Outcome where
  | success
  | failure
  | rejected
  | cancelled
deriving Repr, DecidableEq, Inhabited

namespace Outcome

def name : Outcome → String
  | .success => "success"
  | .failure => "failure"
  | .rejected => "rejected"
  | .cancelled => "cancelled"

def all : List Outcome := [.success, .failure, .rejected, .cancelled]

def ofName? (s : String) : Option Outcome := all.find? (·.name = s)

def ofResult {α ε : Type} : Except (CallFailure ε) α → Outcome
  | .ok _ => .success
  | .error (.refused _ _) => .rejected
  | .error .cancelled => .cancelled
  | .error (.exhausted _ _ _) | .error (.fault _) => .failure

end Outcome

inductive Event where
  | attempt (dependency : String) (report : AttemptReport)
  | transition (circuit : String) (change : Change)
  | outcome (dependency : String) (outcome : Outcome) (elapsed : Duration)
deriving Repr, DecidableEq

inductive LogLevel where
  | debug
  | info
  | warn
deriving Repr, DecidableEq

def LogLevel.name : LogLevel → String
  | .debug => "DEBUG"
  | .info => "INFO"
  | .warn => "WARN"

/-- A line of the log: a level and named fields, the message among them. -/
structure LogLine where
  level : LogLevel
  fields : List (String × Json.Value)

namespace Event

/-- Milliseconds as the log holds them, in 64 bits. -/
def loggedMillis (d : Duration) : Json.Value := .nat (Duration.millis d % UInt64.size)

def logLine : Event → LogLine
  | .attempt dependency r =>
    match r.lastError with
    | some error => ⟨.debug,
        [("dependency", .string dependency), ("attempt", .nat r.attempt),
         ("total_attempts", .nat r.total), ("elapsed_ms", loggedMillis r.elapsed)]
        ++ (r.nextDelay.map fun d => ("next_delay_ms", loggedMillis d)).toList
        ++ [("error", .string error), ("message", .string "attempt failed")]⟩
    | none => ⟨.debug,
        [("dependency", .string dependency), ("attempt", .nat r.attempt),
         ("elapsed_ms", loggedMillis r.elapsed), ("message", .string "attempt succeeded")]⟩
  | .transition circuit change => ⟨.info,
      [("circuit", .string circuit), ("from", .string change.before.name),
       ("to", .string change.after.name), ("message", .string "circuit transition")]⟩
  | .outcome dependency verdict elapsed =>
    let level :=
      match verdict with
      | .failure | .rejected => LogLevel.warn
      | .success | .cancelled => LogLevel.debug
    ⟨level,
      [("dependency", .string dependency), ("outcome", .string verdict.name),
       ("elapsed_ms", loggedMillis elapsed), ("message", .string "call finished")]⟩

end Event

end ResilientChat

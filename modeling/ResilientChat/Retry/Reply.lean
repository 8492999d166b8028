import ResilientChat.Duration
import ResilientChat.Fault

/-!
How a dependency behaves when it is called: what it answers, after which time,
and what happens to the caller's wish to go on meanwhile. Time is a number, so a
call is a function of the instant at which it starts.

A token is known by the instant at which it is cancelled, if it is. An attempt
has a token of its own, which is cancelled with the caller's.
-/

namespace ResilientChat

/-- When a token is cancelled, if it is. -/
abbrev Cancellation := Option Instant

namespace Cancellation

def isDue (c : Cancellation) (now : Instant) : Bool := Option.any (· ≤ now) c

def either (c d : Cancellation) : Cancellation :=
  match c, d with
  | some s, some t => some (min s t)
  | some s, none => some s
  | none, d => d

end Cancellation

/-- The behaviour of a dependency in one call. -/
structure Reply (α : Type) where
  result : Except Fault α
  /-- Time until the answer. -/
  takes : Duration := 0
  /-- Cancels the attempt's own token at the end of that time. -/
  cancelsAttempt : Bool := false
  /-- Cancels the caller's token at the end of that time. -/
  cancelsCaller : Bool := false
  /-- Answers only when the attempt's token is cancelled. -/
  hangs : Bool := false
deriving Repr

namespace Reply

variable {α : Type}

/-- The end of one call, and the caller's token from then on. -/
structure End where
  instant : Instant
  caller : Cancellation
deriving Repr, DecidableEq

/-- When a call that starts at `now` ends; none if it never does. -/
def play (r : Reply α) (now : Instant) (caller : Cancellation) : Option End :=
  let served := now + r.takes
  let caller := if r.cancelsCaller then caller.either (some served) else caller
  let own := if r.cancelsAttempt then caller.either (some served) else caller
  if r.hangs then own.map fun cancelled => ⟨max served cancelled, caller⟩
  else some ⟨served, caller⟩

def map {β : Type} (f : α → β) (r : Reply α) : Reply β :=
  { r with result := r.result.map f }

end Reply

/-- The behaviour of a dependency in every call, counted from zero. -/
abbrev Script (α : Type) := Nat → Reply α

namespace Script

variable {α : Type}

/-- Call by call; the last behaviour lasts. -/
def ofList (replies : List (Reply α)) (fallback : Reply α) : Script α := fun n =>
  (replies[n]? <|> replies.getLast?).getD fallback

def after (s : Script α) (n : Nat) : Script α := fun i => s (n + i)

end Script

end ResilientChat

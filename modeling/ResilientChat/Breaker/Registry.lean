import ResilientChat.Breaker.Basic
import ResilientChat.NameMap

/-!
The breakers of all dependencies, one for each name. A breaker is made when its
name is first used and keeps the limits that it was made with.
-/

namespace ResilientChat

namespace Breaker

structure Registry where
  /-- The limits of a breaker that is made by isolating its name. -/
  defaults : Limits := {}
  breakers : NameMap Breaker := ∅
deriving Inhabited

namespace Registry

def get? (r : Registry) (name : String) : Option Breaker := r.breakers.get? name

/-- The breaker of that name, or a new one with those limits. -/
def obtain (r : Registry) (name : String) (limits : Limits) : Breaker :=
  (r.get? name).getD { name, limits }

/-- Puts a breaker in the place of the one with its name. -/
def put (r : Registry) (b : Breaker) : Registry :=
  { r with breakers := r.breakers.insert b.name b }

def ensure (r : Registry) (name : String) (limits : Limits) : Registry :=
  r.put (r.obtain name limits)

def isolateWith (r : Registry) (name : String) (limits : Limits) (now : Instant) :
    Registry × Moved :=
  let moved := (r.obtain name limits).isolate now
  (r.put moved.breaker, moved)

def isolate (r : Registry) (name : String) (now : Instant) : Registry × Moved :=
  r.isolateWith name r.defaults now

def reset? (r : Registry) (name : String) (now : Instant) : Option (Registry × Moved) :=
  (r.get? name).map fun b =>
    let moved := b.reset now
    (r.put moved.breaker, moved)

def phases (r : Registry) : List (String × Phase) :=
  r.breakers.entries.map fun e => (e.1, e.2.publishedPhase)

def views (r : Registry) : List View := r.breakers.values.map Breaker.view

end Registry

end Breaker

end ResilientChat

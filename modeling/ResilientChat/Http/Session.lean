import ResilientChat.Http.Site

/-!
The service over a sequence of requests.
-/

namespace ResilientChat

namespace Http

/-- The service between two requests, with its dependencies and the clock. -/
structure Session where
  site : Site
  backends : Chat.Backends
  now : Instant := 0

namespace Session

structure Step where
  session : Session
  response : Response
  traces : Chat.Traces

/-- Answers a request under the given id. None stands for a dependency that never answers. -/
def serve (s : Session) (requestId : RequestId) (q : Request) : Option Step :=
  (s.site.serve ⟨s.now, requestId, s.backends⟩ q).map fun served =>
    { session := ⟨served.site, s.backends.after served.traces, served.now⟩
      response := served.response
      traces := served.traces }

def wait (s : Session) (d : Duration) : Session := { s with now := s.now + d }

end Session

end Http

end ResilientChat

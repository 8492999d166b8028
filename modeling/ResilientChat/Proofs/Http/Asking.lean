import ResilientChat.Http.Session

/-!
What a request asks for. Its route, method, media type and body are read before the service acts;
what comes out is one of four things to do, or nothing. A request that asks for nothing is answered
from what is there and leaves the service as it is.
-/

namespace ResilientChat

namespace Http

inductive Ask where
  | isolate (name : String)
  | reset (name : String)
  | chat (scope : Scope) (question : String)
  | tool (name : String) (scope : Scope) (args : Json.Value)

namespace Request

def body? {α : Type} (q : Request) (read : String → Except BodyFault α) : Option α :=
  if q.contentType.any isJsonType then (read q.body).toOption else none

def askOn? (q : Request) : Route → Option Ask
  | .health | .circuits => none
  | .isolate encoded => (Text.percentDecode? encoded).map .isolate
  | .reset encoded => (Text.percentDecode? encoded).map .reset
  | .chat => (q.body? readQuestion).map fun (scope, question) => .chat scope question
  | .tool encoded =>
    (Text.percentDecode? encoded).bind fun name =>
      (q.body? readToolCall).map fun (scope, args) => .tool name scope args

/-- What a request asks for; none if it asks for nothing or cannot be read. -/
def ask? (q : Request) : Option Ask :=
  if q.method = "POST" then (Route.ofTarget? q.target).bind q.askOn? else none

theorem ask?_of_post {q : Request} {route : Route} (hpost : q.method = "POST")
    (hroute : Route.ofTarget? q.target = some route) : q.ask? = q.askOn? route := by
  rw [ask?, if_pos hpost, hroute, Option.bind_some]

end Request

def Response.errorCode? (r : Response) : Option String :=
  match r.content with
  | .json body =>
    (body.member? "error").bind fun error => (error.member? "code").bind Json.Value.string?
  | .empty | .text _ => none

@[simp] theorem errorCode?_body (status : Nat) (failure : Failure) :
    (Response.mk status (.json failure.body)).errorCode? = some failure.code := by
  simp [Response.errorCode?, Failure.body, Json.Value.member?, List.lookup_cons, Json.Value.string?]

/-- A response with an object that has no such member tells of no failure. -/
theorem errorCode?_object {members : List (String × Json.Value)} (status : Nat)
    (h : "error" ∉ members.map Prod.fst) :
    (Response.mk status (.json (.object members))).errorCode? = none := by
  have hlookup : members.reverse.lookup "error" = none := by
    refine List.lookup_eq_none_iff.mpr fun member hmem => ?_
    rw [bne_iff_ne]
    rintro hkey
    exact h (List.mem_map.mpr ⟨member, List.mem_reverse.mp hmem, hkey.symm⟩)
  simp only [Response.errorCode?, Json.Value.member?, hlookup, Option.bind_none]

namespace Site

/-- Does what it is asked. None stands for a dependency that never answers. -/
def act (s : Site) (env : Surroundings) : Ask → Option Served
  | .isolate name => some (s.isolate env name)
  | .reset name => some (s.reset env name)
  | .chat scope question => s.chat env scope question
  | .tool name scope args => s.tool env name scope args

section Serve

variable (s : Site) (env : Surroundings) {q : Request}

theorem withBody_of_body? {α : Type} {read : String → Except BodyFault α} {body : α}
    (h : q.body? read = some body) (act : α → Option Served) :
    s.withBody env q read act = act body := by
  rw [Request.body?] at h
  split at h
  · next hjson =>
    cases hread : read q.body with
    | error fault => simp [hread, Except.toOption] at h
    | ok body' =>
        simp only [hread, Except.toOption, Option.some.injEq] at h
        simp [withBody, hjson, hread, h]
  · cases h

/-- A body that cannot be read is refused, with a text that says so. -/
theorem withBody_of_body?_eq_none {α : Type} {read : String → Except BodyFault α}
    (h : q.body? read = none) (act : α → Option Served) :
    ∃ status text, s.withBody env q read act = some (s.refused env status text) := by
  rw [Request.body?] at h
  split at h
  · next hjson =>
    cases hread : read q.body with
    | ok body => simp [hread, Except.toOption] at h
    | error fault => cases fault <;> exact ⟨_, _, by simp [withBody, hjson, hread]; rfl⟩
  · next hjson => exact ⟨_, _, if_pos (by simpa using hjson)⟩

theorem serveRoute_of_askOn? {route : Route} {ask : Ask} (h : q.askOn? route = some ask) :
    s.serveRoute env q route = s.act env ask := by
  cases route with
  | health | circuits => cases h
  | isolate encoded | reset encoded =>
      obtain ⟨name, hname, rfl⟩ := Option.map_eq_some_iff.mp h
      simp [serveRoute, withName, hname, act]
  | chat =>
      obtain ⟨⟨scope, question⟩, hbody, rfl⟩ := Option.map_eq_some_iff.mp h
      exact s.withBody_of_body? env hbody _
  | tool encoded =>
      obtain ⟨name, hname, hrest⟩ := Option.bind_eq_some_iff.mp h
      obtain ⟨⟨scope, args⟩, hbody, rfl⟩ := Option.map_eq_some_iff.mp hrest
      simp only [serveRoute, withName, hname]
      exact s.withBody_of_body? env hbody _

theorem serveRoute_of_askOn?_eq_none {route : Route} (h : q.askOn? route = none) :
    ∃ response, s.serveRoute env q route = some (s.unchanged env response) ∧
      response.errorCode? = none := by
  cases route with
  | health | circuits =>
      exact ⟨_, rfl, errorCode?_object 200 (by simp)⟩
  | isolate encoded | reset encoded =>
      have hname := Option.map_eq_none_iff.mp h
      exact ⟨⟨400, .text "the path is not text"⟩, by simp [serveRoute, withName, hname]; rfl, rfl⟩
  | chat =>
      obtain ⟨status, text, hrefused⟩ :=
        s.withBody_of_body?_eq_none env (Option.map_eq_none_iff.mp h)
          fun (scope, question) => s.chat env scope question
      exact ⟨⟨status, .text text⟩, hrefused, rfl⟩
  | tool encoded =>
      rw [Request.askOn?] at h
      cases hname : Text.percentDecode? encoded with
      | none =>
          exact ⟨⟨400, .text "the path is not text"⟩, by simp [serveRoute, withName, hname]; rfl,
            rfl⟩
      | some name =>
          rw [hname, Option.bind_some, Option.map_eq_none_iff] at h
          obtain ⟨status, text, hrefused⟩ :=
            s.withBody_of_body?_eq_none env h fun (scope, args) => s.tool env name scope args
          refine ⟨⟨status, .text text⟩, ?_, rfl⟩
          simp only [serveRoute, withName, hname]
          exact hrefused

/-- A request that asks for something is served by doing it. -/
theorem serve_of_ask? {ask : Ask} (h : q.ask? = some ask) : s.serve env q = s.act env ask := by
  rw [Request.ask?] at h
  split at h
  · next hpost =>
    obtain ⟨route, hroute, hask⟩ := Option.bind_eq_some_iff.mp h
    have hknown : "POST" ∈ route.methods := by
      cases route with
      | health | circuits => cases hask
      | isolate | reset | chat | tool => exact List.mem_singleton_self _
    simp [serve, hroute, hknown, hpost, s.serveRoute_of_askOn? env hask]
  · cases h

/-- A request that asks for nothing changes nothing. -/
theorem serve_of_ask?_eq_none (h : q.ask? = none) :
    ∃ response, s.serve env q = some (s.unchanged env response) ∧ response.errorCode? = none := by
  cases hroute : Route.ofTarget? q.target with
  | none => exact ⟨⟨404, .empty⟩, by rw [serve, hroute], rfl⟩
  | some route =>
      by_cases hknown : q.method ∈ route.methods
      · have hask : q.askOn? route = none := by
          by_cases hpost : q.method = "POST"
          · rwa [← Request.ask?_of_post hpost hroute]
          · cases route with
            | health | circuits => rfl
            | isolate | reset | chat | tool => exact absurd (List.mem_singleton.mp hknown) hpost
        obtain ⟨response, hserve, hcode⟩ := s.serveRoute_of_askOn?_eq_none env hask
        by_cases hhead : q.method = "HEAD"
        · refine ⟨{ response with content := .empty }, ?_, rfl⟩
          rw [hhead] at hknown
          simp [serve, hroute, hknown, hhead, hserve, headOnly, unchanged]
        · exact ⟨response, by simp [serve, hroute, hknown, hhead, hserve], hcode⟩
      · exact ⟨⟨405, .empty⟩, by simp [serve, hroute, hknown], rfl⟩

end Serve

end Site

end Http

end ResilientChat

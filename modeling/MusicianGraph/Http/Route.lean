import MusicianGraph.Http.Percent

/-! # Routes

A route is a method and a pattern of path segments, some of them fixed and some of them parameters.
A request goes to the first route that fits; a path that fits some route but not with its method is
told from a path that fits none. -/

namespace MusicianGraph

/-- What the service can be asked to do. -/
inductive Endpoint where
  | readUser
  | editUser
  | suggestions
  | onboarding
  | follow
  | unfollow
  | feed
  | userPosts
  | createPost
  | like
  | unlike
  | listEvents
  | createEvent
  | conversation
  | sendMessage
  | search
  | health
deriving DecidableEq, Repr

/-- A part of a pattern. -/
inductive Segment where
  | fixed (text : String)
  | parameter
deriving DecidableEq, Repr

/-- A way to an endpoint. -/
structure Route where
  method : String
  pattern : List Segment
  endpoint : Endpoint
deriving DecidableEq, Repr

namespace Route

/-- Match path segments with a pattern and give the parameters. Parameters are not empty; a fixed
segment at the end of a path may be followed by a line end. -/
def matchSegments : List Segment → List String → Option (List String)
  | [], [] => some []
  | [.fixed text], [s] => if s = text ∨ s = text ++ "\n" then some [] else none
  | .fixed text :: pattern, s :: rest => if s = text then matchSegments pattern rest else none
  | .parameter :: pattern, s :: rest =>
      if s.isEmpty then none else (matchSegments pattern rest).map (s :: ·)
  | _, _ => none

/-- The segments of a decoded path, which begins with a slash. -/
def segmentsOf (path : String) : Option (List String) :=
  match path.toList.splitOn '/' with
  | [] :: rest => some (rest.map String.ofList)
  | _ => none

def parameters? (r : Route) (path : String) : Option (List String) :=
  (segmentsOf path).bind (matchSegments r.pattern)

open Segment in
def all : List Route := [
  ⟨"GET", [fixed "api", fixed "users", parameter], .readUser⟩,
  ⟨"PATCH", [fixed "api", fixed "users", parameter], .editUser⟩,
  ⟨"GET", [fixed "api", fixed "users", parameter, fixed "suggestions"], .suggestions⟩,
  ⟨"GET", [fixed "api", fixed "users", parameter, fixed "onboarding", fixed "suggestions"],
    .onboarding⟩,
  ⟨"POST", [fixed "api", fixed "users", parameter, fixed "following", parameter], .follow⟩,
  ⟨"DELETE", [fixed "api", fixed "users", parameter, fixed "following", parameter], .unfollow⟩,
  ⟨"GET", [fixed "api", fixed "users", parameter, fixed "feed"], .feed⟩,
  ⟨"GET", [fixed "api", fixed "users", parameter, fixed "posts"], .userPosts⟩,
  ⟨"POST", [fixed "api", fixed "posts"], .createPost⟩,
  ⟨"POST", [fixed "api", fixed "posts", parameter, fixed "likes", parameter], .like⟩,
  ⟨"DELETE", [fixed "api", fixed "posts", parameter, fixed "likes", parameter], .unlike⟩,
  ⟨"GET", [fixed "api", fixed "events"], .listEvents⟩,
  ⟨"POST", [fixed "api", fixed "events"], .createEvent⟩,
  ⟨"GET", [fixed "api", fixed "messages", parameter, parameter], .conversation⟩,
  ⟨"POST", [fixed "api", fixed "messages"], .sendMessage⟩,
  ⟨"GET", [fixed "api", fixed "search"], .search⟩,
  ⟨"GET", [fixed "health"], .health⟩]

/-- Where a request goes. -/
inductive Destination where
  | endpoint (e : Endpoint) (parameters : List String)
  | wrongMethod (allowed : String)
  /-- The path fits a route without its slashes at the end. -/
  | elsewhere (path : String)
  | nowhere
deriving DecidableEq, Repr

/-- A path without the slashes at its end. -/
def withoutSlashes (path : String) : String :=
  String.ofList (path.toList.reverse.dropWhile (· == '/')).reverse

/-- Find the destination of a method and a decoded path. -/
def destination (method path : String) : Destination :=
  let fitting := all.filterMap fun r => (r.parameters? path).map fun ps => (r, ps)
  match fitting.find? fun (r, _) => r.method == method, fitting with
  | some (r, ps), _ => .endpoint r.endpoint ps
  | none, (r, _) :: _ => .wrongMethod r.method
  | none, [] =>
      let shorter := withoutSlashes path
      if shorter != path && all.any fun r => (r.parameters? shorter).isSome then .elsewhere shorter
      else .nowhere

end Route

end MusicianGraph

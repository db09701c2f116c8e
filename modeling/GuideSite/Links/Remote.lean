import GuideSite.Links.Catalogue
import GuideSite.Url.Resolve

/-!
# Checking links on a published site

Every link of the catalogue is requested from the place where the site is published. A link is missing if the answer
is an error status or if there is no answer; the session that carries the requests is closed at the end, whatever
happens.
-/

namespace GuideSite.Links

/-- What comes back for a request. -/
inductive Reply
  | status (code : Int)
  /-- The request failed, with no answer in time or at all. -/
  | failure
  /-- The session itself broke down. -/
  | breakdown (words : String)
  deriving DecidableEq, Repr

/-- An error status. -/
def isErrorStatus (code : Int) : Bool := 400 ≤ code && code < 600

/-- How a session is prepared: how often a request is tried again, for each kind of address. -/
def retries : List (String × Nat) := [("https://", 5), ("http://", 5)]

/-! ## The session -/

/-- The session that carries the requests: those made so far, and whether it is closed. -/
structure Session where
  requested : List String
  closed : Bool
  deriving DecidableEq, Repr

/-- A session before its first request. -/
def Session.opened : Session := ⟨[], false⟩

/-- The session after one more request; a closed one makes none. -/
def Session.request (s : Session) (url : String) : Session :=
  if s.closed then s else { s with requested := s.requested ++ [url] }

/-- The session closed. -/
def Session.close (s : Session) : Session := { s with closed := true }

/-! ## The check -/

/-- The place where the site is published, with one slash at the end. -/
def publishedRoot (base : String) : String :=
  if base.toList.getLast? = some '/' then base else base ++ "/"

/-- The session after the links were requested, with those found missing or the error that ended the check. -/
def requestAll (root : String) (answer : String → Reply) (s : Session) :
    List String → Session × Except Error (List String)
  | [] => (s, .ok [])
  | link :: links =>
    match Url.resolve root link with
    | .error fault => (s, .error (.host fault))
    | .ok url =>
      match answer url with
      | .breakdown words => (s.request url, .error (.session words))
      | .failure =>
        let (s', rest) := requestAll root answer (s.request url) links
        (s', rest.map (link :: ·))
      | .status code =>
        let (s', rest) := requestAll root answer (s.request url) links
        (s', if isErrorStatus code then rest.map (link :: ·) else rest)

/-- The check of a site that is published at a base URL: the session at its end, and the missing links or an error. -/
def checkRemote (site : Site) (base : String) (answer : String → Reply) : Session × Except Error (List String) :=
  let (s, outcome) := requestAll (publishedRoot base) answer .opened (catalogue site)
  (s.close, outcome)

end GuideSite.Links

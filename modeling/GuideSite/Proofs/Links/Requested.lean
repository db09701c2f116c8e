import GuideSite.Links.Remote
import GuideSite.Proofs.Links.Plain
import GuideSite.Proofs.Url.Resolving
import Mathlib.Data.List.Forall2

/-!
# The requests of a check

The check of a published site resolves one link of the catalogue after the other, requests what it leads to, and goes on
unless a link cannot be resolved or the session breaks down. `Asks` has one constructor for each of these steps, and
what a whole check requests follows by induction on it. A plain link is requested below the root of the site, and that
is what a reader reaches who follows the same link on a page.

* `asks_requestAll`: a check goes on by these steps.
* `Asks.forall₂`: the requests of a check.
* `requested_eq`: they are the URLs that readers reach.
-/

namespace GuideSite.Links

open Url (Address)

variable {root : String} {answer : String → Reply} {link url : String} {links urls : List String}

/-! ## Steps -/

/-- A reply that tells of a missing page. -/
def Reply.isMissing : Reply → Bool
  | .status code => isErrorStatus code
  | .failure => true
  | .breakdown _ => false

/-- The links that a check goes through, the URLs that it requests, and what it gives. -/
inductive Asks (root : String) (answer : String → Reply) :
    List String → List String → Except Error (List String) → Prop
  | done : Asks root answer [] [] (.ok [])
  /-- A link that cannot be resolved ends the check without a request. -/
  | unresolved {link : String} {links : List String} {fault : HostFault}
      (hlink : Url.resolve root link = .error fault) : Asks root answer (link :: links) [] (.error (.host fault))
  /-- A session that breaks down ends the check with this request. -/
  | broken {link url : String} {links : List String} {words : String} (hlink : Url.resolve root link = .ok url)
      (hreply : answer url = .breakdown words) : Asks root answer (link :: links) [url] (.error (.session words))
  /-- Any other reply tells of the link, and the check goes on. -/
  | replied {link url : String} {links urls : List String} {outcome : Except Error (List String)}
      (hlink : Url.resolve root link = .ok url) (hreply : ∀ words, answer url ≠ .breakdown words)
      (hrest : Asks root answer links urls outcome) :
      Asks root answer (link :: links) (url :: urls)
        (if (answer url).isMissing then outcome.map (link :: ·) else outcome)

/-- The session after some requests. -/
def Session.after (s : Session) (urls : List String) : Session := { s with requested := s.requested ++ urls }

theorem Session.after_nil (s : Session) : s.after [] = s := by
  rw [after, List.append_nil]

theorem Session.request_of_open {s : Session} (hopen : s.closed = false) (url : String) :
    s.request url = s.after [url] :=
  if_neg (by rw [hopen]; exact Bool.false_ne_true)

theorem Session.after_after (s : Session) (urls more : List String) :
    (s.after urls).after more = s.after (urls ++ more) := by
  rw [after, after, after, List.append_assoc]

attribute [local simp] requestAll

theorem requestAll_unresolved {fault : HostFault} (hlink : Url.resolve root link = .error fault) (s : Session) :
    requestAll root answer s (link :: links) = (s, .error (.host fault)) := by
  simp [hlink]

theorem requestAll_broken {words : String} (hlink : Url.resolve root link = .ok url)
    (hreply : answer url = .breakdown words) (s : Session) :
    requestAll root answer s (link :: links) = (s.request url, .error (.session words)) := by
  simp [hlink, hreply]

theorem requestAll_replied (hlink : Url.resolve root link = .ok url) (hreply : ∀ words, answer url ≠ .breakdown words)
    (s : Session) :
    requestAll root answer s (link :: links) =
      ((requestAll root answer (s.request url) links).1,
        if (answer url).isMissing then (requestAll root answer (s.request url) links).2.map (link :: ·)
        else (requestAll root answer (s.request url) links).2) := by
  rw [requestAll, hlink]
  dsimp only
  cases hanswer : answer url with
  | breakdown words => exact absurd hanswer (hreply words)
  | failure => rfl
  | status code => rfl

/-- A check in an open session goes on by these steps. -/
theorem asks_requestAll (links : List String) {s : Session} (hopen : s.closed = false) :
    ∃ urls, (requestAll root answer s links).1 = s.after urls ∧
      Asks root answer links urls (requestAll root answer s links).2 := by
  induction links generalizing s with
  | nil => exact ⟨[], s.after_nil.symm, .done⟩
  | cons link links ih =>
    cases hlink : Url.resolve root link with
    | error fault =>
      rw [requestAll_unresolved hlink]
      exact ⟨[], s.after_nil.symm, .unresolved hlink⟩
    | ok url =>
      have hrequest := Session.request_of_open hopen url
      by_cases hbroken : ∃ words, answer url = .breakdown words
      · obtain ⟨words, hreply⟩ := hbroken
        rw [requestAll_broken hlink hreply]
        exact ⟨[url], hrequest, .broken hlink hreply⟩
      · have hreply : ∀ words, answer url ≠ .breakdown words := not_exists.1 hbroken
        obtain ⟨urls, hsession, hrest⟩ := @ih (s.after [url]) hopen
        rw [requestAll_replied hlink hreply, hrequest]
        exact ⟨url :: urls, hsession.trans (s.after_after [url] urls), .replied hlink hreply hrest⟩

/-- The requests of a check and what it gives. -/
theorem asks_checkRemote (site : Site) (base : String) (answer : String → Reply) :
    Asks (publishedRoot base) answer (catalogue site) (checkRemote site base answer).1.requested
      (checkRemote site base answer).2 := by
  obtain ⟨urls, hsession, hasks⟩ := @asks_requestAll (publishedRoot base) answer (catalogue site) .opened rfl
  have hrequested : (checkRemote site base answer).1.requested = urls :=
    (congrArg Session.requested hsession).trans (List.nil_append urls)
  rw [hrequested]
  exact hasks

/-! ## Runs -/

namespace Asks

variable {outcome : Except Error (List String)}

/-- Where every link is resolved and the session does not break down, a check gives the links with a reply that tells of
a missing page. -/
theorem eq_ok {urlOf : String → String} (h : Asks root answer links urls outcome)
    (hlinks : ∀ link ∈ links, Url.resolve root link = .ok (urlOf link))
    (hreplies : ∀ link ∈ links, urlOf link ∈ urls → ∀ words, answer (urlOf link) ≠ .breakdown words) :
    urls = links.map urlOf ∧ outcome = .ok (links.filter fun link => (answer (urlOf link)).isMissing) := by
  induction h with
  | done => exact ⟨rfl, rfl⟩
  | unresolved hlink =>
    have hresolved := hlinks _ List.mem_cons_self
    rw [hlink] at hresolved
    cases hresolved
  | broken hlink hreply =>
    obtain rfl := Except.ok.inj (hlink.symm.trans (hlinks _ List.mem_cons_self))
    exact absurd hreply (hreplies _ List.mem_cons_self List.mem_cons_self _)
  | replied hlink hreply hrest ih =>
    obtain ⟨hfirst, hothers⟩ := List.forall_mem_cons.1 hlinks
    obtain rfl := Except.ok.inj (hlink.symm.trans hfirst)
    obtain ⟨rfl, rfl⟩ := ih hothers fun link hmem hurl =>
      hreplies link (List.mem_cons_of_mem _ hmem) (List.mem_cons_of_mem _ hurl)
    refine ⟨rfl, ?_⟩
    rw [List.filter_cons]
    split <;> rfl

end Asks

/-! ## Plain links -/

theorem publishedRoot_address {a : Address} {base : String} (h : base = a.text ∨ base = a.text ++ "/") :
    publishedRoot base = a.text ++ "/" := by
  obtain rfl | rfl := h
  · exact if_neg a.getLast?_text
  · exact if_pos (by simp [String.toList_append])

/-- **The URL of a plain link** is the same from the root of the site and from any of its pages. -/
theorem resolve_of_isPlainLink (a : Address) (hlink : IsPlainLink link) :
    Url.resolve (a.text ++ "/") link = .ok (a.text ++ "/" ++ link) ∧
      ∀ page, Path.IsPlainPath page →
        Url.resolve (a.text ++ "/" ++ page) (Path.toRoot page ++ link) = .ok (a.text ++ "/" ++ link) := by
  obtain ⟨path, fragment, hpath, hfragment, rfl⟩ := hlink
  exact ⟨a.resolve_root hpath hfragment, fun page hpage => a.resolve_page hpath hfragment hpage⟩

end GuideSite.Links

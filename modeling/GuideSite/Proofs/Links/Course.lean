import GuideSite.Proofs.Links.Requested

/-!
# The course of a check

A check of a published site goes through the catalogue link by link, and a link ends it that cannot be resolved or at
which the session breaks down. `Course` has one constructor for each way in which a whole check can go: no link ends it,
or one of the two kinds does and no link before it. In all three the session is closed in the end.

* `Course.replied`: a link that does not end the check, put before the others.
* `Asks.course`: every check takes such a course.
* `checkRemote_course`: the requests, the outcome and the session of a check.
-/

namespace GuideSite.Links

variable {root : String} {answer : String → Reply} {link url : String} {links urls : List String}
  {outcome : Except Error (List String)}

/-- The check goes on after the link: it is resolved, and the session does not break down at its URL. -/
def Passes (root : String) (answer : String → Reply) (link : String) : Prop :=
  ∃ url, Url.resolve root link = .ok url ∧ ∀ words, answer url ≠ .breakdown words

/-- The reply for the link tells of a missing page. -/
def isReported (root : String) (answer : String → Reply) (link : String) : Bool :=
  match Url.resolve root link with
  | .ok url => (answer url).isMissing
  | .error _ => false

theorem isReported_of_resolve (hlink : Url.resolve root link = .ok url) :
    isReported root answer link = (answer url).isMissing := by
  rw [isReported, hlink]

/-- The URLs are those that the links lead to, in the same order. -/
def Resolved (root : String) (links urls : List String) : Prop :=
  urls.map .ok = links.map (Url.resolve root)

theorem Resolved.cons (hlink : Url.resolve root link = .ok url) (h : Resolved root links urls) :
    Resolved root (link :: links) (url :: urls) := by
  rw [Resolved, List.map_cons, List.map_cons, hlink, h]

/-- How a check of some links goes: the URLs that it requests, and what it gives. -/
inductive Course (root : String) (answer : String → Reply) (links : List String) :
    List String → Except Error (List String) → Prop
  /-- No link ends the check: all of them are requested, and those are found missing whose reply says so. -/
  | complete {urls : List String} (hlinks : ∀ link ∈ links, Passes root answer link)
      (hurls : Resolved root links urls) :
      Course root answer links urls (.ok (links.filter (isReported root answer)))
  /-- The first link to end the check cannot be resolved: the links before it are requested. -/
  | unresolved {urls : List String} {fault : HostFault} (before : List String) (last : String) (after : List String)
      (hlinks : links = before ++ last :: after) (hbefore : ∀ link ∈ before, Passes root answer link)
      (hlast : Url.resolve root last = .error fault) (hurls : Resolved root before urls) :
      Course root answer links urls (.error (.host fault))
  /-- At the first link to end the check the session breaks down: this link and those before it are requested. -/
  | broken {urls : List String} {url words : String} (before : List String) (last : String) (after : List String)
      (hlinks : links = before ++ last :: after) (hbefore : ∀ link ∈ before, Passes root answer link)
      (hlast : Url.resolve root last = .ok url) (hreply : answer url = .breakdown words)
      (hurls : Resolved root (before ++ [last]) urls) :
      Course root answer links urls (.error (.session words))

/-- A link that does not end the check, put before the others. -/
theorem Course.replied (hlink : Url.resolve root link = .ok url) (hreply : ∀ words, answer url ≠ .breakdown words)
    (hrest : Course root answer links urls outcome) :
    Course root answer (link :: links) (url :: urls)
      (if (answer url).isMissing then outcome.map (link :: ·) else outcome) := by
  have hpass : Passes root answer link := ⟨url, hlink, hreply⟩
  cases hrest with
  | complete hlinks hurls =>
    have houtcome : (if (answer url).isMissing then
          (Except.ok (links.filter (isReported root answer)) : Except Error (List String)).map (link :: ·)
        else .ok (links.filter (isReported root answer))) =
        .ok ((link :: links).filter (isReported root answer)) := by
      rw [List.filter_cons, isReported_of_resolve hlink]
      split <;> rfl
    rw [houtcome]
    exact .complete (List.forall_mem_cons.2 ⟨hpass, hlinks⟩) (hurls.cons hlink)
  | unresolved before last after hlinks hbefore hlast hurls =>
    simp only [hlinks, Except.map, ite_self]
    exact .unresolved (link :: before) last after rfl (List.forall_mem_cons.2 ⟨hpass, hbefore⟩) hlast (hurls.cons hlink)
  | broken before last after hlinks hbefore hlast hbreakdown hurls =>
    simp only [hlinks, Except.map, ite_self]
    exact .broken (link :: before) last after rfl (List.forall_mem_cons.2 ⟨hpass, hbefore⟩) hlast hbreakdown
      (hurls.cons hlink)

/-- Every check takes such a course. -/
theorem Asks.course (h : Asks root answer links urls outcome) : Course root answer links urls outcome := by
  induction h with
  | done => exact .complete (List.forall_mem_nil _) rfl
  | unresolved hlink => exact .unresolved [] _ _ rfl (List.forall_mem_nil _) hlink rfl
  | broken hlink hreply =>
    exact .broken [] _ _ rfl (List.forall_mem_nil _) hlink hreply (Resolved.cons hlink rfl)
  | replied hlink hreply _ ih => exact ih.replied hlink hreply

/-- What is requested on any course is an initial part of what the links lead to. -/
theorem Course.initial (h : Course root answer links urls outcome) :
    urls.map .ok <+: links.map (Url.resolve root) := by
  cases h with
  | complete hlinks hurls => exact hurls ▸ List.prefix_refl _
  | unresolved before last after hlinks hbefore hlast hurls =>
    rw [hurls, hlinks]
    exact (List.prefix_append ..).map _
  | broken before last after hlinks hbefore hlast hreply hurls =>
    rw [hurls, hlinks, List.append_cons before last after]
    exact (List.prefix_append ..).map _

/-- **The course of a check.** The session is closed in the end, whatever happened. The links of the catalogue are
requested in its order, each once, up to the first that ends the check; if there is none, all are requested, and those
are found missing whose reply is an error status or that have none. Otherwise the check gives the error of that link. -/
theorem checkRemote_course (site : Site) (base : String) (answer : String → Reply) :
    ∃ urls, (checkRemote site base answer).1 = ⟨urls, true⟩ ∧ (catalogue site).Nodup ∧
      urls.map .ok <+: (catalogue site).map (Url.resolve (publishedRoot base)) ∧
      Course (publishedRoot base) answer (catalogue site) urls (checkRemote site base answer).2 := by
  have hcourse := (asks_checkRemote site base answer).course
  have hnodup : (catalogue site).Nodup := (NameSet.ordered _).imp fun hlt heq => absurd (heq ▸ hlt) (String.lt_irrefl _)
  exact ⟨_, rfl, hnodup, hcourse.initial, hcourse⟩

end GuideSite.Links

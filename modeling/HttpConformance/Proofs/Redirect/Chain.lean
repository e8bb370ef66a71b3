import HttpConformance.Proofs.Redirect.FollowUp

/-!
# Chains of redirects

Each response of a chain redirects from where the one before it led.  Whatever a server answers, the
method of the first request is that of all the others, none of them has a body, and of the fields
only `Host` and `Connection` are carried along.  The version is carried along too, as long as no
location brings a word of its own to the place of the version.

Main definitions: `Hop`, `Hop.Leads`, `RedirectChain`.

Main results:

- `RedirectChain.forall_current_of_step`, `RedirectChain.forall_of_step`: what one redirect
  preserves holds along a chain.
- `RedirectChain.keeps_identity`: what the requests of a chain have in common.
- `RedirectChain.version_next_of_not_isBlank`: locations without blanks keep the version.
-/

namespace HttpConformance

/-- A redirect that is followed: where the request was sent, the response to it, and where the next
request goes. -/
structure Hop where
  current : RedirectTarget
  response : Response
  next : RedirectTarget
  deriving DecidableEq, Repr

namespace Hop

/-- The response leads to the next place. -/
def IsFollowed (hop : Hop) : Prop :=
  nextRequest? hop.current.host hop.current.port hop.current.request hop.response =
    some (.ok hop.next)

instance (hop : Hop) : Decidable hop.IsFollowed :=
  inferInstanceAs (Decidable (_ = _))

/-- The target that the location of the response stands for. -/
def target? (hop : Hop) : Option Text :=
  hop.response.location?.bind fun location =>
    (resolveLocation hop.current.host hop.current.port hop.current.request
      location).toOption.map (·.2.2)

/-- The second word of the target, which stands where the version of the next request should be. -/
def strayWord? (hop : Hop) : Option Text :=
  hop.target?.bind fun target => (Text.words target)[1]?

/-- The location leads to the target, which is not blank, and the next request is put together from
the method, this target and the version. -/
structure Leads (hop : Hop) (location target : Text) : Prop where
  location?_eq : hop.response.location? = some location
  target?_eq : hop.target? = some target
  mem : ∀ c ∈ target, c ∈ location ∨ c ∈ hop.current.request.target ∨ c = '/'
  words_ne_nil : Text.words target ≠ []
  request_eq : hop.next.request =
    followUp hop.current.host hop.current.port hop.current.request (hop.next.host, hop.next.port)
      target

variable {hop : Hop}

/-- A hop that is followed leads somewhere. -/
theorem IsFollowed.exists_leads (h : hop.IsFollowed) :
    ∃ location target, hop.Leads location target := by
  obtain ⟨location, target, hlocation, hresolve, hrequest⟩ := nextRequest?_eq_some_ok_iff.1 h
  refine ⟨location, target, hlocation, ?_, fun c hc => mem_of_mem_resolveLocation hresolve hc, ?_,
    hrequest⟩
  · rw [target?, hlocation, Option.bind_some, hresolve]
    rfl
  · obtain ⟨htrimmed, hne⟩ := Response.isTrimmed_of_location? hlocation
    rw [Ne, Text.words_eq_nil_iff,
      isAllBlank_of_resolveLocation (htrimmed.isAllBlank_eq_false hne) hresolve]
    exact Bool.false_ne_true

/-- One redirect keeps the method. -/
theorem IsFollowed.method_next (h : hop.IsFollowed) (hmethod : hop.current.request.method ≠ []) :
    hop.next.request.method = hop.current.request.method := by
  obtain ⟨_, _, hleads⟩ := h.exists_leads
  rw [hleads.request_eq]
  exact Request.method_make ((Request.word_eq_nil_or 0 _).resolve_left hmethod)
    (Request.word_eq_nil_or 2 _)

/-- One redirect keeps the version, unless the target has a second word. -/
theorem IsFollowed.version_next (h : hop.IsFollowed) (hmethod : hop.current.request.method ≠ []) :
    hop.next.request.version = hop.strayWord?.getD hop.current.request.version := by
  obtain ⟨_, _, hleads⟩ := h.exists_leads
  rw [hleads.request_eq, strayWord?, hleads.target?_eq]
  exact Request.version_make ((Request.word_eq_nil_or 0 _).resolve_left hmethod)
    (Request.word_eq_nil_or 2 _) hleads.words_ne_nil

theorem IsFollowed.isFollowUpOf (h : hop.IsFollowed) :
    hop.next.request.IsFollowUpOf hop.current.request := by
  obtain ⟨_, target, hleads⟩ := h.exists_leads
  rw [hleads.request_eq]
  exact isFollowUpOf_followUp _ _ _ _ target

/-- A location without blanks brings no word to the place of the version. -/
theorem IsFollowed.strayWord?_eq_none (h : hop.IsFollowed)
    (hlocation : ∀ location, hop.response.location? = some location →
      ∀ c ∈ location, Text.isBlank c = false) : hop.strayWord? = none := by
  obtain ⟨location, target, hleads⟩ := h.exists_leads
  have hcurrent : ∀ c ∈ hop.current.request.target, Text.isBlank c = false := by
    rcases Request.word_eq_nil_or 1 hop.current.request with hnil | hword
    · rw [Request.target, hnil]
      exact fun c hc => absurd hc List.not_mem_nil
    · exact (Text.not_isBlank_of_mem_words (hword ▸ List.mem_singleton_self _)).2
  have hblank : ∀ c ∈ target, Text.isBlank c = false := by
    intro c hc
    rcases hleads.mem c hc with hmem | hmem | rfl
    · exact hlocation location hleads.location?_eq c hmem
    · exact hcurrent c hmem
    · decide
  have hne : target ≠ [] := by
    rintro rfl
    exact hleads.words_ne_nil rfl
  rw [strayWord?, hleads.target?_eq, Option.bind_some, Text.words_of_not_isBlank hne hblank]
  rfl

end Hop

/-! ## Chains -/

/-- Redirects that are followed one after the other, the first one from the given place. -/
inductive RedirectChain : RedirectTarget → List Hop → Prop
  | nil (start : RedirectTarget) : RedirectChain start []
  | cons {hop : Hop} {hops : List Hop} (followed : hop.IsFollowed)
      (rest : RedirectChain hop.next hops) : RedirectChain hop.current (hop :: hops)

namespace RedirectChain

variable {start : RedirectTarget} {hops : List Hop}

theorem isFollowed (h : RedirectChain start hops) : ∀ hop ∈ hops, hop.IsFollowed := by
  induction h with
  | nil => exact fun hop hmem => absurd hmem List.not_mem_nil
  | cons followed rest ih => exact List.forall_mem_cons.2 ⟨followed, ih⟩

/-- What holds at the start of a chain and is preserved by one redirect holds wherever the chain
goes on. -/
theorem forall_current_of_step (holds : RedirectTarget → Prop) (h : RedirectChain start hops)
    (hstart : holds start)
    (hstep : ∀ hop : Hop, hop.IsFollowed → holds hop.current → holds hop.next) :
    ∀ hop ∈ hops, holds hop.current := by
  induction h with
  | nil => exact fun hop hmem => absurd hmem List.not_mem_nil
  | cons followed rest ih => exact List.forall_mem_cons.2 ⟨hstart, ih (hstep _ followed hstart)⟩

/-- What holds at the start of a chain and is preserved by one redirect holds at all its places. -/
theorem forall_of_step (holds : RedirectTarget → Prop) (h : RedirectChain start hops)
    (hstart : holds start)
    (hstep : ∀ hop : Hop, hop.IsFollowed → holds hop.current → holds hop.next) :
    ∀ hop ∈ hops, holds hop.next := by
  intro hop hmem
  apply hstep hop (h.isFollowed hop hmem)
  exact forall_current_of_step holds h hstart hstep hop hmem

/-- The method of the first request is that of all the others. -/
theorem method_next (h : RedirectChain start hops) (hmethod : start.request.method ≠ []) :
    ∀ hop ∈ hops, hop.next.request.method = start.request.method := by
  refine forall_of_step (·.request.method = start.request.method) h rfl ?_
  intro hop hfollowed hcurrent
  rw [hfollowed.method_next (hcurrent ▸ hmethod), hcurrent]

/-- The version of the first request is that of all the others exactly when no location has brought
another word to its place. -/
theorem version_next_iff {version : Text} (h : RedirectChain start hops)
    (hmethod : start.request.method ≠ []) (hversion : start.request.version = version) :
    (∀ hop ∈ hops, hop.next.request.version = version) ↔
      ∀ hop ∈ hops, ∀ word, hop.strayWord? = some word → word = version := by
  induction h with
  | nil => exact iff_of_true (by simp) (by simp)
  | @cons hop hops followed rest ih =>
    have hstep : hop.next.request.version = version ↔
        ∀ word, hop.strayWord? = some word → word = version := by
      rw [followed.version_next hmethod, hversion]
      cases hop.strayWord? <;> simp
    rw [List.forall_mem_cons, List.forall_mem_cons, ← hstep]
    -- The version of the rest of the chain starts from that of the first follow-up request.
    refine and_congr_right fun hnext => ih ?_ hnext
    rw [followed.method_next hmethod]
    exact hmethod

/-- Locations without blanks keep the version. -/
theorem version_next_of_not_isBlank (h : RedirectChain start hops)
    (hmethod : start.request.method ≠ [])
    (hlocation : ∀ hop ∈ hops, ∀ location, hop.response.location? = some location →
      ∀ c ∈ location, Text.isBlank c = false) :
    ∀ hop ∈ hops, hop.next.request.version = start.request.version := by
  rw [h.version_next_iff hmethod rfl]
  intro hop hmem word hword
  rw [(h.isFollowed hop hmem).strayWord?_eq_none (hlocation hop hmem)] at hword
  cases hword

/-- Along a chain of redirects from a request that was read, every request has the method of the
first one, no body, and of the fields those that are carried on; and every request has the version
of the first one exactly when no location has brought another word to its place. -/
theorem keeps_identity {text : Text} {request : Request}
    (hparse : Request.parse text = .ok request) {host : Text} {port : UInt16} {hops : List Hop}
    (h : RedirectChain ⟨host, port, request⟩ hops) :
    (∀ hop ∈ hops, hop.next.request.method = request.method ∧
      hop.next.request.IsFollowUpOf hop.current.request) ∧
    ((∀ hop ∈ hops, hop.next.request.version = request.version) ↔
      ∀ hop ∈ hops, ∀ word, hop.strayWord? = some word → word = request.version) := by
  have hmethod := Request.method_ne_nil_of_parse hparse
  refine ⟨fun hop hmem => ?_, h.version_next_iff hmethod rfl⟩
  exact ⟨h.method_next hmethod hop hmem, (h.isFollowed hop hmem).isFollowUpOf⟩

/-- A response that redirects to a location. -/
def found (location : Text) : Response where
  statusLine := "HTTP/1.1 302 Found".toList
  version := "HTTP/1.1".toList
  code := 302
  reason := "Found".toList
  fields := [⟨"Location".toList, location⟩]
  body := []
  raw := Utf8.encode ("HTTP/1.1 302 Found\r\nLocation: ".toList ++ location ++ "\r\n\r\n".toList)

/-- A request with a body. -/
def login : Request where
  line := "POST /ctx/login HTTP/1.1".toList
  fields := [RequestField.ofValue "host".toList "tck.local".toList,
    RequestField.ofValue "Connection".toList "close".toList]
  body := some (Utf8.encode "user".toList)
  verbatim := none

/-- The request behind the first redirect. -/
def home : Request where
  line := "POST /ctx/home?x=1 HTTP/1.1".toList
  fields := [RequestField.ofValue "Host".toList "tck.local".toList,
    RequestField.ofValue "Connection".toList "close".toList]
  body := none
  verbatim := none

/-- The request behind the second redirect. -/
def mirror : Request where
  line := "POST /z HTTP/1.1".toList
  fields := [RequestField.ofValue "Host".toList "mirror.local:8080".toList,
    RequestField.ofValue "Connection".toList "close".toList]
  body := none
  verbatim := none

/-- The first redirect, to a page beside the first one. -/
def loginHop : Hop where
  current := ⟨"tck.local".toList, 80, login⟩
  response := found "home?x=1".toList
  next := ⟨"tck.local".toList, 80, home⟩

/-- The second redirect, to another host. -/
def homeHop : Hop where
  current := ⟨"tck.local".toList, 80, home⟩
  response := found "http://mirror.local:8080/z".toList
  next := ⟨"mirror.local".toList, 8080, mirror⟩

/-- The text of the first request. -/
def loginText : Text :=
  "POST /ctx/login HTTP/1.1\nhost: tck.local\nConnection: close\n\nuser".toList

/-- A login that is redirected twice, once to another host, keeps its method and is followed up each
time. -/
theorem keeps_identity_login :
    Request.parse loginText = .ok login ∧
      RedirectChain ⟨"tck.local".toList, 80, login⟩ [loginHop, homeHop] ∧
      (∀ hop ∈ [loginHop, homeHop], hop.next.request.method = login.method ∧
        hop.next.request.IsFollowUpOf hop.current.request) ∧
      ((∀ hop ∈ [loginHop, homeHop], hop.next.request.version = login.version) ↔
        ∀ hop ∈ [loginHop, homeHop], ∀ word, hop.strayWord? = some word → word = login.version) :=
  have hparse : Request.parse loginText = .ok login := rfl
  have hlogin : loginHop.IsFollowed := by decide +kernel
  have hhome : homeHop.IsFollowed := by decide +kernel
  have hchain : RedirectChain ⟨"tck.local".toList, 80, login⟩ [loginHop, homeHop] :=
    .cons hlogin (.cons hhome (.nil _))
  ⟨hparse, hchain, keeps_identity hparse hchain⟩

/-- A redirect to a location with a blank, which takes the second word of the target for the
version. -/
def blankHop : Hop where
  current := ⟨"localhost".toList, 80, .ofLine "GET /x HTTP/1.1".toList⟩
  response := found "/a b".toList
  next := ⟨"localhost".toList, 80, .ofLine "GET /a b HTTP/1.1".toList⟩

/-- Not every chain of redirects keeps the version. -/
theorem not_keeps_identity :
    ¬ ∀ (text : Text) (request : Request) (host : Text) (port : UInt16) (hops : List Hop),
      Request.parse text = .ok request → RedirectChain ⟨host, port, request⟩ hops →
        ∀ hop ∈ hops, hop.next.request.method = request.method ∧
          hop.next.request.version = request.version ∧
          hop.next.request.IsFollowUpOf hop.current.request := by
  intro h
  have hfollowed : blankHop.IsFollowed := by decide +kernel
  have hkept := h "GET /x HTTP/1.1".toList _ _ _ [blankHop] rfl (.cons hfollowed (.nil _)) blankHop
    List.mem_cons_self
  exact absurd hkept.2.1 (by decide)

end RedirectChain

end HttpConformance

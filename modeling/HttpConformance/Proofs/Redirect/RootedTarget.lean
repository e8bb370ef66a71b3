import HttpConformance.Proofs.Redirect.Chain

/-!
# Rooted targets

Every target along a chain of redirects begins with a slash, if the first one does.  A location with
an authority leads to the path of a URL, and one that begins with a slash is taken as it is; any
other location is put behind the directory of the current target, and only the part of this target
in front of its query counts, whatever slashes stand behind it.

Main definitions: `IsPathOf`, `IsRelative`, `LeadsFrom`, `Hop.ResolvesFrom`.

Main results:

- `LeadsFrom.resolveRelative_eq`: a relative location, resolved without the search for a slash.
- `head?_resolveLocation`: from a rooted target, a location leads to a rooted target.
- `RedirectChain.stays_rooted`: the targets of a chain, and how the relative ones come about.
-/

namespace HttpConformance

/-! ## The path of a target -/

/-- The part of a target in front of its first question mark or hash. -/
structure IsPathOf (path target : Text) : Prop where
  not_mem : ∀ c ∈ path, c ≠ '?' ∧ c ≠ '#'
  exists_behind : ∃ behind, target = path ++ behind ∧
    ∀ c, behind.head? = some c → c = '?' ∨ c = '#'

/-- The search for the end of a path finds it. -/
theorem IsPathOf.takeWhile_eq {path target : Text} (h : IsPathOf path target) :
    target.takeWhile (!Url.endsPath ·) = path := by
  obtain ⟨behind, rfl, hbehind⟩ := h.exists_behind
  apply takeWhile_append_of_head?
  · intro c hc
    simpa [Url.endsPath] using h.not_mem c hc
  · intro c hc
    simpa [Url.endsPath, or_iff_not_imp_left] using hbehind c hc

/-- The path of a target ends where its query or its fragment begins. -/
theorem isPathOf_takeWhile (target : Text) :
    IsPathOf (target.takeWhile (!Url.endsPath ·)) target where
  not_mem := by
    intro c hc
    simpa [Url.endsPath] using List.mem_takeWhile_imp hc
  exists_behind := by
    refine ⟨target.dropWhile (!Url.endsPath ·), List.takeWhile_append_dropWhile.symm, ?_⟩
    intro c hc
    have hhead := List.head?_dropWhile_not (!Url.endsPath ·) target
    rw [hc] at hhead
    simpa [Url.endsPath, or_iff_not_imp_left] using hhead

/-- The path of a rooted target is rooted. -/
theorem IsPathOf.head?_eq {path target : Text} (h : IsPathOf path target)
    (htarget : target.head? = some '/') : path.head? = some '/' := by
  obtain ⟨behind, rfl, hbehind⟩ := h.exists_behind
  cases path with
  | cons c path => exact htarget
  | nil => exact absurd (hbehind '/' htarget) (by decide)

/-! ## Relative locations -/

/-- The location has neither an authority nor a slash at its front. -/
structure IsRelative (location : Text) : Prop where
  not_http : ¬ "http://".toList <+: location
  not_https : ¬ "https://".toList <+: location
  not_slash : ¬ ['/'] <+: location

instance (location : Text) : Decidable (IsRelative location) :=
  decidable_of_iff (¬ "http://".toList <+: location ∧ ¬ "https://".toList <+: location ∧
      ¬ ['/'] <+: location)
    ⟨fun ⟨hhttp, hhttps, hslash⟩ => ⟨hhttp, hhttps, hslash⟩,
      fun h => ⟨h.not_http, h.not_https, h.not_slash⟩⟩

variable {path location target : Text}

/-- A relative location stays with the authority. -/
theorem IsRelative.form_eq (h : IsRelative location) :
    LocationForm.of location = .sameAuthority := by
  have hnone {front : Text} (hfront : ¬ front <+: location) :
      front.isPrefixOf? location = none := by
    rw [Option.eq_none_iff_forall_ne_some]
    intro rest hrest
    exact hfront ⟨rest, (eq_append_of_isPrefixOf? hrest).symm⟩
  have hslashes : ¬ ['/', '/'] <+: location := fun hfront =>
    h.not_slash ((List.prefix_append ['/'] ['/']).trans hfront)
  rw [LocationForm.of, hnone h.not_http, hnone h.not_https, hnone hslashes]

theorem IsRelative.head?_ne (h : IsRelative location) : location.head? ≠ some '/' := by
  intro hhead
  obtain ⟨rest, hrest⟩ := List.head?_eq_some_iff.1 hhead
  exact h.not_slash ⟨rest, hrest.symm⟩

/-- What a relative location leads to from a path: a query replaces the query of the path, and any
other location replaces the last name in the path. -/
inductive LeadsFrom (path : Text) : Text → Text → Prop where
  | query (rest : Text) : LeadsFrom path ('?' :: rest) (path ++ '?' :: rest)
  | beside {directory name location : Text} (hpath : path = directory ++ '/' :: name)
      (hname : '/' ∉ name) (hlocation : location.head? ≠ some '?') :
      LeadsFrom path location (directory ++ '/' :: location)

/-- A relative location leads somewhere from every rooted path. -/
theorem exists_leadsFrom (hpath : path.head? = some '/') (location : Text) :
    ∃ target, LeadsFrom path location target := by
  by_cases hquery : location.head? = some '?'
  · obtain ⟨rest, rfl⟩ := List.head?_eq_some_iff.1 hquery
    exact ⟨_, .query rest⟩
  · have hslash : '/' ∈ path.reverse := List.mem_reverse.2 (List.mem_of_head? hpath)
    obtain ⟨name, directory, hreverse, hname⟩ := List.eq_append_cons_of_mem hslash
    have hshape : path = directory.reverse ++ '/' :: name.reverse := by
      rw [← path.reverse_reverse, hreverse]
      simp
    exact ⟨_, .beside hshape (by simpa using hname) hquery⟩

/-- A relative location is resolved from the path of the current target. -/
theorem LeadsFrom.resolveRelative_eq (h : LeadsFrom path location target) {current : Text}
    (hpath : IsPathOf path current) : resolveRelative current location = target := by
  rw [resolveRelative, hpath.takeWhile_eq]
  cases h with
  | query rest => exact if_pos rfl
  | @beside directory name _ hshape hname hlocation =>
    have hdropped : dropEndWhile (· != '/') path = directory ++ ['/'] := by
      have hname' : dropEndWhile (· != '/') name = [] := by
        have hall := dropEndWhile_append_of_forall (bne_of_notMem hname) []
        simpa [dropEndWhile] using hall
      rw [hshape, dropEndWhile_append_cons_of_kept (by decide), hname']
    have hslash : '/' ∈ path := by simp [hshape]
    rw [if_neg hlocation, if_pos hslash, hdropped, List.append_assoc, List.singleton_append]

/-- What a relative location leads to from a rooted path is rooted. -/
theorem LeadsFrom.head?_eq (h : LeadsFrom path location target) (hpath : path.head? = some '/') :
    target.head? = some '/' := by
  cases h with
  | query rest => rw [List.head?_append, hpath, Option.some_or]
  | @beside directory name _ hshape hname hlocation =>
    cases directory with
    | nil => rfl
    | cons c directory =>
      rw [hshape] at hpath
      exact hpath

/-! ## Targets -/

variable {host nextHost : Text} {port nextPort : UInt16} {current : Request}

/-- A relative location leads to the current place, from the path of the current target. -/
theorem LeadsFrom.resolveLocation_eq (h : LeadsFrom path location target)
    (hlocation : IsRelative location) (hpath : IsPathOf path current.target) (host : Text)
    (port : UInt16) : resolveLocation host port current location = .ok (host, port, target) := by
  rw [resolveLocation, hlocation.form_eq]
  dsimp only
  rw [if_neg hlocation.head?_ne, h.resolveRelative_eq hpath]

/-- From a rooted target, a location leads to a rooted target. -/
theorem head?_resolveLocation (hcurrent : current.target.head? = some '/')
    (h : resolveLocation host port current location = .ok (nextHost, nextPort, target)) :
    target.head? = some '/' := by
  rcases resolveLocation_cases h with ⟨rest, url, -, hurl, -, -, rfl⟩ | ⟨-, -, -, rfl⟩
  · exact Url.head?_target hurl
  · split
    · assumption
    · have hpath := isPathOf_takeWhile current.target
      have hrooted := hpath.head?_eq hcurrent
      obtain ⟨target, hleads⟩ := exists_leadsFrom hrooted location
      rw [hleads.resolveRelative_eq hpath]
      exact hleads.head?_eq hrooted

/-- From a rooted target, a redirect leads to a rooted target, and the target of the next request is
its first word. -/
theorem Hop.IsFollowed.exists_rooted {hop : Hop} (h : hop.IsFollowed)
    (hcurrent : hop.current.request.target.head? = some '/') :
    ∃ location target, hop.response.location? = some location ∧
      resolveLocation hop.current.host hop.current.port hop.current.request location =
        .ok (hop.next.host, hop.next.port, target) ∧
      (Text.words target).head? = some hop.next.request.target ∧
      hop.next.request.target.head? = some '/' := by
  obtain ⟨location, target, hlocation, hresolve, hrequest⟩ := nextRequest?_eq_some_ok_iff.1 h
  obtain ⟨rest, rfl⟩ := List.head?_eq_some_iff.1 (head?_resolveLocation hcurrent hresolve)
  have hslash : Text.isBlank '/' = false := by decide
  obtain ⟨word, others, hwords⟩ := Text.exists_words_cons hslash rest
  have hmethod : hop.current.request.method ≠ [] := by
    apply Request.method_ne_nil_of_target
    intro hnil
    rw [hnil] at hcurrent
    cases hcurrent
  have hnext : hop.next.request.target = '/' :: word := by
    rw [hrequest]
    exact Request.target_make ((Request.word_eq_nil_or 0 _).resolve_left hmethod)
      (Request.word_eq_nil_or 2 _) hwords
  refine ⟨location, '/' :: rest, hlocation, hresolve, ?_, ?_⟩
  · rw [hwords, hnext, List.head?_cons]
  · rw [hnext, List.head?_cons]

/-- A rooted target leads to a rooted one. -/
theorem Hop.IsFollowed.head?_target_next {hop : Hop} (h : hop.IsFollowed)
    (hcurrent : hop.current.request.target.head? = some '/') :
    hop.next.request.target.head? = some '/' := by
  obtain ⟨-, -, -, -, -, hnext⟩ := h.exists_rooted hcurrent
  exact hnext

/-- The relative location is resolved from the path of the current target, and no other part of this
target counts; the target of the next request is the first word of what the location leads to. -/
structure Hop.ResolvesFrom (hop : Hop) (location path target : Text) : Prop where
  isPathOf : IsPathOf path hop.current.request.target
  leadsFrom : LeadsFrom path location target
  head?_words : (Text.words target).head? = some hop.next.request.target
  resolveLocation_eq : ∀ other : Request, IsPathOf path other.target →
    resolveLocation hop.current.host hop.current.port other location =
      .ok (hop.next.host, hop.next.port, target)

/-- From a rooted target, a relative location is resolved from the path of this target. -/
theorem Hop.IsFollowed.exists_resolvesFrom {hop : Hop} (h : hop.IsFollowed)
    (hcurrent : hop.current.request.target.head? = some '/') {location : Text}
    (hlocation : hop.response.location? = some location) (hrelative : IsRelative location) :
    ∃ path target, hop.ResolvesFrom location path target := by
  obtain ⟨_, target, hlocation', hresolve, hwords, -⟩ := h.exists_rooted hcurrent
  obtain rfl := Option.some.inj (hlocation.symm.trans hlocation')
  have hpath := isPathOf_takeWhile hop.current.request.target
  obtain ⟨led, hleads⟩ := exists_leadsFrom (hpath.head?_eq hcurrent) location
  have hled (other : Request) (hother : IsPathOf _ other.target) :=
    hleads.resolveLocation_eq hrelative hother hop.current.host hop.current.port
  -- The place and the target are those that the redirect led to.
  have hsame := (hled _ hpath).symm.trans hresolve
  rw [Except.ok.injEq, Prod.mk.injEq, Prod.mk.injEq] at hsame
  obtain ⟨hhost, hport, rfl⟩ := hsame
  refine ⟨_, led, hpath, hleads, hwords, ?_⟩
  rw [← hhost, ← hport]
  exact hled

namespace RedirectChain

/-- Along a chain of redirects from a request with a rooted target, every target is rooted, and
every relative location is resolved from the path of the target before it. -/
theorem stays_rooted {start : RedirectTarget} {hops : List Hop} (h : RedirectChain start hops)
    (hstart : start.request.target.head? = some '/') :
    ∀ hop ∈ hops, hop.next.request.target.head? = some '/' ∧
      ∀ location, hop.response.location? = some location → IsRelative location →
        ∃ path target, hop.ResolvesFrom location path target := by
  intro hop hmem
  have hfollowed := h.isFollowed hop hmem
  have hcurrent : hop.current.request.target.head? = some '/' :=
    forall_current_of_step (·.request.target.head? = some '/') h hstart
      (fun _ hnext => hnext.head?_target_next) hop hmem
  refine ⟨hfollowed.head?_target_next hcurrent, ?_⟩
  intro location hlocation hrelative
  exact hfollowed.exists_resolvesFrom hcurrent hlocation hrelative

/-- A request whose target has slashes in its query and in its fragment. -/
def search : RedirectTarget :=
  ⟨"tck.local".toList, 80, .ofLine "GET /ctx/search?next=/a/b#/c HTTP/1.1".toList⟩

/-- A redirect to a page beside it, with blanks and slashes in the location. -/
def searchHop : Hop where
  current := search
  response := found "list?of=/x y/".toList
  next := ⟨"tck.local".toList, 80, .ofLine "GET /ctx/list?of=/x y/ HTTP/1.1".toList⟩

/-- A redirect to the same page with another query. -/
def listHop : Hop where
  current := searchHop.next
  response := found "?of=z".toList
  next := ⟨"tck.local".toList, 80, .ofLine "GET /ctx/list?of=z y/".toList⟩

/-- A redirect to a host without a path. -/
def mirrorHop : Hop where
  current := listHop.next
  response := found "http://mirror.local?z".toList
  next := ⟨"mirror.local".toList, 80, .ofLine "GET /?z y/".toList⟩

/-- A chain of three redirects, one with blanks and slashes in its location, stays rooted. -/
theorem stays_rooted_search :
    RedirectChain search [searchHop, listHop, mirrorHop] ∧
      search.request.target.head? = some '/' ∧
      IsRelative "list?of=/x y/".toList ∧
      (∀ hop ∈ [searchHop, listHop, mirrorHop], hop.next.request.target.head? = some '/') ∧
      ∃ path target, searchHop.ResolvesFrom "list?of=/x y/".toList path target := by
  have hsearch : searchHop.IsFollowed := by decide +kernel
  have hlist : listHop.IsFollowed := by decide +kernel
  have hmirror : mirrorHop.IsFollowed := by decide +kernel
  have hchain : RedirectChain search [searchHop, listHop, mirrorHop] :=
    .cons hsearch (.cons hlist (.cons hmirror (.nil _)))
  have hstart : search.request.target.head? = some '/' := by decide
  have hrelative : IsRelative "list?of=/x y/".toList := by decide
  have hrooted := stays_rooted hchain hstart
  refine ⟨hchain, hstart, hrelative, fun hop hmem => (hrooted hop hmem).1, ?_⟩
  exact (hrooted searchHop List.mem_cons_self).2 _ (by decide) hrelative

end RedirectChain

end HttpConformance

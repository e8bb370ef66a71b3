import HttpConformance.Proofs.Redirect.Chain

/-!
# The place that a redirect leads to

The authority of a location says where to connect, and the `Host` field of the next request says it
again.  The place is the one that the authority writes, unless it writes a port that is no number,
and the field names the place, unless the host has colons, as an address of version 6 has.

Main definitions: `portFor?`, `readPlace?`, `GoesAsWritten`, `NamesPlace`.

Main results:

- `Url.exists_writtenPlace`: the host and the port to connect to, by the place that the authority
  writes.
- `Url.place_of_placeText`: the place of an authority that is a host name and a port.
- `goesAsWritten_iff`: when a location with an authority leads to the place that it writes.
- `readPlace?_writeAuthority_iff`: when a place is read back from the field.
- `namesPlace_iff`: when the `Host` field names the place.
-/

namespace HttpConformance

/-! ## Places as texts -/

/-- The port that the text behind a host stands for: the default one if the text is empty, and none
if it is no number of a port. -/
def portFor? (text : Text) : Option UInt16 :=
  if text = [] then some defaultPort else Numeral.readPort? text

theorem portFor?_write (port : UInt16) : portFor? (Numeral.write port.toNat) = some port := by
  rw [portFor?, if_neg (Numeral.isDecimal_write _).ne_nil, Numeral.readPort?_write]

/-- Reads a place: a host or an address in square brackets, and possibly a colon and a port. -/
def readPlace? (text : Text) : Option (Text × UInt16) :=
  (Url.cutHost? text).bind fun (host, behind) =>
    match behind with
    | [] => some (host, defaultPort)
    | ':' :: port => (portFor? port).map (host, ·)
    | _ => none

section

variable {url : Url} {written behind : Text}

theorem dropWhile_open {text : Text} (h : text.head? ≠ some '[') :
    text.dropWhile (· == '[') = text := by
  cases text with
  | nil => rfl
  | cons c rest => exact List.dropWhile_cons_of_neg (by simpa using h)

/-- The host to connect to is the one that is written, but for closing brackets at its end. -/
theorem Url.WritesPlace.withoutBrackets_eq
    (h : WritesPlace url.authority url.host written behind) :
    withoutBrackets url.host = dropEndWhile (· == ']') written := by
  have hhead := h.head?_ne
  cases h with
  | address _ _ _ hhost =>
    have hclose : ∀ c ∈ [']'], (c == ']') = true := List.forall_mem_singleton.2 rfl
    have hbehind : (written ++ [']']).head? ≠ some '[' := by
      cases written with
      | nil => decide
      | cons c rest => exact hhead
    rw [withoutBrackets, hhost, List.dropWhile_cons_of_pos rfl, dropWhile_open hbehind,
      dropEndWhile_append_of_forall hclose]
  | name _ _ _ _ hhost => rw [withoutBrackets, hhost, dropWhile_open hhead]

/-- The port to connect to is the one that is written, if a port or nothing is written. -/
theorem Url.WritesPlace.portFor?_eq (h : WritesPlace url.authority url.host written behind)
    (hport : (portFor? (portText behind)).isSome = true) :
    portFor? (portText behind) = some (url.port?.getD defaultPort) := by
  unfold portFor? at hport ⊢
  split
  · rename_i hnil
    rw [h.port?_eq (Or.inl hnil), hnil]
    rfl
  · rename_i hne
    rw [if_neg hne] at hport
    obtain ⟨port, hread⟩ := Option.isSome_iff_exists.1 hport
    rw [h.port?_eq (Or.inr hport), hread]
    rfl

/-- The place to connect to, by the one that an authority writes that passes the check. -/
theorem Url.exists_writtenPlace (h : checkAuthority url.authority = .ok ()) :
    ∃ written text, writtenPlace? url.authority = some (written, text) ∧
      withoutBrackets url.host = dropEndWhile (· == ']') written ∧
      ((portFor? text).isSome = true → portFor? text = some (url.port?.getD defaultPort)) := by
  obtain ⟨written, behind, hcut, hwrites⟩ := exists_writesPlace h
  refine ⟨written, portText behind, ?_, hwrites.withoutBrackets_eq, hwrites.portFor?_eq⟩
  rw [writtenPlace?, hcut, Option.map_some]

/-- The place of a URL whose authority is a host name and a port. -/
theorem Url.place_of_placeText {host : Text} {port : UInt16} (hhost : IsHostName host)
    (h : url.authority = placeText host port) :
    withoutBrackets url.host = host ∧ url.port?.getD defaultPort = port := by
  have hwrites := writesPlace_placeText hhost h
  have hclose : host.getLast? ≠ some ']' := fun hlast =>
    hhost.notMem (by decide) (by decide) (List.mem_of_getLast? hlast)
  have hport : portFor? (portText (':' :: Numeral.write port.toNat)) = some port := by
    rw [portText, cutAt_cons_self]
    exact portFor?_write port
  refine ⟨hwrites.withoutBrackets_eq.trans (dropEndWhile_beq_eq_self_iff.2 hclose), ?_⟩
  have hread := hwrites.portFor?_eq (by rw [hport]; rfl)
  rw [hport, Option.some.injEq] at hread
  exact hread.symm

end

/-! ## Where the connection goes -/

/-- What follows a response goes where an authority says: to the host that it writes and the port
that it writes behind the host, and nowhere if what it writes there is no port. -/
structure GoesAsWritten (authority : Text) (next : Option (Except RedirectError RedirectTarget)) :
    Prop where
  place : ∀ target, next = some (.ok target) → ∃ text,
    Url.writtenPlace? authority = some (target.host, text) ∧ portFor? text = some target.port
  refused : ∀ host text, Url.writtenPlace? authority = some (host, text) → portFor? text = none →
    ∃ error, next = some (.error error) ∧ error.toFailure.kind = .redirect

section

variable {host : Text} {port : UInt16} {current : Request} {response : Response}
  {location rest : Text}

/-- What follows a response with a location that has an authority of its own. -/
theorem nextRequest?_of_absolute (hlocation : response.location? = some location)
    (hform : LocationForm.of location = .absolute false rest) :
    nextRequest? host port current response =
      some (match Url.parse rest with
        | .error error => .error (.invalidLocation location error)
        | .ok url =>
          let place := (withoutBrackets url.host, url.port?.getD defaultPort)
          .ok ⟨place.1, place.2, followUp host port current place url.target⟩) := by
  rw [nextRequest?, hlocation, Option.map_some, resolveLocation, hform]
  dsimp only
  cases Url.parse rest <;> rfl

/-- A location leads to the place that its authority writes exactly when it is refused as a URL, or
nothing or a port is written behind the host, and no closing bracket ends a host that is no address
in square brackets. -/
theorem goesAsWritten_iff (hlocation : response.location? = some location)
    (hform : location = "http://".toList ++ rest ∨ location = "//".toList ++ rest) :
    GoesAsWritten (rest.takeWhile (!Url.endsAuthority ·))
        (nextRequest? host port current response) ↔
      (∃ error, Url.parse rest = .error error) ∨
        ∃ written text,
          Url.writtenPlace? (rest.takeWhile (!Url.endsAuthority ·)) = some (written, text) ∧
            (portFor? text).isSome = true ∧ written.getLast? ≠ some ']' := by
  rw [nextRequest?_of_absolute hlocation (LocationForm.of_eq_absolute_iff.2 hform)]
  cases hparse : Url.parse rest with
  | error error =>
    refine iff_of_true ⟨fun target htarget => ?_, fun _ _ _ _ => ⟨_, rfl, rfl⟩⟩
      (Or.inl ⟨error, rfl⟩)
    cases htarget
  | ok url =>
    obtain ⟨-, hcheck, -, -, heq⟩ := Url.parse_eq_ok_iff.1 hparse
    have hauthority : url.authority = rest.takeWhile (!Url.endsAuthority ·) := by rw [heq]
    rw [← hauthority] at hcheck ⊢
    obtain ⟨written, text, hplace, hhost, hport⟩ := Url.exists_writtenPlace hcheck
    have hsame {place : Text × Text} :
        Url.writtenPlace? url.authority = some place ↔ (written, text) = place := by
      rw [hplace, Option.some.injEq]
    constructor
    · intro hgoes
      obtain ⟨text', htext, hread⟩ := hgoes.place _ rfl
      -- The closing brackets at the end of a name are left out with those of an address.
      obtain ⟨hwritten, rfl⟩ := Prod.mk.inj (hsame.1 htext)
      refine Or.inr ⟨written, text, hplace, by rw [hread]; rfl, ?_⟩
      dsimp only at hwritten
      rw [hhost] at hwritten
      exact dropEndWhile_beq_eq_self_iff.1 hwritten.symm
    · rintro (⟨error, herror⟩ | ⟨written', text', hwritten, hsome, hlast⟩)
      · cases herror
      · cases hsame.1 hwritten
        rw [dropEndWhile_beq_eq_self_iff.2 hlast] at hhost
        refine ⟨fun target htarget => ?_, fun host' text' hwritten' hnone => ?_⟩
        · cases htarget
          exact ⟨text, by rw [hplace, hhost], hport hsome⟩
        · cases hsame.1 hwritten'
          rw [hnone] at hsome
          cases hsome

end

open RedirectChain in
/-- A location with an address in square brackets and a port goes where it says. -/
theorem goesAsWritten_iff_address :
    let location := "//user:1@[::1]:9090/z".toList
    let rest := "user:1@[::1]:9090/z".toList
    (found location).location? = some location ∧
      (location = "http://".toList ++ rest ∨ location = "//".toList ++ rest) ∧
      GoesAsWritten (rest.takeWhile (!Url.endsAuthority ·))
        (nextRequest? "tck.local".toList 80 home (found location)) :=
  have hlocation : (found "//user:1@[::1]:9090/z".toList).location? =
      some "//user:1@[::1]:9090/z".toList := by decide
  ⟨hlocation, Or.inr rfl, (goesAsWritten_iff hlocation (Or.inr rfl)).2
    (Or.inr ⟨"::1".toList, "9090".toList, by decide, by decide, by decide⟩)⟩

open RedirectChain in
/-- Not every location with an authority leads to the place that it writes. -/
theorem not_goesAsWritten :
    ¬ ∀ (host : Text) (port : UInt16) (current : Request) (response : Response)
      (location rest : Text), response.location? = some location →
        (location = "http://".toList ++ rest ∨ location = "//".toList ++ rest) →
          GoesAsWritten (rest.takeWhile (!Url.endsAuthority ·))
            (nextRequest? host port current response) := by
  intro h
  have hgoes := h "tck.local".toList 80 home (found "http://other.local:99999/z".toList)
    "http://other.local:99999/z".toList "other.local:99999/z".toList (by decide) (Or.inl rfl)
  obtain ⟨error, herror, -⟩ := hgoes.refused "other.local".toList "99999".toList (by decide)
    (by decide)
  cases herror

/-! ## What the next request names -/

/-- The `Host` field of the next request names the place where it goes: it is the current one if the
place stays the same, and the place is read from it otherwise. -/
def NamesPlace (host : Text) (port : UInt16) (written : Text) (next : RedirectTarget) : Prop :=
  if (next.host, next.port) = (host, port) then
    next.request.header? "Host".toList = some written
  else (next.request.header? "Host".toList).bind readPlace? = some (next.host, next.port)

instance (host : Text) (port : UInt16) (written : Text) (next : RedirectTarget) :
    Decidable (NamesPlace host port written next) :=
  inferInstanceAs (Decidable (if (next.host, next.port) = (host, port) then _ = _ else _ = _))

theorem head?_writeAuthority_ne {host : Text} {port : UInt16} (h : host.head? ≠ some '[') :
    (writeAuthority host port).head? ≠ some '[' := by
  unfold writeAuthority
  split
  · exact h
  · exact Url.head?_placeText_ne h port

/-- A place is read back exactly when its host has no colon. -/
theorem readPlace?_writeAuthority_iff {host : Text} {port : UInt16} (h : host.head? ≠ some '[') :
    readPlace? (writeAuthority host port) = some (host, port) ↔ ':' ∉ host := by
  constructor
  · intro hread
    obtain ⟨⟨front, behind⟩, hcut, hbehind⟩ := Option.bind_eq_some_iff.1 hread
    obtain rfl : front = host := by
      dsimp only at hbehind
      split at hbehind
      · cases hbehind
        rfl
      · obtain ⟨_, -, heq⟩ := Option.map_eq_some_iff.1 hbehind
        exact congrArg Prod.fst heq
      · cases hbehind
    rw [Url.cutHost?_of_head?_ne (head?_writeAuthority_ne h)] at hcut
    rw [Option.some.injEq, Prod.mk.injEq] at hcut
    intro hmem
    rw [← hcut.1] at hmem
    simpa using List.mem_takeWhile_imp hmem
  · intro hcolon
    have hkept := bne_of_notMem hcolon
    rw [readPlace?, writeAuthority]
    split
    · rename_i hdefault
      rw [Url.cutHost?_of_head?_ne h, List.takeWhile_eq_self_iff.2 hkept,
        List.dropWhile_eq_nil_iff.2 hkept, hdefault]
      rfl
    · rw [← Url.placeText, Url.cutHost?_placeText hcolon h, Option.bind_some]
      exact congrArg (Option.map (host, ·)) (portFor?_write port)

/-- The `Host` field of a request that follows is the one that is written for the place. -/
theorem header?_host_followUp {host written target : Text} {port : UInt16} {current : Request}
    (next : Text × UInt16) (hwritten : current.header? "Host".toList = some written) :
    (followUp host port current next target).header? "Host".toList =
      some (Text.trim (nextHostValue host port next written)) := by
  have hblank : ∀ c ∈ [' '], Text.isBlank c = true := List.forall_mem_singleton.2 rfl
  rw [Request.header?, fields_followUp, hwritten]
  exact congrArg some (Text.trim_append_of_isBlank hblank _)

section

variable {host written : Text} {port : UInt16} {current : Request} {response : Response}
  {next : RedirectTarget}

/-- The host of another place than the current one is the host of a URL, but for brackets. -/
theorem host_of_ne (hnext : nextRequest? host port current response = some (.ok next))
    (hne : (next.host, next.port) ≠ (host, port)) :
    next.host.head? ≠ some '[' ∧ ∀ c ∈ next.host, Url.isAuthorityChar c = true := by
  obtain ⟨location, target, -, hresolve, -⟩ := nextRequest?_eq_some_ok_iff.1 hnext
  rcases resolveLocation_cases hresolve with
    ⟨rest, url, -, hurl, hhost, -, -⟩ | ⟨-, hhost, hport, -⟩
  · obtain ⟨-, hcheck, -, -, heq⟩ := Url.parse_eq_ok_iff.1 hurl
    have hauthority : url.authority = rest.takeWhile (!Url.endsAuthority ·) := by rw [heq]
    rw [← hauthority] at hcheck
    obtain ⟨written, behind, -, hwrites⟩ := Url.exists_writesPlace hcheck
    have hfront : next.host <+: written := by
      rw [hhost, hwrites.withoutBrackets_eq]
      exact List.rdropWhile_prefix _ _
    constructor
    · intro hopen
      obtain ⟨tail, htail⟩ := List.head?_eq_some_iff.1 hopen
      obtain ⟨dropped, hdropped⟩ := hfront
      refine hwrites.head?_ne ?_
      rw [← hdropped, htail]
      rfl
    · exact fun c hc => Url.isAuthorityChar_of_check hcheck c (hwrites.subset (hfront.subset hc))
  · exact absurd (Prod.ext hhost hport) hne

/-- The field for a host of an authority has no blanks around it. -/
theorem isTrimmed_writeAuthority {host : Text}
    (h : ∀ c ∈ host, Url.isAuthorityChar c = true) (port : UInt16) :
    (writeAuthority host port).IsTrimmed := by
  refine Text.isTrimmed_of_not_isBlank fun c hc => Url.not_isBlank_of_isAuthorityChar ?_
  unfold writeAuthority at hc
  split at hc
  · exact h c hc
  · exact Url.isAuthorityChar_of_mem_placeText h port c hc

/-- The `Host` field of the next request names the place where it goes exactly when this is the
current place or its host has no colon. -/
theorem namesPlace_iff (hwritten : current.header? "Host".toList = some written)
    (hnext : nextRequest? host port current response = some (.ok next)) :
    NamesPlace host port written next ↔
      (next.host, next.port) = (host, port) ∨ ':' ∉ next.host := by
  obtain ⟨_, target, -, -, hrequest⟩ := nextRequest?_eq_some_ok_iff.1 hnext
  have hheader : next.request.header? "Host".toList =
      some (Text.trim (nextHostValue host port (next.host, next.port) written)) := by
    rw [hrequest]
    exact header?_host_followUp _ hwritten
  rw [nextHostValue] at hheader
  rw [NamesPlace, hheader]
  by_cases hsame : (next.host, next.port) = (host, port)
  · have htrimmed : Text.trim written = written := Request.isTrimmed_of_header? hwritten
    rw [if_pos hsame, if_pos hsame, htrimmed]
    exact iff_of_true rfl (Or.inl hsame)
  · obtain ⟨hhead, hchars⟩ := host_of_ne hnext hsame
    have htrimmed : Text.trim (writeAuthority next.host next.port) =
        writeAuthority next.host next.port := isTrimmed_writeAuthority hchars next.port
    rw [if_neg hsame, if_neg hsame, htrimmed, Option.bind_some, or_iff_right hsame]
    exact readPlace?_writeAuthority_iff hhead

end

open RedirectChain in
/-- A redirect to another host names that host. -/
theorem namesPlace_iff_mirror :
    home.header? "Host".toList = some "tck.local".toList ∧
      nextRequest? "tck.local".toList 80 home homeHop.response = some (.ok homeHop.next) ∧
      NamesPlace "tck.local".toList 80 "tck.local".toList homeHop.next :=
  have hwritten : home.header? "Host".toList = some "tck.local".toList := by decide
  have hnext : nextRequest? "tck.local".toList 80 home homeHop.response = some (.ok homeHop.next) :=
    by decide +kernel
  ⟨hwritten, hnext, (namesPlace_iff hwritten hnext).2 (Or.inr (by decide))⟩

/-- Where a redirect to an address of version 6 leads. -/
def addressPlace : RedirectTarget where
  host := "::1".toList
  port := 9090
  request :=
    { RedirectChain.mirror with
      fields := [RequestField.ofValue "Host".toList "::1:9090".toList,
        RequestField.ofValue "Connection".toList "close".toList] }

open RedirectChain in
/-- The `Host` field of the next request does not always name the place where it goes. -/
theorem not_namesPlace :
    ¬ ∀ (host written : Text) (port : UInt16) (current : Request) (response : Response)
      (next : RedirectTarget), current.header? "Host".toList = some written →
        nextRequest? host port current response = some (.ok next) →
          NamesPlace host port written next := by
  intro h
  have hnext : nextRequest? "tck.local".toList 80 home (found "http://[::1]:9090/z".toList) =
      some (.ok addressPlace) := by decide +kernel
  have hnames := h "tck.local".toList "tck.local".toList 80 home _ addressPlace (by decide) hnext
  exact absurd hnames (by decide)

end HttpConformance

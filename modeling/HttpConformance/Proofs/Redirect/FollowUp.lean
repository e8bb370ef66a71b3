import HttpConformance.Proofs.Message.RequestText
import HttpConformance.Proofs.Network.Authority
import HttpConformance.Proofs.Text.Trim
import HttpConformance.Proofs.Text.Words
import HttpConformance.Redirect

/-!
# The request that follows a redirect

The line of the next request is put together as text and read again as words.  The method is a word
and stays the first one.  The version stays behind the target only if the target is one word: it is
not checked for blanks when it comes from a location under the current authority.

Main definition: `Request.IsFollowUpOf`.

Main results:

- `Request.method_make`, `Request.version_make`, `Request.target_make`: a line put together from its
  parts.
- `resolveLocation_cases`: what a location leads to.
- `isAllBlank_of_resolveLocation`: a location leads to a target that is not blank.
- `isFollowUpOf_followUp`: what is carried on to the next request.
- `nextRequest?_eq_some_ok_iff`: when a response leads to a place.
-/

namespace HttpConformance

/-! ## The line of a request -/

namespace Request

/-- A part of the first line is a word, or nothing. -/
theorem word_eq_nil_or (place : Nat) (request : Request) :
    request.word place = [] ∨ Text.words (request.word place) = [request.word place] := by
  rw [word]
  cases hword : (Text.words request.line)[place]? with
  | none => exact Or.inl rfl
  | some word => exact Or.inr (Text.words_of_mem_words (List.mem_of_getElem? hword))

/-- The words of a line that is put together from its parts. -/
theorem words_line_make {method target version : Text} (hmethod : Text.words method = [method])
    (hversion : version = [] ∨ Text.words version = [version]) :
    Text.words (make method target version).line =
      method :: (Text.words target ++ if version = [] then [] else [version]) := by
  have hspace : Text.isBlank ' ' = true := by decide
  have hline : (make method target version).line =
      method ++ ' ' :: (target ++ if version = [] then [] else ' ' :: version) := by
    rw [make, ofLine, List.append_assoc, List.cons_append]
  rw [hline, Text.words_append_blank hspace, hmethod, List.singleton_append]
  split
  · rw [List.append_nil, List.append_nil]
  · rename_i hne
    rw [Text.words_append_blank hspace, hversion.resolve_left hne]

/-- The method of a line that is put together. -/
theorem method_make {method target version : Text} (hmethod : Text.words method = [method])
    (hversion : version = [] ∨ Text.words version = [version]) :
    (make method target version).method = method := by
  rw [Request.method, word, words_line_make hmethod hversion]
  rfl

/-- The version of a line that is put together: a second word of the target stands before it. -/
theorem version_make {method target version : Text} (hmethod : Text.words method = [method])
    (hversion : version = [] ∨ Text.words version = [version]) (htarget : Text.words target ≠ []) :
    (make method target version).version = ((Text.words target)[1]?).getD version := by
  obtain ⟨first, others, hwords⟩ := List.exists_cons_of_ne_nil htarget
  rw [Request.version, word, words_line_make hmethod hversion, hwords]
  cases others with
  | cons second others => rfl
  | nil =>
    split
    · rename_i hnil
      rw [hnil]
      rfl
    · rfl

/-- The target of a line that is put together is the first word of what was put in its place. -/
theorem target_make {method target version word : Text} {others : List Text}
    (hmethod : Text.words method = [method])
    (hversion : version = [] ∨ Text.words version = [version])
    (htarget : Text.words target = word :: others) :
    (make method target version).target = word := by
  rw [Request.target, Request.word, words_line_make hmethod hversion, htarget]
  rfl

theorem method_ne_nil {request : Request} (h : Text.isAllBlank request.line = false) :
    request.method ≠ [] := by
  have hne : Text.words request.line ≠ [] := by
    rw [Ne, Text.words_eq_nil_iff, h]
    exact Bool.false_ne_true
  obtain ⟨first, others, hwords⟩ := List.exists_cons_of_ne_nil hne
  have hfirst : first ∈ Text.words request.line := hwords ▸ List.mem_cons_self
  have hmethod : request.method = first := by
    rw [method, word, hwords]
    rfl
  rw [hmethod]
  exact (Text.not_isBlank_of_mem_words hfirst).1

/-- A request with a target has a method in front of it. -/
theorem method_ne_nil_of_target {request : Request} (h : request.target ≠ []) :
    request.method ≠ [] := by
  apply method_ne_nil
  rw [Bool.eq_false_iff, Ne, ← Text.words_eq_nil_iff]
  intro hnil
  apply h
  rw [Request.target, word, hnil]
  rfl

/-- A request that was read has a method. -/
theorem method_ne_nil_of_parse {text : Text} {request : Request} (h : parse text = .ok request) :
    request.method ≠ [] := by
  rw [RequestText.parse_eq] at h
  split at h
  · cases h
  · rename_i hline
    cases h
    exact method_ne_nil (Bool.eq_false_iff.2 hline)

end Request

/-! ## The target -/

/-- The target of a URL begins with a slash. -/
theorem Url.head?_target {text : Text} {url : Url} (h : Url.parse text = .ok url) :
    url.target.head? = some '/' := by
  have hpath : url.path.head? = some '/' := by
    obtain ⟨-, -, -, -, rfl⟩ := Url.parse_eq_ok_iff.1 h
    dsimp only
    split
    · rfl
    · rename_i hne
      rw [Url.pathOf] at hne ⊢
      obtain ⟨c, path, hpath⟩ := List.exists_cons_of_ne_nil hne
      have hnotPath : endsPath c = false := by
        have hmem := List.mem_takeWhile_imp (hpath ▸ List.mem_cons_self)
        rwa [Bool.not_eq_true'] at hmem
      have hauthority : endsAuthority c = true := by
        have hhead := List.head?_dropWhile_not (!endsAuthority ·) text
        rw [← List.takeWhile_append_dropWhile (p := (!endsPath ·))
          (l := text.dropWhile (!endsAuthority ·)), hpath] at hhead
        simpa using hhead
      have hslash : c = '/' := by
        simp only [endsAuthority, endsPath, Bool.or_eq_true, Bool.or_eq_false_iff, beq_iff_eq,
          beq_eq_false_iff_ne] at hauthority hnotPath
        exact (hauthority.resolve_right hnotPath.2).resolve_right hnotPath.1
      rw [hpath, hslash]
      rfl
  rw [Url.target, List.head?_append, hpath, Option.some_or]

/-- The target of a URL has no characters but those of its text, and a slash. -/
theorem Url.mem_of_mem_target {text : Text} {url : Url} (h : Url.parse text = .ok url) {c : Char}
    (hc : c ∈ url.target) : c ∈ text ∨ c = '/' := by
  have hbehind {a : Char} (ha : a ∈ text.dropWhile (!endsAuthority ·)) : a ∈ text :=
    (List.dropWhile_sublist _).subset ha
  obtain ⟨-, -, -, -, rfl⟩ := Url.parse_eq_ok_iff.1 h
  rw [Url.target, List.mem_append] at hc
  dsimp only at hc
  rcases hc with hpath | hquery
  · split at hpath
    · exact Or.inr (List.mem_singleton.1 hpath)
    · exact Or.inl (hbehind ((List.takeWhile_sublist _).subset hpath))
  · split at hquery
    · rename_i query hsome
      unfold queryBehind? queryOf? at hsome
      split at hsome
      · rename_i rest hrest
        cases hsome
        have hmem : c ∈ '?' :: rest :=
          List.mem_cons.2 ((List.mem_cons.1 hquery).imp_right fun hmem =>
            (List.takeWhile_sublist _).subset hmem)
        rw [← hrest] at hmem
        exact Or.inl (hbehind ((List.dropWhile_sublist _).subset hmem))
      · cases hsome
    · exact absurd hquery List.not_mem_nil

/-- How a location is written that leads to an authority of its own without a secure connection. -/
theorem LocationForm.of_eq_absolute_iff {location rest : Text} :
    of location = .absolute false rest ↔
      location = "http://".toList ++ rest ∨ location = "//".toList ++ rest := by
  constructor
  · intro h
    unfold of at h
    split at h
    · rename_i hfront
      cases h
      exact Or.inl (eq_append_of_isPrefixOf? hfront)
    · cases h
    · rename_i hfront
      cases h
      exact Or.inr (eq_append_of_isPrefixOf? hfront)
    · cases h
  · rintro (rfl | rfl) <;> rfl

/-- What a location leads to: the place and the target of a URL, or a target at the current
place. -/
theorem resolveLocation_cases {host nextHost : Text} {port nextPort : UInt16} {current : Request}
    {location target : Text}
    (h : resolveLocation host port current location = .ok (nextHost, nextPort, target)) :
    (∃ rest url, LocationForm.of location = .absolute false rest ∧ Url.parse rest = .ok url ∧
        nextHost = withoutBrackets url.host ∧ nextPort = url.port?.getD defaultPort ∧
        target = url.target) ∨
      LocationForm.of location = .sameAuthority ∧ nextHost = host ∧ nextPort = port ∧
        target = if location.head? = some '/' then location
          else resolveRelative current.target location := by
  unfold resolveLocation at h
  split at h
  · rename_i secure rest hform
    split at h
    · cases h
    · rename_i url hurl
      split at h
      · cases h
      · rename_i hsecure
        cases h
        rw [Bool.not_eq_true] at hsecure
        exact Or.inl ⟨rest, url, hsecure ▸ hform, hurl, rfl, rfl, rfl⟩
  · rename_i hform
    split at h
    · rename_i hslash
      cases h
      exact Or.inr ⟨hform, rfl, rfl, (if_pos hslash).symm⟩
    · rename_i hslash
      cases h
      exact Or.inr ⟨hform, rfl, rfl, (if_neg hslash).symm⟩

/-- The target that a location leads to has no characters but those of the location and of the
current target, and a slash. -/
theorem mem_of_mem_resolveLocation {host nextHost : Text} {port nextPort : UInt16}
    {current : Request} {location target : Text}
    (h : resolveLocation host port current location = .ok (nextHost, nextPort, target)) {c : Char}
    (hc : c ∈ target) : c ∈ location ∨ c ∈ current.target ∨ c = '/' := by
  have hpath {a : Char} (ha : a ∈ current.target.takeWhile (!Url.endsPath ·)) :
      a ∈ current.target :=
    (List.takeWhile_sublist _).subset ha
  rcases resolveLocation_cases h with ⟨rest, url, hform, hurl, -, -, rfl⟩ | ⟨-, -, -, rfl⟩
  · rcases Url.mem_of_mem_target hurl hc with hmem | hslash
    · rcases LocationForm.of_eq_absolute_iff.1 hform with rfl | rfl
      · exact Or.inl (List.mem_append_right _ hmem)
      · exact Or.inl (List.mem_append_right _ hmem)
    · exact Or.inr (Or.inr hslash)
  · split at hc
    · exact Or.inl hc
    · unfold resolveRelative at hc
      dsimp only at hc
      split at hc
      · exact (List.mem_append.1 hc).symm.imp_right fun hmem => Or.inl (hpath hmem)
      · split at hc
        · refine (List.mem_append.1 hc).symm.imp_right fun hmem => Or.inl (hpath ?_)
          exact (List.rdropWhile_prefix _ _).subset hmem
        · exact (List.mem_cons.1 hc).symm.imp_right Or.inr

/-- A location leads to a target that is not blank. -/
theorem isAllBlank_of_resolveLocation {host nextHost : Text} {port nextPort : UInt16}
    {current : Request} {location target : Text} (hlocation : Text.isAllBlank location = false)
    (h : resolveLocation host port current location = .ok (nextHost, nextPort, target)) :
    Text.isAllBlank target = false := by
  have hbehind (front : Text) : Text.isAllBlank (front ++ location) = false := by
    rw [Text.isAllBlank, List.all_append, ← Text.isAllBlank, ← Text.isAllBlank, hlocation,
      Bool.and_false]
  rcases resolveLocation_cases h with ⟨_, url, -, hurl, -, -, rfl⟩ | ⟨-, -, -, rfl⟩
  · obtain ⟨rest, hrest⟩ := List.head?_eq_some_iff.1 (Url.head?_target hurl)
    rw [hrest]
    rfl
  · split
    · exact hlocation
    · unfold resolveRelative
      dsimp only
      split
      · exact hbehind _
      · split
        · exact hbehind _
        · exact hbehind ['/']

/-- The location of a response is trimmed and not empty. -/
theorem Response.isTrimmed_of_location? {response : Response} {location : Text}
    (h : response.location? = some location) : location.IsTrimmed ∧ location ≠ [] := by
  unfold location? at h
  split at h
  · obtain ⟨hvalue, hne⟩ := Option.filter_eq_some_iff.1 h
    obtain ⟨value, -, rfl⟩ := Option.map_eq_some_iff.1 hvalue
    exact ⟨Text.isTrimmed_trim value, of_decide_eq_true hne⟩
  · cases h

/-! ## The request -/

/-- What a request keeps of the one whose response redirected to it: no body, and of the fields only
`Host`, if there was one, and `Connection` as it was. -/
structure Request.IsFollowUpOf (next current : Request) : Prop where
  body : next.body = none
  isVerbatim : next.isVerbatim = false
  fields : ∃ host : Option Text, host.isSome = (current.header? "Host".toList).isSome ∧
    next.fields = (host.map (RequestField.ofValue "Host".toList)).toList ++
      ((current.header? "Connection".toList).map (RequestField.ofValue "Connection".toList)).toList
  connection : next.header? "Connection".toList = current.header? "Connection".toList

/-- The value of a field is trimmed. -/
theorem Request.isTrimmed_of_header? {request : Request} {name value : Text}
    (h : request.header? name = some value) : value.IsTrimmed := by
  obtain ⟨field, -, hvalue⟩ := Option.bind_eq_some_iff.1 h
  obtain ⟨raw, -, rfl⟩ := Option.map_eq_some_iff.1 hvalue
  exact Text.isTrimmed_trim raw

/-- A value that is written behind a blank is read without it. -/
theorem RequestField.value?_ofValue {name value : Text} (h : value.IsTrimmed) :
    (RequestField.ofValue name value).value? = some value := by
  have hblank : ∀ c ∈ [' '], Text.isBlank c = true := List.forall_mem_singleton.2 rfl
  have htrim := Text.trim_append_of_isBlank hblank value
  rw [List.singleton_append, h] at htrim
  rw [ofValue, value?, Option.map_some, htrim]

/-- A follow-up has the host of the next place, and the connection field of the request. -/
theorem fields_followUp (host : Text) (port : UInt16) (current : Request) (next : Text × UInt16)
    (target : Text) :
    (followUp host port current next target).fields =
      (((current.header? "Host".toList).map (nextHostValue host port next)).map
        (RequestField.ofValue "Host".toList)).toList ++
      ((current.header? "Connection".toList).map
        (RequestField.ofValue "Connection".toList)).toList := by
  rw [Option.map_map]
  rfl

/-- Requests that follow to the same place are the same only for one target. -/
theorem followUp_inj {host target target' : Text} {port : UInt16} {current : Request}
    {next : Text × UInt16} :
    followUp host port current next target = followUp host port current next target' ↔
      target = target' := by
  constructor
  · intro h
    have hline := congrArg Request.line h
    simpa [followUp, Request.make, Request.ofLine] using hline
  · exact congrArg _

/-- A follow-up is one of the request it follows. -/
theorem isFollowUpOf_followUp (host : Text) (port : UInt16) (current : Request)
    (next : Text × UInt16) (target : Text) :
    (followUp host port current next target).IsFollowUpOf current where
  body := rfl
  isVerbatim := rfl
  fields :=
    ⟨(current.header? "Host".toList).map (nextHostValue host port next), Option.isSome_map,
      fields_followUp host port current next target⟩
  connection := by
    have hhost (values : Option Text) :
        (values.map (RequestField.ofValue "Host".toList)).toList.find? (fun field =>
          Text.sameIgnoringCase field.name "Connection".toList) = none := by
      cases values <;> rfl
    rw [Request.header?, fields_followUp, List.find?_append, hhost, Option.none_or]
    cases hvalue : current.header? "Connection".toList with
    | none => rfl
    | some value => exact RequestField.value?_ofValue (Request.isTrimmed_of_header? hvalue)

/-- A response leads to a place when its location does. -/
theorem nextRequest?_eq_some_ok_iff {host : Text} {port : UInt16} {current : Request}
    {response : Response} {next : RedirectTarget} :
    nextRequest? host port current response = some (.ok next) ↔
      ∃ location target, response.location? = some location ∧
        resolveLocation host port current location = .ok (next.host, next.port, target) ∧
        next.request = followUp host port current (next.host, next.port) target := by
  unfold nextRequest?
  constructor
  · intro h
    obtain ⟨location, hlocation, hresolved⟩ := Option.map_eq_some_iff.1 h
    cases hresolve : resolveLocation host port current location with
    | error error =>
      rw [hresolve] at hresolved
      cases hresolved
    | ok resolved =>
      rw [hresolve] at hresolved
      cases hresolved
      exact ⟨location, resolved.2.2, hlocation, hresolve, rfl⟩
  · rintro ⟨location, target, hlocation, hresolve, hrequest⟩
    rw [hlocation, Option.map_some, hresolve]
    have hnext : (⟨next.host, next.port,
        followUp host port current (next.host, next.port) target⟩ : RedirectTarget) = next := by
      rw [← hrequest]
    exact congrArg (fun place => some (Except.ok place)) hnext

end HttpConformance

import HttpConformance.Proofs.Decimal
import HttpConformance.Proofs.Network.Url
import HttpConformance.Proofs.Text.Cut

/-!
# Authorities

What an authority that passes the check looks like, and the place that it writes: behind the user
info, a host, and behind the first colon after the host the text of a port.

Main definitions: `Url.isAuthorityChar`, `Url.Authority.Reads`, `Url.writtenPlace?`,
`Url.WritesPlace`, `Url.IsHostName`.

Main results:

- `Url.Authority.reads_of_foldlM`: what the check of an authority sees.
- `Url.mem_of_open`: an address in square brackets is closed.
- `Url.exists_writesPlace`: an authority writes an address in square brackets, or a name.
- `Url.WritesPlace.port?_eq`: the port of a URL, by the text that is written for it.
- `Url.checkAuthority_placeText_iff`: a host name and a port pass the check, but for percent signs.
-/

namespace HttpConformance.Url

/-! ## What the check sees -/

/-- The characters of an authority. -/
def isAuthorityChar (c : Char) : Bool :=
  isPlainInAuthority c || ":[]@%".toList.contains c

namespace Authority

/-- What a part of an authority that is read adds to what has been seen. -/
structure Reads (seen : Authority) (text : Text) (after : Authority) : Prop where
  isAuthorityChar : ∀ c ∈ text, isAuthorityChar c = true
  opened : after.opened = true ↔ seen.opened = true ∨ '[' ∈ text
  closed : after.closed = true ↔ seen.closed = true ∨ ']' ∈ text
  notMem_of_opened : seen.opened = true → '[' ∉ text
  opened_of_mem : ']' ∈ text → after.opened = true

/-- What is seen of two texts is what is seen of one and then of the other. -/
theorem Reads.append {seen between after : Authority} {front rest : Text}
    (hfront : Reads seen front between) (hrest : Reads between rest after) :
    Reads seen (front ++ rest) after where
  isAuthorityChar := List.forall_mem_append.2 ⟨hfront.isAuthorityChar, hrest.isAuthorityChar⟩
  opened := by rw [hrest.opened, hfront.opened, List.mem_append, or_assoc]
  closed := by rw [hrest.closed, hfront.closed, List.mem_append, or_assoc]
  notMem_of_opened := fun h hmem => (List.mem_append.1 hmem).elim (hfront.notMem_of_opened h)
    (hrest.notMem_of_opened (hfront.opened.2 (Or.inl h)))
  opened_of_mem := fun hmem => (List.mem_append.1 hmem).elim
    (fun h => hrest.opened.2 (Or.inl (hfront.opened_of_mem h))) hrest.opened_of_mem

/-- A character that is no bracket adds nothing to the brackets. -/
theorem reads_of_not_bracket {seen after : Authority} {c : Char}
    (hc : Url.isAuthorityChar c = true) (hopen : c ≠ '[') (hclose : c ≠ ']')
    (hopened : after.opened = seen.opened) (hclosed : after.closed = seen.closed) :
    Reads seen [c] after where
  isAuthorityChar := List.forall_mem_singleton.2 hc
  opened := by simp [hopened, hopen.symm]
  closed := by simp [hclosed, hclose.symm]
  notMem_of_opened := fun _ hmem => hopen (List.mem_singleton.1 hmem).symm
  opened_of_mem := fun hmem => absurd (List.mem_singleton.1 hmem).symm hclose

/-- What one character adds. -/
theorem reads_of_step {seen after : Authority} {c : Char} (h : seen.step c = .ok after) :
    Reads seen [c] after := by
  unfold step at h
  dsimp only at h
  split at h
  · rename_i hcolon
    split at h
    · cases h
    · cases h
      exact reads_of_not_bracket (by rw [hcolon]; decide) (by rw [hcolon]; decide)
        (by rw [hcolon]; decide) rfl rfl
  split at h
  · rename_i hopen
    split at h
    · cases h
    · rename_i hnot
      cases h
      have hchar : Url.isAuthorityChar c = true := by rw [hopen]; decide
      exact ⟨List.forall_mem_singleton.2 hchar, by simp [hopen], by simp [hopen],
        fun hopened => absurd (Or.inr hopened) hnot, fun _ => rfl⟩
  split at h
  · rename_i hclose
    split at h
    · cases h
    · rename_i hnot
      cases h
      have hopened : seen.opened = true := by simpa using (not_or.1 hnot).1
      have hchar : Url.isAuthorityChar c = true := by rw [hclose]; decide
      exact ⟨List.forall_mem_singleton.2 hchar, by simp [hclose], by simp [hclose],
        by simp [hclose], fun _ => hopened⟩
  rename_i hopen hclose
  split at h
  · rename_i hat
    cases h
    exact reads_of_not_bracket (by rw [hat]; decide) hopen hclose rfl rfl
  split at h
  · rename_i hpercent
    cases h
    exact reads_of_not_bracket (by rw [hpercent]; decide) hopen hclose rfl rfl
  split at h
  · rename_i hplain
    cases h
    exact reads_of_not_bracket (by simp [Url.isAuthorityChar, hplain]) hopen hclose rfl rfl
  · cases h

/-- What a part of an authority adds. -/
theorem reads_of_foldlM {seen after : Authority} {text : Text}
    (h : text.foldlM step seen = .ok after) : Reads seen text after := by
  induction text generalizing seen with
  | nil =>
    cases h
    exact ⟨fun c hc => absurd hc List.not_mem_nil, by simp, by simp, by simp, by simp⟩
  | cons c text ih =>
    obtain ⟨between, hstep, hrest⟩ := exists_foldlM_cons h
    exact (reads_of_step hstep).append (ih hrest)

end Authority

/-! ## Checked authorities -/

/-- An authority passes the check when all of it is read and it may end there. -/
theorem checkAuthority_eq_ok_iff {text : Text} :
    checkAuthority text = .ok () ↔
      text ≠ [] ∧ ∃ seen, text.foldlM Authority.step ⟨0, false, false, false, false⟩ = .ok seen ∧
        seen.mayEnd = true := by
  unfold checkAuthority
  cases text.foldlM Authority.step ⟨0, false, false, false, false⟩ with
  | error error => simp
  | ok seen => cases hend : seen.mayEnd <;> by_cases hne : text = [] <;> simp [hend, hne]

/-- The characters of an authority that passes the check. -/
theorem isAuthorityChar_of_check {text : Text} (h : checkAuthority text = .ok ()) :
    ∀ c ∈ text, isAuthorityChar c = true := by
  obtain ⟨-, seen, hfold, -⟩ := checkAuthority_eq_ok_iff.1 h
  exact (Authority.reads_of_foldlM hfold).isAuthorityChar

/-- An address in square brackets is closed, and no other one is opened in it. -/
theorem mem_of_open {front rest : Text} (h : checkAuthority (front ++ '[' :: rest) = .ok ()) :
    ']' ∈ rest ∧ '[' ∉ rest := by
  obtain ⟨-, seen, hfold, hend⟩ := checkAuthority_eq_ok_iff.1 h
  -- The bracket is opened only once and cannot be closed before, so it is closed behind.
  obtain ⟨before, hfront, hplace⟩ := exists_foldlM_append hfold
  obtain ⟨behind, hopen, hrest⟩ : ∃ behind, ['['].foldlM Authority.step before = .ok behind ∧
      rest.foldlM Authority.step behind = .ok seen := exists_foldlM_append hplace
  replace hfront := Authority.reads_of_foldlM hfront
  replace hopen := Authority.reads_of_foldlM hopen
  replace hrest := Authority.reads_of_foldlM hrest
  have hopened : behind.opened = true := hopen.opened.2 (Or.inr (List.mem_singleton_self _))
  have hnotOpened : ¬ before.opened = true := fun hbefore =>
    hopen.notMem_of_opened hbefore (List.mem_singleton_self _)
  have hnotClosed : ¬ behind.closed = true := by
    rw [hopen.closed, hfront.closed]
    simpa using fun hmem => hnotOpened (hfront.opened_of_mem hmem)
  have hclosed : seen.closed = true := by
    have hbalanced : seen.opened = seen.closed := by
      simp only [Authority.mayEnd, Bool.and_eq_true, beq_iff_eq] at hend
      exact hend.1.1.1
    rw [← hbalanced]
    exact hrest.opened.2 (Or.inl hopened)
  exact ⟨(hrest.closed.1 hclosed).resolve_left hnotClosed, hrest.notMem_of_opened hopened⟩

/-! ## What stands behind the last separator -/

/-- A text without the separator goes along. -/
theorem afterLast_append {c : Char} (front : Text) {rest : Text} (h : c ∉ rest) :
    afterLast c (front ++ rest) = afterLast c front ++ rest := by
  have hrest := bne_of_notMem fun hmem => h (List.mem_reverse.1 hmem)
  rw [afterLast, List.reverse_append, List.takeWhile_append_of_pos hrest, List.reverse_append,
    List.reverse_reverse, ← afterLast]

/-- What follows the last occurrence of a character. -/
theorem afterLast_append_cons {c : Char} (front : Text) {rest : Text} (h : c ∉ rest) :
    afterLast c (front ++ c :: rest) = rest := by
  have hlast : afterLast c (front ++ [c]) = [] := by simp [afterLast]
  rw [List.append_cons, afterLast_append _ h, hlast, List.nil_append]

/-- Without a separator all of the text is behind it. -/
theorem afterLast_eq_self {c : Char} {text : Text} (h : c ∉ text) : afterLast c text = text := by
  have hnil : afterLast c [] = [] := rfl
  have happend := afterLast_append [] h
  rwa [hnil, List.nil_append] at happend

/-- What stands behind the last separator, if there is one. -/
theorem afterLast_cases (c : Char) (text : Text) :
    afterLast c text = text ∨ ∃ front, text = front ++ c :: afterLast c text := by
  by_cases hmem : c ∈ text
  · obtain ⟨rest, front, heq, hrest⟩ := List.eq_append_cons_of_mem (List.mem_reverse.2 hmem)
    have htext : text = front.reverse ++ c :: rest.reverse := by
      rw [← List.reverse_reverse text, heq]
      simp
    refine Or.inr ⟨front.reverse, ?_⟩
    conv_rhs => rw [htext, afterLast_append_cons _ (by simpa using hrest)]
    exact htext
  · exact Or.inl (afterLast_eq_self hmem)

/-! ## The place that is written -/

/-- The host that a place begins with, and what follows it: an address in square brackets, or what
stands before the first colon. -/
def cutHost? : Text → Option (Text × Text)
  | '[' :: rest => cutAt ']' rest
  | place => some (place.takeWhile (· != ':'), place.dropWhile (· != ':'))

/-- The text of a port: what stands behind the first colon, or nothing. -/
def portText (text : Text) : Text :=
  ((cutAt ':' text).map (·.2)).getD []

/-- The host that an authority writes behind its user info, and the text of the port. -/
def writtenPlace? (authority : Text) : Option (Text × Text) :=
  (cutHost? (afterLast '@' authority)).map fun (host, behind) => (host, portText behind)

/-- A host that is not in square brackets ends at the first colon. -/
theorem cutHost?_of_head?_ne {place : Text} (h : place.head? ≠ some '[') :
    cutHost? place = some (place.takeWhile (· != ':'), place.dropWhile (· != ':')) := by
  unfold cutHost?
  split
  · exact absurd rfl h
  · rfl

/-- What an authority writes behind its user info: an address in square brackets or a name, and what
follows it. -/
inductive WritesPlace (authority host : Text) : (written behind : Text) → Prop
  | address {front written behind : Text}
      (authority_eq : authority = front ++ '[' :: (written ++ ']' :: behind))
      (open_notMem : '[' ∉ written) (close_notMem : ']' ∉ written)
      (host_eq : host = '[' :: (written ++ [']'])) : WritesPlace authority host written behind
  | name {front written behind : Text} (authority_eq : authority = front ++ (written ++ behind))
      (front_eq : front = [] ∨ ∃ user, front = user ++ ['@']) (colon_notMem : ':' ∉ written)
      (head?_ne : written.head? ≠ some '[') (host_eq : host = written) :
      WritesPlace authority host written behind

/-- An authority that passes the check writes an address in square brackets, or a name. -/
theorem exists_writesPlace {url : Url} (h : checkAuthority url.authority = .ok ()) :
    ∃ written behind, cutHost? (afterLast '@' url.authority) = some (written, behind) ∧
      WritesPlace url.authority url.host written behind := by
  have hparts : ∃ front, url.authority = front ++ afterLast '@' url.authority ∧
      (front = [] ∨ ∃ user, front = user ++ ['@']) := by
    rcases afterLast_cases '@' url.authority with hall | ⟨user, heq⟩
    · exact ⟨[], by rw [hall, List.nil_append], Or.inl rfl⟩
    · refine ⟨user ++ ['@'], ?_, Or.inr ⟨user, rfl⟩⟩
      rwa [← List.append_cons]
  have hhost : url.host = if (afterLast '@' url.authority).head? = some '[' then
      (afterLast '@' url.authority).takeWhile (· != ']') ++ [']']
      else (afterLast '@' url.authority).takeWhile (· != ':') := rfl
  obtain ⟨front, heq, hfront⟩ := hparts
  generalize afterLast '@' url.authority = place at heq hhost ⊢
  by_cases hopen : place.head? = some '['
  · obtain ⟨rest, rfl⟩ := List.head?_eq_some_iff.1 hopen
    obtain ⟨hclose, hnotOpen⟩ := mem_of_open (heq ▸ h)
    obtain ⟨written, behind, rfl, hwritten⟩ := List.eq_append_cons_of_mem hclose
    refine ⟨written, behind, cutAt_append_cons hwritten behind, .address heq ?_ hwritten ?_⟩
    · exact fun hmem => hnotOpen (List.mem_append_left _ hmem)
    · have hopening : ']' ∉ '[' :: written :=
        List.not_mem_cons_of_ne_of_not_mem (by decide) hwritten
      rw [hhost, if_pos hopen, ← List.cons_append, takeWhile_append_of_head?
        (bne_of_notMem hopening) (by rintro _ ⟨rfl⟩; decide), List.cons_append]
  · refine ⟨_, _, cutHost?_of_head?_ne hopen, .name ?_ hfront ?_ ?_ ?_⟩
    · rwa [List.takeWhile_append_dropWhile]
    · intro hmem
      simpa using List.mem_takeWhile_imp hmem
    · intro hhead
      obtain ⟨rest, hrest⟩ := List.head?_eq_some_iff.1 hhead
      rw [← List.takeWhile_append_dropWhile (p := (· != ':')) (l := place), hrest] at hopen
      exact hopen rfl
    · rw [hhost, if_neg hopen]

variable {authority host written behind : Text}

/-- What is written as the host is a part of the authority. -/
theorem WritesPlace.subset (h : WritesPlace authority host written behind) :
    written ⊆ authority := by
  cases h with
  | address heq =>
    rw [heq]
    exact fun c hc => List.mem_append_right _ (List.mem_cons_of_mem _ (List.mem_append_left _ hc))
  | name heq =>
    rw [heq]
    exact fun c hc => List.mem_append_right _ (List.mem_append_left _ hc)

/-- What is written behind the host is the end of the authority. -/
theorem WritesPlace.exists_append (h : WritesPlace authority host written behind) :
    ∃ front, authority = front ++ behind := by
  cases h with
  | @address front _ _ heq => exact ⟨front ++ '[' :: (written ++ [']']), by simp [heq]⟩
  | @name front _ _ heq => exact ⟨front ++ written, by simp [heq]⟩

theorem WritesPlace.head?_ne (h : WritesPlace authority host written behind) :
    written.head? ≠ some '[' := by
  cases h with
  | address _ hopen => exact fun hhead => hopen (List.mem_of_head? hhead)
  | name _ _ _ hhead => exact hhead

/-! ## The port -/

/-- A port is read from digits, and possibly a plus sign. -/
theorem isDigit_or_eq_of_readPort? {text : Text} {port : UInt16}
    (h : Numeral.readPort? text = some port) : ∀ c ∈ text, c.isDigit = true ∨ c = '+' := by
  obtain ⟨digits, rfl | rfl, hdecimal⟩ := Numeral.readPort?_eq_some_iff.1 h
  · exact fun c hc => Or.inl (hdecimal.digits c hc)
  · exact List.forall_mem_cons.2 ⟨Or.inr rfl, fun c hc => Or.inl (hdecimal.digits c hc)⟩

/-- No port is read from what has an at sign or a closing bracket behind its last colon. -/
theorem readPort?_afterLast_eq_none {c : Char} (hc : c = '@' ∨ c = ']') (front : Text) {rest : Text}
    (h : ':' ∉ rest) : Numeral.readPort? (afterLast ':' (front ++ c :: rest)) = none := by
  have hcolon : ':' ∉ c :: rest :=
    List.not_mem_cons_of_ne_of_not_mem (by rcases hc with rfl | rfl <;> decide) h
  rw [afterLast_append front hcolon]
  cases hread : Numeral.readPort? (afterLast ':' front ++ c :: rest) with
  | none => rfl
  | some port =>
    have hdigit := isDigit_or_eq_of_readPort? hread c (List.mem_append_right _ List.mem_cons_self)
    rcases hc with rfl | rfl <;> exact absurd hdigit (by decide)

/-- Without a colon behind the host there is no port, whatever the user info is. -/
theorem WritesPlace.port?_eq_none {url : Url}
    (h : WritesPlace url.authority url.host written behind) (hcolon : ':' ∉ behind) :
    url.port? = none := by
  rw [port?, ite_eq_right_iff]
  intro hmem
  -- The last colon stands in the address or in the user info, and the character that ends either of
  -- them is part of what is read as a port.
  cases h with
  | @address front _ _ heq =>
    rw [heq, ← List.cons_append, ← List.append_assoc]
    exact readPort?_afterLast_eq_none (Or.inr rfl) _ hcolon
  | @name front _ _ heq hfront hwritten =>
    have hplace : ':' ∉ written ++ behind := List.not_mem_append hwritten hcolon
    rcases hfront with rfl | ⟨user, rfl⟩
    · rw [heq, List.nil_append] at hmem
      exact absurd hmem hplace
    · rw [heq, ← List.append_cons]
      exact readPort?_afterLast_eq_none (Or.inl rfl) user hplace

/-- The port of a URL is read from the text that is written for it, if this text is a number or
empty. -/
theorem WritesPlace.port?_eq {url : Url} (h : WritesPlace url.authority url.host written behind)
    (htext : portText behind = [] ∨ (Numeral.readPort? (portText behind)).isSome = true) :
    url.port? = Numeral.readPort? (portText behind) := by
  unfold portText at htext ⊢
  cases hcut : cutAt ':' behind with
  | none =>
    rw [h.port?_eq_none (cutAt_eq_none_iff.1 hcut)]
    rfl
  | some parts =>
    obtain ⟨between, text⟩ := parts
    rw [hcut] at htext
    change text = [] ∨ (Numeral.readPort? text).isSome = true at htext
    have hcolon : ':' ∉ text := by
      rcases htext with rfl | hsome
      · exact List.not_mem_nil
      · obtain ⟨port, hread⟩ := Option.isSome_iff_exists.1 hsome
        exact fun hmem => absurd (isDigit_or_eq_of_readPort? hread _ hmem) (by decide)
    obtain ⟨front, hauthority⟩ : ∃ front, url.authority = front ++ ':' :: text := by
      obtain ⟨front, hfront⟩ := h.exists_append
      rw [(cutAt_eq_some_iff.1 hcut).1, ← List.append_assoc] at hfront
      exact ⟨_, hfront⟩
    rw [port?, hauthority, if_pos (List.mem_append_right _ List.mem_cons_self),
      afterLast_append_cons front hcolon]
    rfl

/-! ## Host names -/

/-- The characters of a registered name, percent signs included. -/
def IsHostName (text : Text) : Prop :=
  ∀ c ∈ text, isPlainInAuthority c = true ∨ c = '%'

instance (text : Text) : Decidable (IsHostName text) :=
  List.decidableBAll _ text

/-- A host and a port as an authority. -/
def placeText (host : Text) (port : UInt16) : Text :=
  host ++ ':' :: Numeral.write port.toNat

/-- A character with a meaning of its own in an authority is none of a host name. -/
theorem IsHostName.notMem {text : Text} (h : IsHostName text) {c : Char}
    (hc : isPlainInAuthority c = false) (hpercent : c ≠ '%') : c ∉ text := by
  intro hmem
  rcases h c hmem with hplain | heq
  · rw [hc] at hplain
    cases hplain
  · exact hpercent heq

theorem isPlainInAuthority_of_isDigit {c : Char} (h : c.isDigit = true) :
    isPlainInAuthority c = true := by
  simp [isPlainInAuthority, Char.isAlphanum, h]

/-- The digits of a port could be a host name. -/
theorem isHostName_write (n : Nat) : IsHostName (Numeral.write n) := fun _ hc =>
  Or.inl (isPlainInAuthority_of_isDigit ((Numeral.isDecimal_write n).digits _ hc))

namespace Authority

/-- A plain character changes nothing of what has been seen. -/
theorem step_of_isPlainInAuthority {c : Char} (h : isPlainInAuthority c = true) (n : Nat)
    (percent : Bool) :
    step ⟨n, percent, false, false, false⟩ c = .ok ⟨n, percent, false, false, false⟩ := by
  have hne (a : Char) (ha : isPlainInAuthority a = false) : c ≠ a := by
    rintro rfl
    rw [ha] at h
    cases h
  rw [step, if_neg (hne ':' (by decide)), if_neg (hne '[' (by decide)),
    if_neg (hne ']' (by decide)), if_neg (hne '@' (by decide)), if_neg (hne '%' (by decide)),
    if_pos h]

/-- Of a host name, only a percent sign is seen. -/
theorem foldlM_step_of_isHostName {text : Text} (h : IsHostName text) (n : Nat) (percent : Bool) :
    text.foldlM step ⟨n, percent, false, false, false⟩ =
      .ok ⟨n, percent || text.contains '%', false, false, false⟩ := by
  induction text generalizing percent with
  | nil =>
    rw [List.contains_nil, Bool.or_false]
    rfl
  | cons c text ih =>
    obtain ⟨hc, htext⟩ := List.forall_mem_cons.1 h
    rw [List.foldlM_cons, List.contains_cons, ← Bool.or_assoc]
    rcases hc with hplain | rfl
    · have hne : ('%' == c) = false := beq_eq_false_iff_ne.2 fun heq => by
        rw [← heq] at hplain
        cases hplain
      rw [step_of_isPlainInAuthority hplain, hne, Bool.or_false]
      exact ih htext percent
    · rw [beq_self_eq_true, Bool.or_true]
      exact ih htext true

end Authority

/-- A host name with a port behind it passes the check exactly when it has no percent sign. -/
theorem checkAuthority_placeText_iff {host : Text} (h : IsHostName host) (port : UInt16) :
    checkAuthority (placeText host port) = .ok () ↔ '%' ∉ host := by
  have hport : (Numeral.write port.toNat).contains '%' = false := by
    rw [← Bool.not_eq_true, List.contains_iff_mem]
    exact fun hmem => absurd ((Numeral.isDecimal_write _).digits _ hmem) (by decide)
  have hfold : (placeText host port).foldlM Authority.step ⟨0, false, false, false, false⟩ =
      .ok ⟨1, host.contains '%', false, false, false⟩ := by
    rw [placeText, List.foldlM_append, Authority.foldlM_step_of_isHostName h, Bool.false_or]
    refine (Authority.foldlM_step_of_isHostName (isHostName_write _) 1 _).trans ?_
    rw [hport, Bool.or_false]
  rw [checkAuthority_eq_ok_iff, hfold]
  constructor
  · rintro ⟨-, seen, hseen, hend⟩ hmem
    cases hseen
    rw [List.contains_iff_mem.2 hmem] at hend
    cases hend
  · intro hpercent
    refine ⟨by simp [placeText], _, rfl, ?_⟩
    rw [Bool.eq_false_iff.2 (mt List.contains_iff_mem.1 hpercent)]
    rfl

theorem IsHostName.isAuthorityChar {text : Text} (h : IsHostName text) :
    ∀ c ∈ text, isAuthorityChar c = true := by
  intro c hc
  rcases h c hc with hplain | rfl
  · rw [Url.isAuthorityChar, hplain, Bool.true_or]
  · decide

theorem isAuthorityChar_of_mem_placeText {host : Text}
    (h : ∀ c ∈ host, isAuthorityChar c = true) (port : UInt16) :
    ∀ c ∈ placeText host port, isAuthorityChar c = true :=
  List.forall_mem_append.2 ⟨h, List.forall_mem_cons.2
    ⟨by decide, (isHostName_write port.toNat).isAuthorityChar⟩⟩

/-- The characters of an authority do not end it. -/
theorem endsAuthority_of_isAuthorityChar {c : Char} (h : isAuthorityChar c = true) :
    endsAuthority c = false := by
  rw [endsAuthority, Bool.or_eq_false_iff, Bool.or_eq_false_iff, beq_eq_false_iff_ne,
    beq_eq_false_iff_ne, beq_eq_false_iff_ne]
  refine ⟨⟨?_, ?_⟩, ?_⟩ <;> (rintro rfl; exact absurd h (by decide))

theorem head?_placeText_ne {host : Text} (h : host.head? ≠ some '[') (port : UInt16) :
    (placeText host port).head? ≠ some '[' := by
  cases host with
  | nil => simp [placeText]
  | cons c host => exact h

/-- The host stands before the first colon. -/
theorem takeWhile_placeText {host : Text} (h : ':' ∉ host) (port : UInt16) :
    (placeText host port).takeWhile (· != ':') = host :=
  takeWhile_append_cons h _

/-- The host and the port of such an authority. -/
theorem cutHost?_placeText {host : Text} (h : ':' ∉ host) (hhead : host.head? ≠ some '[')
    (port : UInt16) :
    cutHost? (placeText host port) = some (host, ':' :: Numeral.write port.toNat) := by
  have hbehind : (placeText host port).dropWhile (· != ':') = ':' :: Numeral.write port.toNat :=
    dropWhile_append_of_head? (bne_of_notMem h) (by rintro _ ⟨rfl⟩; decide)
  rw [cutHost?_of_head?_ne (head?_placeText_ne hhead port), takeWhile_placeText h, hbehind]

/-- The authority is read back as the host name and the port. -/
theorem writesPlace_placeText {url : Url} {port : UInt16} (hhost : IsHostName host)
    (h : url.authority = placeText host port) :
    WritesPlace url.authority url.host host (':' :: Numeral.write port.toNat) := by
  have hcolon : ':' ∉ host := hhost.notMem (by decide) (by decide)
  have hat : '@' ∉ placeText host port := by
    refine List.not_mem_append (hhost.notMem (by decide) (by decide)) ?_
    refine List.not_mem_cons_of_ne_of_not_mem (by decide) ?_
    exact (isHostName_write _).notMem (by decide) (by decide)
  have hhead : host.head? ≠ some '[' := fun hopen =>
    hhost.notMem (by decide) (by decide) (List.mem_of_head? hopen)
  have hauthority : url.authority = [] ++ (host ++ ':' :: Numeral.write port.toNat) := h
  refine .name hauthority (Or.inl rfl) hcolon hhead ?_
  rw [Url.host, h, afterLast_eq_self hat, if_neg (head?_placeText_ne hhead port),
    takeWhile_placeText hcolon]

/-! ## Blanks -/

/-- An authority has no blanks. -/
theorem not_isBlank_of_isAuthorityChar {c : Char} (h : isAuthorityChar c = true) :
    Text.isBlank c = false :=
  Text.not_isBlank_of_blankCodes (by decide) h

end HttpConformance.Url

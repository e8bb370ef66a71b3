import HttpConformance.Proofs.Assertion.Surroundings

/-!
# Following redirects

A chain of redirects goes as far as the server leads.  It is described here stage by stage, each
with the number of redirects before it, without a bound; a run then follows the chain up to the
bound of its configuration and no further.  At every stage that a run comes to, its counter is the
number of the stage, so it neither passes the bound nor wraps around.

Main definitions: `Stage`, `Surroundings.stage?`, `Surroundings.Ends`.

Main results:

- `Surroundings.finalResponse_eq_goOn`: a run that follows redirects passes through the stages of
  the chain.
- `Surroundings.ends_finalResponse`: how such a run ends.
- `Surroundings.execute_follows_up_to_bound`: how many exchanges there are, and when a run gives up.
-/

namespace HttpConformance

/-! ## The chain of redirects -/

/-- A chain of redirects after some exchange: how many redirects were followed, where the last
request was sent, the response to it, and all requests that were sent. -/
structure Stage where
  hops : UInt8
  place : RedirectTarget
  response : Response
  sent : List Sent
  deriving DecidableEq, Repr

namespace Stage

/-- Where the response leads. -/
def next? (stage : Stage) : Option (Except RedirectError RedirectTarget) :=
  nextRequest? stage.place.host stage.place.port stage.place.request stage.response

/-- The response leads to a place. -/
def Redirects (stage : Stage) : Prop :=
  ∃ target, stage.next? = some (.ok target)

end Stage

namespace Surroundings

/-- The stage after sending a request to a place, if there is a response. -/
def stageAt? (world : Surroundings) (options : Exchange.Options) (hops : UInt8)
    (place : RedirectTarget) (sent : List Sent) : Option Stage :=
  match world.received (sent ++ [.of options place]) with
  | .ok response => some ⟨hops, place, response, sent ++ [.of options place]⟩
  | .error _ => none

/-- The stage behind another one, if that one leads to a place where there is a response. -/
def nextStage? (world : Surroundings) (options : Exchange.Options) (stage : Stage) : Option Stage :=
  match stage.next? with
  | some (.ok target) => world.stageAt? options (stage.hops + 1) target stage.sent
  | _ => none

/-- The stages of the chain on which the server leads an assertion, however long it is. -/
def stage? (world : Surroundings) (assertion : Assertion) : Nat → Option Stage
  | 0 =>
    match assertion.prepare with
    | .ok request => world.stageAt? assertion.options 0 (assertion.start request) []
    | .error _ => none
  | k + 1 => (stage? world assertion k).bind (world.nextStage? assertion.options)

variable {world : Surroundings} {assertion : Assertion} {stage : Stage} {k : Nat}

/-- A stage that is reached has received its response, and nothing else is new in it. -/
theorem stageAt?_eq_some {options : Exchange.Options} {hops : UInt8} {place : RedirectTarget}
    {sent : List Sent} (h : world.stageAt? options hops place sent = some stage) :
    ∃ response, world.received (sent ++ [.of options place]) = .ok response ∧
      stage = ⟨hops, place, response, sent ++ [.of options place]⟩ := by
  unfold stageAt? at h
  split at h
  · rename_i response hreceived
    cases h
    exact ⟨response, hreceived, rfl⟩
  · cases h

/-- The stage behind another one is that of an exchange at the place where the other one leads. -/
theorem nextStage?_eq_some {options : Exchange.Options} {next : Stage}
    (h : world.nextStage? options stage = some next) :
    ∃ target, stage.next? = some (.ok target) ∧
      world.stageAt? options (stage.hops + 1) target stage.sent = some next := by
  unfold nextStage? at h
  split at h
  · rename_i target hnext
    exact ⟨target, hnext, h⟩
  · cases h

/-- The first stage is the answer to the request that was prepared. -/
theorem stage?_zero {request : Request} (h : assertion.prepare = .ok request) :
    world.stage? assertion 0 =
      world.stageAt? assertion.options 0 (assertion.start request) [] := by
  rw [stage?, h]

/-- A later stage is the answer to the redirect of the one before it. -/
theorem stage?_succ_eq_some (h : world.stage? assertion (k + 1) = some stage) :
    ∃ before target, world.stage? assertion k = some before ∧ before.next? = some (.ok target) ∧
      world.stageAt? assertion.options (before.hops + 1) target before.sent = some stage := by
  obtain ⟨before, hbefore, hnext⟩ := Option.bind_eq_some_iff.1 h
  obtain ⟨target, htarget, hstage⟩ := nextStage?_eq_some hnext
  exact ⟨before, target, hbefore, htarget, hstage⟩

/-- There is one exchange for each stage. -/
theorem length_sent_of_stage? (h : world.stage? assertion k = some stage) :
    stage.sent.length = k + 1 := by
  induction k generalizing stage with
  | zero =>
    unfold stage? at h
    split at h
    · obtain ⟨response, -, rfl⟩ := stageAt?_eq_some h
      rfl
    · cases h
  | succ k ih =>
    obtain ⟨before, target, hbefore, -, hstage⟩ := stage?_succ_eq_some h
    obtain ⟨response, -, rfl⟩ := stageAt?_eq_some hstage
    rw [List.length_append, ih hbefore, List.length_singleton]

/-- The counter of a stage is its number, as long as this fits into a byte. -/
theorem hops_of_stage? (h : world.stage? assertion k = some stage) (hk : k < 256) :
    stage.hops.toNat = k := by
  induction k generalizing stage with
  | zero =>
    unfold stage? at h
    split at h
    · obtain ⟨response, -, rfl⟩ := stageAt?_eq_some h
      rfl
    · cases h
  | succ k ih =>
    obtain ⟨before, target, hbefore, -, hstage⟩ := stage?_succ_eq_some h
    obtain ⟨response, -, rfl⟩ := stageAt?_eq_some hstage
    have hhops := ih hbefore (by omega)
    have hone : (1 : UInt8).toNat = 1 := rfl
    dsimp only
    rw [UInt8.toNat_add, hhops, hone]
    omega

/-- Every stage before another one redirects. -/
theorem redirects_of_stage? {j : Nat} (h : world.stage? assertion k = some stage) (hj : j < k) :
    ∃ before, world.stage? assertion j = some before ∧ before.Redirects := by
  induction k generalizing stage with
  | zero => omega
  | succ k ih =>
    obtain ⟨before, target, hbefore, htarget, -⟩ := stage?_succ_eq_some h
    by_cases hlast : j = k
    · subst hlast
      exact ⟨before, hbefore, target, htarget⟩
    · exact ih hbefore (by omega)

/-! ## A run along the chain -/

/-- What becomes of a run from a stage on, when at most `limit` redirects are followed. -/
def goOn (world : Surroundings) (options : Exchange.Options) (limit : UInt8) (stage : Stage) :
    Except Failure Response × List Sent :=
  (Assertion.follow world.client options stage.hops.toNat (limit.toNat - stage.hops.toNat)
    stage.place.host stage.place.port stage.place.request stage.response).run stage.sent

/-- Below the bound, the counter does not wrap around. -/
theorem toNat_add_one {hops limit : UInt8} (h : hops < limit) :
    (hops + 1).toNat = hops.toNat + 1 := by
  have hlt := UInt8.lt_iff_toNat_lt.1 h
  have hbound := limit.toNat_lt
  have hone : (1 : UInt8).toNat = 1 := rfl
  rw [UInt8.toNat_add, hone]
  omega

/-- One turn of the loop: it ends at a response that leads nowhere, or nowhere that can be followed,
or at the bound; otherwise it makes one exchange and goes on. -/
theorem goOn_eq (world : Surroundings) (options : Exchange.Options) {limit : UInt8} {stage : Stage}
    (hlimit : stage.hops ≤ limit) :
    world.goOn options limit stage =
      match stage.next? with
      | none => (.ok stage.response, stage.sent)
      | some (.error error) => (.error error.toFailure, stage.sent)
      | some (.ok target) =>
        if stage.hops = limit then (.error (Assertion.gaveUp limit.toNat target), stage.sent)
        else
          match world.received (stage.sent ++ [.of options target]) with
          | .error failure => (.error failure, stage.sent ++ [.of options target])
          | .ok response =>
            world.goOn options limit
              ⟨stage.hops + 1, target, response, stage.sent ++ [.of options target]⟩ := by
  rw [goOn, run_follow, ← Stage.next?]
  cases stage.next? with
  | none => rfl
  | some next =>
    cases next with
    | error error => rfl
    | ok target =>
      by_cases hhops : stage.hops = limit
      · rw [hhops, Nat.sub_self]
        simp only [if_true]
      · have hlt := UInt8.lt_iff_le_and_ne.2 ⟨hlimit, hhops⟩
        have hnat := UInt8.lt_iff_toNat_lt.1 hlt
        obtain ⟨left, hleft⟩ : ∃ left, limit.toNat - stage.hops.toNat = left + 1 :=
          ⟨limit.toNat - stage.hops.toNat - 1, by omega⟩
        have hrest : limit.toNat - (stage.hops.toNat + 1) = left := by omega
        simp only [hleft, if_neg hhops, goOn, toNat_add_one hlt, hrest]
        cases world.received (stage.sent ++ [.of options target]) <;> rfl

/-- A run that follows redirects passes through the stages of the chain, up to the bound. -/
theorem finalResponse_eq_goOn {request : Request} (hprepare : assertion.prepare = .ok request)
    (hfollow : assertion.expectations.followRedirects = true)
    (hstage : world.stage? assertion k = some stage)
    (hk : k ≤ assertion.configuration.maxRedirects.toNat) :
    world.finalResponse assertion request =
      world.goOn assertion.options assertion.configuration.maxRedirects stage := by
  induction k generalizing stage with
  | zero =>
    rw [stage?_zero hprepare] at hstage
    obtain ⟨response, hreceived, rfl⟩ := stageAt?_eq_some hstage
    rw [List.nil_append] at hreceived
    rw [finalResponse_eq, hreceived]
    dsimp only
    rw [if_pos hfollow]
    rfl
  | succ k ih =>
    obtain ⟨before, target, hbefore, htarget, hnext⟩ := stage?_succ_eq_some hstage
    obtain ⟨response, hreceived, rfl⟩ := stageAt?_eq_some hnext
    have hbound := assertion.configuration.maxRedirects.toNat_lt
    have hhops := hops_of_stage? hbefore (by omega)
    have hle : before.hops ≤ assertion.configuration.maxRedirects := by
      rw [UInt8.le_iff_toNat_le]
      omega
    have hne : before.hops ≠ assertion.configuration.maxRedirects := by
      intro heq
      rw [heq] at hhops
      omega
    rw [ih hbefore (by omega), goOn_eq world assertion.options hle, htarget]
    simp only [if_neg hne, hreceived]

/-! ## How a run ends -/

/-- How a run that follows at most `limit` redirects ends, with what and after which requests. -/
inductive Ends (world : Surroundings) (assertion : Assertion) (limit : Nat) :
    Except Failure Response × List Sent → Prop where
  /-- A response leads nowhere. -/
  | arrives {k : Nat} {stage : Stage} (hk : k ≤ limit)
      (hstage : world.stage? assertion k = some stage) (hnext : stage.next? = none) :
      Ends world assertion limit (.ok stage.response, stage.sent)
  /-- A response leads to a place where no request can be sent. -/
  | strays {k : Nat} {stage : Stage} {error : RedirectError} (hk : k ≤ limit)
      (hstage : world.stage? assertion k = some stage) (hnext : stage.next? = some (.error error)) :
      Ends world assertion limit (.error error.toFailure, stage.sent)
  /-- The response at the bound leads on. -/
  | givesUp {stage : Stage} {target : RedirectTarget}
      (hstage : world.stage? assertion limit = some stage)
      (hnext : stage.next? = some (.ok target)) :
      Ends world assertion limit (.error (Assertion.gaveUp limit target), stage.sent)
  /-- There is no response to a request. -/
  | fails {k : Nat} {sent : List Sent} {failure : Failure} (hk : k ≤ limit)
      (hstage : world.stage? assertion k = none) (hsent : sent.length = k + 1)
      (hfailure : world.received sent = .error failure) :
      Ends world assertion limit (.error failure, sent)

/-- From every stage up to the bound, a run ends in one of the four ways. -/
theorem ends_goOn {limit : UInt8} (hstage : world.stage? assertion k = some stage)
    (hk : k ≤ limit.toNat) :
    world.Ends assertion limit.toNat (world.goOn assertion.options limit stage) := by
  have hbound := limit.toNat_lt
  induction hleft : limit.toNat - k using Nat.strongRecOn generalizing k stage with
  | _ left ih =>
    have hhops := hops_of_stage? hstage (by omega)
    have hle : stage.hops ≤ limit := by
      rw [UInt8.le_iff_toNat_le]
      omega
    rw [goOn_eq world assertion.options hle]
    cases hnext : stage.next? with
    | none => exact .arrives hk hstage hnext
    | some next =>
      cases next with
      | error error => exact .strays hk hstage hnext
      | ok target =>
        dsimp only
        by_cases hlast : stage.hops = limit
        · rw [if_pos hlast]
          rw [← hhops, hlast] at hstage
          exact .givesUp hstage hnext
        · have hlt : k < limit.toNat := by
            have hne : stage.hops.toNat ≠ limit.toNat := fun heq => hlast (UInt8.toNat_inj.1 heq)
            omega
          rw [if_neg hlast]
          have hchain : world.stage? assertion (k + 1) =
              world.stageAt? assertion.options (stage.hops + 1) target stage.sent := by
            rw [stage?, hstage, Option.bind_some, nextStage?, hnext]
          rw [stageAt?] at hchain
          cases hreceived : world.received (stage.sent ++ [.of assertion.options target]) with
          | error failure =>
            rw [hreceived] at hchain
            have hsent : (stage.sent ++ [Sent.of assertion.options target]).length = k + 1 + 1 := by
              rw [List.length_append, length_sent_of_stage? hstage, List.length_singleton]
            exact .fails hlt hchain hsent hreceived
          | ok response =>
            rw [hreceived] at hchain
            exact ih (limit.toNat - (k + 1)) (by omega) hchain hlt rfl

/-- Every run that follows redirects ends in one of the four ways. -/
theorem ends_finalResponse {request : Request} (hprepare : assertion.prepare = .ok request)
    (hfollow : assertion.expectations.followRedirects = true) :
    world.Ends assertion assertion.configuration.maxRedirects.toNat
      (world.finalResponse assertion request) := by
  cases hfirst : world.stage? assertion 0 with
  | none =>
    cases hreceived : world.received [.of assertion.options (assertion.start request)] with
    | error failure =>
      rw [finalResponse_eq, hreceived]
      exact .fails (Nat.zero_le _) hfirst rfl hreceived
    | ok response =>
      rw [stage?_zero hprepare, stageAt?, List.nil_append, hreceived] at hfirst
      cases hfirst
  | some stage =>
    rw [finalResponse_eq_goOn hprepare hfollow hfirst (Nat.zero_le _)]
    exact ends_goOn hfirst (Nat.zero_le _)

/-! ## Giving up -/

/-- The failure of a chain that does not end is no other failure of following redirects. -/
theorem toFailure_ne_gaveUp (error : RedirectError) (hops : Nat) (target : RedirectTarget) :
    error.toFailure ≠ Assertion.gaveUp hops target := by
  intro h
  have hhead := congrArg (fun failure : Failure => failure.message.head?) h
  cases error with
  | invalidLocation location error => exact absurd (Option.some.inj hhead) (by decide)
  | secureLocation location => exact absurd (Option.some.inj hhead) (by decide)

/-- A response that is not received is not told as a chain that was given up. -/
theorem ne_gaveUp_of_received {sent : List Sent} {failure : Failure}
    (h : world.received sent = .error failure) (hops : Nat) (target : RedirectTarget) :
    failure ≠ Assertion.gaveUp hops target := by
  rintro rfl
  rcases kind_of_received world h with ⟨fault, hkind⟩ | ⟨fault, hkind⟩ <;> cases hkind

/-- A run that follows redirects makes no more exchanges than there are stages up to the bound. -/
theorem Ends.length_le {limit : Nat} {ending : Except Failure Response × List Sent}
    (h : world.Ends assertion limit ending) : ending.2.length ≤ limit + 1 := by
  cases h with
  | arrives hk hstage =>
    have hlength := length_sent_of_stage? hstage
    dsimp only
    omega
  | strays hk hstage =>
    have hlength := length_sent_of_stage? hstage
    dsimp only
    omega
  | givesUp hstage => exact Nat.le_of_eq (length_sent_of_stage? hstage)
  | fails hk _ hsent =>
    dsimp only
    omega

/-- A run that follows redirects makes at least one exchange. -/
theorem Ends.length_pos {limit : Nat} {ending : Except Failure Response × List Sent}
    (h : world.Ends assertion limit ending) : 0 < ending.2.length := by
  cases h with
  | arrives hk hstage =>
    rw [length_sent_of_stage? hstage]
    exact Nat.succ_pos _
  | strays hk hstage =>
    rw [length_sent_of_stage? hstage]
    exact Nat.succ_pos _
  | givesUp hstage =>
    rw [length_sent_of_stage? hstage]
    exact Nat.succ_pos _
  | fails hk _ hsent =>
    rw [hsent]
    exact Nat.succ_pos _

/-- A run gives up when all stages up to the bound redirect, and only then. -/
theorem Ends.gaveUp_iff {limit : Nat} {ending : Except Failure Response × List Sent}
    (h : world.Ends assertion limit ending) :
    (∃ hops target, ending.1 = .error (Assertion.gaveUp hops target)) ↔
      ∀ k ≤ limit, ∃ stage, world.stage? assertion k = some stage ∧ stage.Redirects := by
  cases h with
  | @arrives k stage hk hstage hnext =>
    constructor
    · rintro ⟨hops, target, heq⟩
      cases heq
    · intro hall
      obtain ⟨other, hother, target, htarget⟩ := hall k hk
      rw [hstage] at hother
      cases hother
      rw [hnext] at htarget
      cases htarget
  | @strays k stage error hk hstage hnext =>
    constructor
    · rintro ⟨hops, target, heq⟩
      exact absurd (Except.error.inj heq) (toFailure_ne_gaveUp error hops target)
    · intro hall
      obtain ⟨other, hother, target, htarget⟩ := hall k hk
      rw [hstage] at hother
      cases hother
      rw [hnext] at htarget
      cases htarget
  | @givesUp stage target hstage hnext =>
    refine iff_of_true ⟨limit, target, rfl⟩ ?_
    intro k hk
    by_cases hlast : k = limit
    · subst hlast
      exact ⟨stage, hstage, target, hnext⟩
    · exact redirects_of_stage? hstage (by omega)
  | @fails k sent failure hk hstage hsent hfailure =>
    constructor
    · rintro ⟨hops, target, heq⟩
      exact absurd (Except.error.inj heq) (ne_gaveUp_of_received hfailure hops target)
    · intro hall
      obtain ⟨other, hother, -⟩ := hall k hk
      rw [hstage] at hother
      cases hother

/-! ## The whole run -/

/-- A run that does not follow redirects makes one exchange. -/
theorem length_finalResponse_of_not_follow {request : Request}
    (hfollow : assertion.expectations.followRedirects = false) :
    (world.finalResponse assertion request).2.length = 1 := by
  rw [finalResponse_eq]
  cases world.received [.of assertion.options (assertion.start request)] with
  | error failure => rfl
  | ok response =>
    dsimp only
    rw [hfollow]
    rfl

/-- There is one exchange more than redirects that are followed. -/
theorem length_execute_le (world : Surroundings) (assertion : Assertion) :
    (world.execute assertion).2.length ≤
      (if assertion.expectations.followRedirects then
        assertion.configuration.maxRedirects.toNat else 0) + 1 := by
  cases hprepare : assertion.prepare with
  | error failure =>
    rw [execute_of_error world hprepare]
    exact Nat.zero_le _
  | ok request =>
    rw [execute_of_ok world hprepare]
    cases hfollow : assertion.expectations.followRedirects with
    | false => exact Nat.le_of_eq (length_finalResponse_of_not_follow hfollow)
    | true => exact (ends_finalResponse hprepare hfollow).length_le

/-- There is a stage only when there is a request. -/
theorem exists_prepare_of_stage? (h : world.stage? assertion k = some stage) :
    ∃ request, assertion.prepare = .ok request := by
  induction k generalizing stage with
  | zero =>
    unfold stage? at h
    split at h
    · rename_i request hprepare
      exact ⟨request, hprepare⟩
    · cases h
  | succ k ih =>
    obtain ⟨before, _, hbefore, -⟩ := stage?_succ_eq_some h
    exact ih hbefore

/-- A run that does not follow redirects does not give up, however it fails. -/
theorem ne_gaveUp_of_not_follow {request : Request}
    (hfollow : assertion.expectations.followRedirects = false) (hops : Nat)
    (target : RedirectTarget) :
    (world.finalResponse assertion request).1 ≠ .error (Assertion.gaveUp hops target) := by
  rw [finalResponse_eq]
  cases hreceived : world.received [.of assertion.options (assertion.start request)] with
  | error failure =>
    intro heq
    exact ne_gaveUp_of_received hreceived hops target (Except.error.inj heq)
  | ok response =>
    dsimp only
    rw [hfollow]
    intro heq
    cases heq

/-- A run gives up exactly when it follows redirects and every response up to the bound leads on. -/
theorem execute_gaveUp_iff (world : Surroundings) (assertion : Assertion) :
    (∃ hops target, (world.execute assertion).1 = .error (Assertion.gaveUp hops target)) ↔
      assertion.expectations.followRedirects = true ∧
        ∀ k ≤ assertion.configuration.maxRedirects.toNat,
          ∃ stage, world.stage? assertion k = some stage ∧ stage.Redirects := by
  cases hprepare : assertion.prepare with
  | error failure =>
    rw [execute_of_error world hprepare]
    constructor
    · rintro ⟨hops, target, heq⟩
      have hkind := kind_of_prepare hprepare
      rw [Except.error.inj heq] at hkind
      cases hkind
    · rintro ⟨-, hall⟩
      obtain ⟨stage, hstage, -⟩ := hall 0 (Nat.zero_le _)
      obtain ⟨request, hok⟩ := exists_prepare_of_stage? hstage
      rw [hprepare] at hok
      cases hok
  | ok request =>
    rw [execute_of_ok world hprepare]
    simp only [judged_eq_error_iff]
    cases hfollow : assertion.expectations.followRedirects with
    | false =>
      simp only [ne_gaveUp_of_not_follow hfollow, exists_false, Bool.false_eq_true, false_and]
    | true =>
      rw [(ends_finalResponse hprepare hfollow).gaveUp_iff]
      exact (and_iff_right rfl).symm

/-- A run of which redirects are followed judges the first response that leads nowhere, when there
is one up to the bound. -/
theorem execute_of_next?_eq_none (hfollow : assertion.expectations.followRedirects = true)
    (hk : k ≤ assertion.configuration.maxRedirects.toNat)
    (hstage : world.stage? assertion k = some stage) (hnext : stage.next? = none) :
    world.execute assertion = (world.judged assertion (.ok stage.response), stage.sent) := by
  obtain ⟨request, hprepare⟩ := exists_prepare_of_stage? hstage
  have hbound := assertion.configuration.maxRedirects.toNat_lt
  have hle : stage.hops ≤ assertion.configuration.maxRedirects := by
    rw [UInt8.le_iff_toNat_le, hops_of_stage? hstage (by omega)]
    exact hk
  rw [execute_of_ok world hprepare, finalResponse_eq_goOn hprepare hfollow hstage hk,
    goOn_eq world assertion.options hle, hnext]

/-- Following redirects ends, at the latest after as many redirects as the configuration allows.
There is at most one exchange more than that, and only one when redirects are not followed.  At
every stage that a run comes to, its counter is the number of redirects that were followed, and at
most the bound.  A run gives up exactly when redirects are followed and all responses up to the
bound lead on; if one of them leads nowhere, it is the one that is judged. -/
theorem execute_follows_up_to_bound (world : Surroundings) (assertion : Assertion) :
    let limit := assertion.configuration.maxRedirects
    let follows := assertion.expectations.followRedirects
    let outcome := (world.execute assertion).1
    let sent := (world.execute assertion).2
    sent.length ≤ limit.toNat + 1 ∧
      (follows = false → sent.length ≤ 1) ∧
      (∀ k stage, world.stage? assertion k = some stage → k < sent.length →
        stage.hops.toNat = k ∧ stage.hops ≤ limit ∧
          (follows = true → ∃ request, assertion.prepare = .ok request ∧
            world.finalResponse assertion request =
              world.goOn assertion.options limit stage)) ∧
      ((∃ hops target, outcome = .error (Assertion.gaveUp hops target)) ↔
        follows = true ∧ ∀ k ≤ limit.toNat,
          ∃ stage, world.stage? assertion k = some stage ∧ stage.Redirects) ∧
      (follows = true → ∀ k ≤ limit.toNat, ∀ stage, world.stage? assertion k = some stage →
        stage.next? = none →
          outcome = world.judged assertion (.ok stage.response) ∧ sent = stage.sent) := by
  intro limit follows outcome sent
  have hlength := length_execute_le world assertion
  have hbound : sent.length ≤ limit.toNat + 1 := by
    refine Nat.le_trans hlength (Nat.succ_le_succ ?_)
    split
    · exact Nat.le_refl _
    · exact Nat.zero_le _
  refine ⟨hbound, ?_, ?_, execute_gaveUp_iff world assertion, ?_⟩
  · intro hfollow
    rwa [show assertion.expectations.followRedirects = false from hfollow] at hlength
  · intro k stage hstage hk
    have hlimit := limit.toNat_lt
    have hhops := hops_of_stage? hstage (by omega)
    refine ⟨hhops, ?_, ?_⟩
    · rw [UInt8.le_iff_toNat_le]
      omega
    · intro hfollow
      obtain ⟨request, hprepare⟩ := exists_prepare_of_stage? hstage
      have hk' : k ≤ limit.toNat := by omega
      exact ⟨request, hprepare, finalResponse_eq_goOn hprepare hfollow hstage hk'⟩
  · intro hfollow k hk stage hstage hnext
    have hrun := execute_of_next?_eq_none hfollow hk hstage hnext
    exact ⟨congrArg Prod.fst hrun, congrArg Prod.snd hrun⟩

/-- A server that redirects everything to one place. -/
def circling : Surroundings where
  answer _ := .ok (Utf8.encode "HTTP/1.1 302 Found\r\nLocation: /again\r\n\r\n".toList)
  file _ := .error (.plain "No such file or directory")

/-- An assertion that follows two redirects. -/
def followingTwo : Assertion where
  id := "circle".toList
  configuration := { maxRedirects := 2 }
  source := some (.text "GET / HTTP/1.1\r\nHost: localhost\r\n\r\n".toList)
  expectations := { followRedirects := true }

example : (circling.execute followingTwo).2.map (·.request.target) =
      ["/".toList, "/again".toList, "/again".toList] ∧
    (match (circling.execute followingTwo).1 with
      | .error failure => failure.describe
      | .ok _ => []) =
        ("RedirectError: Gave up after 2 redirects, last Location led to " ++
          "localhost:8080/again").toList := by
  decide +kernel

end Surroundings

end HttpConformance

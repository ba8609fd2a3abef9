import VaultLocator.Proofs.Trail.Account

/-!
# How failures are entered

An access that fails ends in an entry that tells of it, and so does a search whose query is
rejected. A search whose query passes can only fail with the vault, and then nothing is entered: it
is the one kind of failure that the trail does not know of. `VaultLocator.Request.FailureTrail`
lists the trails that failed requests leave, and the list is complete
(`VaultLocator.Gateway.failureTrail_serve`).

`VaultLocator.Gateway.failure_entered` counts the entries that tell of a failure. There is none
after a search that the vault has failed, and exactly one, the last, after every other failed
request. That a search may fail without a trace, when a locator that is resolved in the same vault
leaves one, is `VaultLocator.Gateway.search_outage_not_entered`.
-/

namespace VaultLocator

open Screening (checkSearchQuery)

/-! ### Entries of a failure -/

/-- Whether an entry tells of a failure: of a denial, or of what should not have failed. -/
def AuditEntry.tellsOfFailure (entry : AuditEntry) : Bool :=
  entry.kind == .denied || entry.kind == .failure

/-- The entries of a trail that tell of a failure. -/
def failuresIn (trail : List AuditEntry) : List AuditEntry :=
  trail.filter AuditEntry.tellsOfFailure

namespace Request

/-- **The trails that failed requests leave**, by the error. -/
inductive FailureTrail (service : String) : Request → Error → List AuditEntry → Prop
  /-- An access leaves the entry that it began with and the entry of its error. -/
  | access {request : Request} {e : Error} {closing : AuditEntry} : request.IsAccess →
      request.ClosedBy service (.error e : Except Error Answer) closing →
      FailureTrail service request e [request.opening service, closing]
  /-- A search whose query is rejected leaves a denial with the reason. -/
  | rejected {query : String} {reason : Rejection} : checkSearchQuery query = .error reason →
      FailureTrail service (.search query) (.rejected reason)
        [.denied service (Request.search query).target reason.message]
  /-- A search that the vault has failed leaves nothing. -/
  | withheld {query : String} {e : VaultError} : checkSearchQuery query = .ok () →
      FailureTrail service (.search query) (.vault e) []

variable {service : String} {request : Request} {e : Error}

/-- An access that has failed is closed by an entry that tells so. -/
theorem ClosedBy.tellsOfFailure {closing : AuditEntry}
    (h : request.ClosedBy service (.error e : Except Error Answer) closing) :
    closing.tellsOfFailure = true := by
  cases h <;> rfl

/-- The entry that an access begins with tells of no failure. -/
theorem tellsOfFailure_opening : (request.opening service).tellsOfFailure = false := rfl

end Request

namespace Gateway

variable {σ : Type} {g : Gateway σ} {state : σ} {request : Request} {e : Error}

/-- **Every failed request leaves one of the trails**, if a trail is kept. -/
theorem failureTrail_serve (haudits : g.settings.audits = true)
    (h : (g.serve request state).result = .error e) :
    request.FailureTrail g.settings.service e (g.serve request state).trail := by
  by_cases haccess : request.IsAccess
  · obtain ⟨closing, htrail, hclosed⟩ := (accountedFor_serve haudits haccess state).entries
    rw [h] at hclosed
    rw [htrail]
    exact .access haccess hclosed
  · cases request with
    | value | record | fields => exact absurd trivial haccess
    | search query =>
      have hresult : (g.search query state).result = .error e := Result.map_eq_error_iff.mp h
      change Request.FailureTrail g.settings.service (.search query) e (g.search query state).trail
      have hcourse := course_search g query state
      generalize g.search query state = outcome at hcourse hresult ⊢
      cases hcourse with
      | rejected hscreen =>
        cases hresult
        simp only [kept, haudits, if_true]
        exact .rejected hscreen
      | withheld hscreen =>
        cases hresult
        exact .withheld hscreen
      | searched => cases hresult

/-- **How failures are entered**, whatever the vault is. A failed request leaves one of the trails
of failures. No entry tells of the failure if and only if the request is a search that the vault has
failed; otherwise exactly one does, and it is the last of the trail. A search leaves no other
entries. -/
theorem failure_entered (g : Gateway σ) (haudits : g.settings.audits = true) (request : Request)
    (state : σ) (e : Error) (h : (g.serve request state).result = .error e) :
    let trail := (g.serve request state).trail
    request.FailureTrail g.settings.service e trail ∧
      (failuresIn trail = [] ↔ ∃ query cause, request = .search query ∧ e = .vault cause) ∧
      (failuresIn trail ≠ [] → ∃ before entry, trail = before ++ [entry] ∧
        failuresIn trail = [entry]) ∧
      ∀ query, request = .search query → failuresIn trail = trail := by
  intro trail
  have htrail : request.FailureTrail g.settings.service e trail := failureTrail_serve haudits h
  refine ⟨htrail, ?_⟩
  generalize trail = entries at htrail
  cases htrail with
  | @access _ _ closing haccess hclosed =>
    have hfailures : failuresIn [request.opening g.settings.service, closing] = [closing] := by
      rw [failuresIn, List.filter_cons_of_neg (by simp [Request.tellsOfFailure_opening]),
        List.filter_cons_of_pos hclosed.tellsOfFailure, List.filter_nil]
    rw [hfailures]
    refine ⟨iff_of_false (List.cons_ne_nil _ _) ?_, fun _ => ⟨[_], closing, rfl, rfl⟩, ?_⟩
    · rintro ⟨query, cause, rfl, -⟩
      exact haccess
    · rintro query rfl
      exact haccess.elim
  | rejected =>
    refine ⟨iff_of_false (List.cons_ne_nil _ _) ?_, fun _ => ⟨[], _, rfl, rfl⟩, fun _ _ => rfl⟩
    rintro ⟨query, cause, -, ⟨⟩⟩
  | withheld =>
    exact ⟨iff_of_true rfl ⟨_, _, rfl, rfl⟩, fun hne => absurd rfl hne, fun _ _ => rfl⟩

/-- With a vault that is out of reach a locator cannot be resolved, and the trail ends with that. A
search whose query is rejected leaves one denial and nothing else, and of a search whose query
passes no entry tells. -/
theorem failure_entered_outage :
    let g : Gateway (List String) := ⟨sampleVault (some (.unavailable "out of reach")), {}⟩
    let access := g.serve (.value "Production Admin/field/url" false) []
    let rejected := g.serve (.search "admin; id") []
    let withheld := g.serve (.search "admin") []
    g.settings.audits = true ∧
      (access.result = .error (.vault (.unavailable "out of reach")) ∧
        ∃ before entry, access.trail = before ++ [entry] ∧ failuresIn access.trail = [entry]) ∧
      (rejected.result = .error (.rejected (.commandInjection .searchQuery)) ∧
        ∃ entry, entry.kind = .denied ∧ rejected.trail = [entry] ∧
          failuresIn rejected.trail = [entry]) ∧
      withheld.result = .error (.vault (.unavailable "out of reach")) ∧
        failuresIn withheld.trail = [] := by
  intro g access rejected withheld
  have haccess : access.result = .error (.vault (.unavailable "out of reach")) := rfl
  have hrejected : rejected.result = .error (.rejected (.commandInjection .searchQuery)) := rfl
  have hwithheld : withheld.result = .error (.vault (.unavailable "out of reach")) := rfl
  refine ⟨rfl, ⟨haccess, ?_⟩, ⟨hrejected, ?_⟩, hwithheld, ?_⟩
  · obtain ⟨-, hnone, hone, -⟩ := failure_entered g rfl _ [] _ haccess
    refine hone fun hnil => ?_
    obtain ⟨query, cause, ⟨⟩, -⟩ := hnone.mp hnil
  · obtain ⟨htrail, -, -, hall⟩ := failure_entered g rfl _ [] _ hrejected
    have hfailures : failuresIn rejected.trail = rejected.trail := hall _ rfl
    rw [hfailures]
    change Request.FailureTrail _ _ _ rejected.trail at htrail
    generalize rejected.trail = trail at htrail
    cases htrail with
    | access hisAccess => exact hisAccess.elim
    | rejected => exact ⟨_, rfl, rfl, rfl⟩
  · obtain ⟨-, hnone, -, -⟩ := failure_entered g rfl _ [] _ hwithheld
    exact hnone.mpr ⟨_, _, rfl, rfl⟩

/-- **A failure that is not entered**: a search in the same vault fails for the same reason and
leaves no trace, although a trail is kept. -/
theorem search_outage_not_entered :
    let g : Gateway (List String) := ⟨sampleVault (some (.unavailable "out of reach")), {}⟩
    g.settings.audits = true ∧
      (g.search "admin" []).result = .error (.vault (.unavailable "out of reach")) ∧
      (g.search "admin" []).trail = [] :=
  ⟨rfl, rfl, rfl⟩

end Gateway

end VaultLocator

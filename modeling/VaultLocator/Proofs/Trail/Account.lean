import Mathlib.Data.List.Forall2
import VaultLocator.Proofs.Resolution.Errors

/-!
# The account of an access

Of an access the trail keeps two entries: that it was asked for, and how it ended. They are written
out here in full, by the request (`VaultLocator.Request.opening`) and by its result
(`VaultLocator.Request.ClosedBy`), and an outcome is accounted for
(`VaultLocator.Request.AccountedFor`) if its trail is made of these two. That the errors which are
entered as denials are no others than those listed takes that no error with its place inside the
gateway leaves it.

Whoever receives the entries has after a session what was there before and the trails of the
requests in order, by induction on the session (`VaultLocator.Gateway.sinkAfter_eq`).
-/

namespace VaultLocator

/-! ### Two entries for an access -/

namespace Request

/-- The text by which a request says what it is about. -/
def input : Request → String
  | .value text _ | .record text _ | .fields text _ _ | .search text => text

/-- Whether a request asks for secrets in clear. -/
def unmasks : Request → Bool
  | .value _ unmask | .record _ unmask | .fields _ _ unmask => unmask
  | .search _ => false

/-- What a request is about, as entries of the trail show it: at most 256 characters of it. -/
def target (request : Request) : String :=
  String.ofList (request.input.toList.take 256)

/-- How many names there are, which is told of a request for fields alone. -/
def nameCount? : Request → Option Nat
  | .fields _ names _ => some names.length
  | _ => none

/-- **The entry that an access begins with.** -/
def opening (service : String) (request : Request) : AuditEntry :=
  ⟨.attempt, .info, "Secret access requested", service,
    .ofList (("target", request.target) ::
      request.nameCount?.toList.map fun count => ("fields", Text.decimal count))⟩

end Request

/-- The errors that are entered as denials. -/
inductive Error.Denies : Error → Prop
  | rejected (reason : Rejection) : Denies (.rejected reason)
  | recordNotFound (reference : String) : Denies (.recordNotFound reference)
  | fieldNotFound (what : String) : Denies (.fieldNotFound what)

namespace Request

/-- **The entry that an access ends with**, by its result. -/
inductive ClosedBy {α : Type} (service : String) (request : Request) :
    Except Error α → AuditEntry → Prop
  | granted (a : α) :
      ClosedBy service request (.ok a)
        ⟨.granted, .info, "Secret access granted", service,
          .ofList [("target", request.target),
            ("unmasked", if request.unmasks then "true" else "false")]⟩
  | denied {e : Error} : e.Denies →
      ClosedBy service request (.error e)
        ⟨.denied, .warn, "Secret access denied", service,
          .ofList [("target", request.target), ("reason", e.message)]⟩
  | failed {e : Error} : ¬e.Denies →
      ClosedBy service request (.error e) ⟨.failure, .error, e.message, service, .empty⟩

/-- **An access is accounted for** by exactly two entries; the second tells how it ended. -/
structure AccountedFor {σ α : Type} (service : String) (request : Request)
    (outcome : Outcome σ α) : Prop where
  entries : ∃ closing, outcome.trail = [request.opening service, closing] ∧
    ClosedBy service request outcome.result closing
  granted_iff : (∃ entry ∈ outcome.trail, entry.kind = .granted) ↔ ∃ a, outcome.result = .ok a
  denied_iff : (∃ entry ∈ outcome.trail, entry.kind = .denied) ↔
    ∃ e, outcome.result = .error e ∧ e.Denies

section Entries

variable {σ α : Type} {service : String} {request : Request} {result : Except Error α}
  {entry : AuditEntry}

theorem ClosedBy.granted_iff (h : ClosedBy service request result entry) :
    entry.kind = .granted ↔ ∃ a, result = .ok a := by
  cases h with
  | granted a => exact iff_of_true rfl ⟨a, rfl⟩
  | denied | failed => exact iff_of_false AuditKind.noConfusion fun ⟨_, h⟩ => nomatch h

theorem ClosedBy.denied_iff (h : ClosedBy service request result entry) :
    entry.kind = .denied ↔ ∃ e, result = .error e ∧ e.Denies := by
  cases h with
  | granted a => exact iff_of_false AuditKind.noConfusion fun ⟨_, h, _⟩ => nomatch h
  | denied hdenies => exact iff_of_true rfl ⟨_, rfl, hdenies⟩
  | failed hdenies =>
    refine iff_of_false AuditKind.noConfusion ?_
    rintro ⟨e, ⟨⟩, h⟩
    exact hdenies h

/-- Two entries account for an access. -/
theorem accountedFor_of_closedBy {outcome : Outcome σ α} {closing : AuditEntry}
    (htrail : outcome.trail = [request.opening service, closing])
    (hclose : ClosedBy service request outcome.result closing) :
    AccountedFor service request outcome := by
  have hopen : (request.opening service).kind = .attempt := rfl
  refine ⟨⟨closing, htrail, hclose⟩, ?_, ?_⟩
  · simp [htrail, hopen, hclose.granted_iff]
  · simp [htrail, hopen, hclose.denied_iff]

end Entries

end Request

namespace Gateway

variable {σ α : Type} {g : Gateway σ}

/-! ### A single access -/

/-- Of the errors that leave a gateway, those are entered as denials that should be. -/
theorem isDenial_iff {e : Error} (h : e.isInternal = false) : isDenial e = true ↔ e.Denies := by
  cases e with
  | rejected reason => exact iff_of_true rfl (.rejected reason)
  | recordNotFound reference => exact iff_of_true rfl (.recordNotFound reference)
  | fieldNotFound what => exact iff_of_true rfl (.fieldNotFound what)
  | grammar | ambiguousRecord | unsupportedShape => cases h
  | vault | fault => exact iff_of_false Bool.false_ne_true fun h => nomatch h

/-- The entry that a gateway ends an access with. -/
theorem closedBy_resultEntry {request : Request} {result : Except Error α}
    (h : ∀ e, result = .error e → e.isInternal = false) :
    request.ClosedBy g.settings.service result
      (g.resultEntry request.target request.unmasks result) := by
  cases result with
  | ok a => exact .granted a
  | error e =>
    rw [resultEntry]
    split
    · next hdenial => exact .denied ((isDenial_iff (h e rfl)).mp hdenial)
    · next hdenial => exact .failed fun hdenies => hdenial ((isDenial_iff (h e rfl)).mpr hdenies)

/-- The result of an access is entered as it is, whatever kind of answer it is turned into. -/
theorem resultEntry_map {β : Type} (f : α → β) (target : String) (unmask : Bool)
    (result : Except Error α) :
    g.resultEntry target unmask (result.map f) = g.resultEntry target unmask result := by
  cases result <;> rfl

/-- **The trail of an access**, if it is kept: the entry it begins with, and that of its result. -/
theorem trail_serve {request : Request} (haccess : request.IsAccess) (state : σ) :
    (g.serve request state).trail =
      g.kept [request.opening g.settings.service,
        g.resultEntry request.target request.unmasks (g.serve request state).result] := by
  -- The entry is made of the result before it becomes an answer, which is the same to it.
  cases request with
  | value text unmask =>
    have hentry := resultEntry_map (g := g) Answer.value (targetOf text) unmask
      (g.resolve text unmask state).result
    exact congrArg (fun entry => g.kept [_, entry]) hentry.symm
  | record uid unmask =>
    have hentry := resultEntry_map (g := g) Answer.record (targetOf uid) unmask
      (g.readRecord uid unmask state).result
    exact congrArg (fun entry => g.kept [_, entry]) hentry.symm
  | fields uid names unmask =>
    have hentry := resultEntry_map (g := g) Answer.fields (targetOf uid) unmask
      (g.readFields uid names unmask state).result
    exact congrArg (fun entry => g.kept [_, entry]) hentry.symm
  | search query => exact haccess.elim

/-- **Every access is accounted for**, if a trail is kept. -/
theorem accountedFor_serve (haudits : g.settings.audits = true) {request : Request}
    (haccess : request.IsAccess) (state : σ) :
    request.AccountedFor g.settings.service (g.serve request state) := by
  have htrail := trail_serve (g := g) haccess state
  rw [kept, if_pos haudits] at htrail
  exact Request.accountedFor_of_closedBy htrail (closedBy_resultEntry fun e he =>
    (mayFail_serve g request state he).isInternal_eq_false)

/-! ### Sessions -/

/-- What a receiver of the entries has after a session, that had some before it. -/
def sinkAfter (g : Gateway σ) : List Request → σ → List AuditEntry → List AuditEntry
  | [], _, sink => sink
  | request :: rest, state, sink =>
    let outcome := g.serve request state
    g.sinkAfter rest outcome.state (sink ++ outcome.trail)

/-- **After a session** the receiver has the trails of the requests in order. -/
theorem sinkAfter_eq (g : Gateway σ) (requests : List Request) (state : σ)
    (sink : List AuditEntry) :
    g.sinkAfter requests state sink =
      sink ++ ((g.serveAll requests state).map Outcome.trail).flatten := by
  induction requests generalizing state sink with
  | nil => exact (List.append_nil sink).symm
  | cons request rest ih =>
    rw [sinkAfter, ih, serveAll, List.map_cons, List.flatten_cons, List.append_assoc]

theorem accountedFor_serveAll (haudits : g.settings.audits = true) {requests : List Request}
    (haccess : ∀ request ∈ requests, request.IsAccess) (state : σ) :
    List.Forall₂ (fun request outcome => request.AccountedFor g.settings.service outcome) requests
      (g.serveAll requests state) := by
  induction requests generalizing state with
  | nil => exact .nil
  | cons request rest ih =>
    obtain ⟨hrequest, hrest⟩ := List.forall_mem_cons.mp haccess
    exact .cons (accountedFor_serve haudits hrequest state) (ih hrest _)

/-- A gateway that keeps no trail passes nothing on. -/
theorem trail_serve_of_not_audits (haudits : g.settings.audits = false) (request : Request)
    (state : σ) : (g.serve request state).trail = [] := by
  have hkept (entries : List AuditEntry) : g.kept entries = [] := by simp [kept, haudits]
  cases request with
  | search query =>
    have hcourse := course_search g query state
    change (g.search query state).trail = []
    generalize g.search query state = outcome at hcourse ⊢
    cases hcourse with
    | withheld => rfl
    | rejected | searched => exact hkept _
  | value | record | fields => exact hkept _

theorem sinkAfter_of_not_audits (haudits : g.settings.audits = false) (requests : List Request)
    (state : σ) (sink : List AuditEntry) : g.sinkAfter requests state sink = sink := by
  induction requests generalizing state sink with
  | nil => rfl
  | cons request rest ih =>
    rw [sinkAfter, ih, trail_serve_of_not_audits haudits, List.append_nil]

/-! ### With and without a trail -/

/-- A search finds the same in the same vault, whatever the settings are. -/
theorem search_congr (g g' : Gateway σ) (h : g.vault = g'.vault) (query : String) (state : σ) :
    (g'.search query state).result = (g.search query state).result ∧
      (g'.search query state).state = (g.search query state).state := by
  have hcourse := course_search g query state
  generalize g.search query state = outcome at hcourse ⊢
  cases hcourse with
  | rejected hscreen =>
    have hcourse' : SearchCourse g' query state _ := .rejected hscreen
    rw [hcourse'.eq]
    exact ⟨rfl, rfl⟩
  | withheld hscreen hreply =>
    have hcourse' : SearchCourse g' query state _ := .withheld hscreen (h ▸ hreply)
    rw [hcourse'.eq]
    exact ⟨rfl, rfl⟩
  | searched hscreen hreply =>
    have hcourse' : SearchCourse g' query state _ := .searched hscreen (h ▸ hreply)
    rw [hcourse'.eq]
    exact ⟨rfl, rfl⟩

section Settings

variable (vault : Vault σ) (settings : AccessSettings) (audits : Bool)

/-- Whether a trail is kept has no influence on what a request is answered with. -/
theorem serve_audits (request : Request) (state : σ) :
    let outcome := serve ⟨vault, settings⟩ request state
    let outcome' := serve ⟨vault, { settings with audits := audits }⟩ request state
    outcome'.result = outcome.result ∧ outcome'.state = outcome.state := by
  cases request with
  | search query =>
    obtain ⟨hresult, hstate⟩ := search_congr ⟨vault, settings⟩
      ⟨vault, { settings with audits := audits }⟩ rfl query state
    exact ⟨congrArg (Except.map Answer.hits) hresult, hstate⟩
  | value | record | fields => exact ⟨rfl, rfl⟩

theorem serveAll_audits (requests : List Request) (state : σ) :
    (serveAll ⟨vault, { settings with audits := audits }⟩ requests state).map
        (fun outcome => (outcome.result, outcome.state)) =
      (serveAll ⟨vault, settings⟩ requests state).map
        fun outcome => (outcome.result, outcome.state) := by
  induction requests generalizing state with
  | nil => rfl
  | cons request rest ih =>
    obtain ⟨hresult, hstate⟩ := serve_audits vault settings audits request state
    rw [serveAll, serveAll, List.map_cons, List.map_cons, hresult, hstate, ih]

end Settings

/-! ### All together -/

/-- **The trail accounts for every access** of a session, whatever the vault is.

- If a trail is kept, every access is accounted for by two entries, and whoever receives them has
  those of all accesses in order.
- If none is kept, nothing is received.
- The results are the same in either case, and so are the states of the vault. -/
theorem trail_accounts (vault : Vault σ) (settings : AccessSettings) (requests : List Request)
    (haccess : ∀ request ∈ requests, request.IsAccess) (state : σ) (sink : List AuditEntry) :
    let g : Gateway σ := ⟨vault, settings⟩
    let outcomes := g.serveAll requests state
    (settings.audits = true →
      List.Forall₂ (fun request outcome => request.AccountedFor settings.service outcome) requests
          outcomes ∧
        g.sinkAfter requests state sink = sink ++ (outcomes.map Outcome.trail).flatten) ∧
    (settings.audits = false → g.sinkAfter requests state sink = sink) ∧
    ∀ audits,
      (serveAll ⟨vault, { settings with audits := audits }⟩ requests state).map
          (fun outcome => (outcome.result, outcome.state)) =
        outcomes.map fun outcome => (outcome.result, outcome.state) := by
  intro g outcomes
  refine ⟨fun haudits => ?_, fun haudits => ?_, fun audits => ?_⟩
  · exact ⟨accountedFor_serveAll (g := g) haudits haccess state, g.sinkAfter_eq requests state sink⟩
  · exact sinkAfter_of_not_audits haudits requests state sink
  · exact serveAll_audits vault settings audits requests state

/-- What a session with the sample records leaves: two accesses are granted, one asks for a record
that is not there, and one is rejected. -/
theorem trail_accounts_samples :
    let requests : List Request :=
      [.value "Shared Login/field/password" true,
        .fields "NJ_xXSkk3xYI1h9ql5lAiQ" ["login", "url"] false,
        .record "Zz9000000000000000000Z" false, .value "../field/url" true]
    let g : Gateway (List String) := ⟨sampleVault none, {}⟩
    List.Forall₂ (fun request outcome => request.AccountedFor "ksm-notation" outcome) requests
        (g.serveAll requests []) ∧
      (g.sinkAfter requests [] []).map AuditEntry.kind =
        [.attempt, .granted, .attempt, .granted, .attempt, .denied, .attempt, .denied] := by
  intro requests g
  have haccess : ∀ request ∈ requests, request.IsAccess := by
    simp [requests, Request.IsAccess]
  obtain ⟨hkept, -, -⟩ := trail_accounts (sampleVault none) {} requests haccess [] []
  obtain ⟨haccounted, hsink⟩ := hkept rfl
  refine ⟨haccounted, ?_⟩
  rw [hsink]
  rfl

end Gateway

end VaultLocator

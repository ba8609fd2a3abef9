import VaultLocator.Proofs.Extraction.Place
import VaultLocator.Proofs.Resolution.Course
import VaultLocator.Proofs.Resolution.VaultAccess

/-!
# The errors that leave a gateway

Several errors have their place inside a gateway alone (`VaultLocator.Error.isInternal`): that a
reference is ambiguous is a reason to turn to the records, that the values of a field have not its
shape becomes the absence of the field, and that a text is no locator is found out by its screening.
None of them leaves it: `VaultLocator.Request.MayFail` lists what a request may end with, and the
list is complete for every vault (`VaultLocator.Gateway.mayFail_serve`).

To say which reply of the vault an error goes back to, the vault is made to keep its replies
(`VaultLocator.Vault.recording`). That changes nothing of what it replies, so a gateway runs on a
recording vault as it runs on the vault itself, and after a request the last of the replies decides
whether the request is worth repeating (`VaultLocator.Gateway.recorded_serve`).
-/

namespace VaultLocator

open Screening (checkUid)

/-! ### The errors of a request -/

/-- Whether an error has its place inside a gateway alone. -/
def Error.isInternal : Error → Bool
  | .ambiguousRecord _ | .unsupportedShape _ | .grammar _ => true
  | _ => false

/-- A request for a value or a record, rather than a search. -/
def Request.IsAccess : Request → Prop
  | .search _ => False
  | _ => True

/-- **The errors that a request may end with.** -/
inductive Request.MayFail : Request → Error → Prop
  /-- A text of the request does not pass its screening. -/
  | rejected {request : Request} {reason : Rejection} : request.Rejected reason →
      MayFail request (.rejected reason)
  | recordNotFound {request : Request} (reference : String) : request.IsAccess →
      MayFail request (.recordNotFound reference)
  /-- Only a locator leads to a place at which there may be nothing. -/
  | fieldNotFound {locator : String} {unmask : Bool} (what : String) :
      MayFail (.value locator unmask) (.fieldNotFound what)
  | vault {request : Request} (e : VaultError) : MayFail request (.vault e)

namespace Request.MayFail

variable {request : Request} {e : Error}

theorem isInternal_eq_false (h : request.MayFail e) : e.isInternal = false := by
  cases h <;> rfl

/-- A refused lookup ends a request with one of its errors, unless it was ambiguous. -/
theorem ofLookup {e : VaultError} (h : ∀ reference, e ≠ .ambiguous reference) (locator : String)
    (unmask : Bool) : (Request.value locator unmask).MayFail (.ofLookup e) := by
  cases e with
  | ambiguous reference => exact absurd rfl (h reference)
  | recordNotFound reference => exact .recordNotFound reference trivial
  | notFound what => exact .fieldNotFound what
  | unavailable detail => exact .vault _
  | backend detail => exact .vault _

end Request.MayFail

theorem Extraction.ReportsOnly.mayFail {α : Type} {place : String → Prop}
    {result : Except Error α} {e : Error} (h : ReportsOnly place result) (he : result = .error e)
    (locator : String) (unmask : Bool) : (Request.value locator unmask).MayFail e := by
  obtain ⟨what, -, rfl⟩ := h e he
  exact .fieldNotFound what

namespace Gateway

variable {σ : Type} {e : Error}

theorem mayFail_resolveText (g : Gateway σ) (text : String) (unmask : Bool) (state : σ)
    (he : (g.resolveText text unmask state).1 = .error e) :
    (Request.value text unmask).MayFail e := by
  have hcourse := course_resolveText g text unmask state
  generalize g.resolveText text unmask state = answer at hcourse he
  cases hcourse with
  | rejected hscreen =>
    cases he
    exact .rejected (.value hscreen)
  | found => exact (Extraction.reportsOnly_valueFound _ _ unmask).mayFail he text unmask
  | refused _ _ _ hambiguous =>
    cases he
    exact .ofLookup hambiguous text unmask
  | withheld =>
    cases he
    exact .vault _
  | unselected =>
    cases he
    exact .recordNotFound _ trivial
  | selected => exact (Extraction.reportsOnly_valueAt _ _ _ unmask).mayFail he text unmask

theorem mayFail_recordWithUid (g : Gateway σ) (uid : String) (state : σ) {request : Request}
    (haccess : request.IsAccess) (hrejected : ∀ reason, checkUid uid = .error reason →
      request.Rejected reason) (he : (g.recordWithUid uid state).1 = .error e) :
    request.MayFail e := by
  have hcourse := course_recordWithUid g uid state
  generalize g.recordWithUid uid state = answer at hcourse he
  cases hcourse with
  | rejected hscreen =>
    cases he
    exact .rejected (hrejected _ hscreen)
  | withheld =>
    cases he
    exact .vault _
  | unselected =>
    cases he
    exact .recordNotFound uid haccess
  | selected => cases he

theorem mayFail_search (g : Gateway σ) (query : String) (state : σ)
    (he : (g.search query state).result = .error e) : (Request.search query).MayFail e := by
  have hcourse := course_search g query state
  generalize g.search query state = outcome at hcourse he
  cases hcourse with
  | rejected hscreen =>
    cases he
    exact .rejected (.search hscreen)
  | withheld =>
    cases he
    exact .vault _
  | searched => cases he

/-- **A request ends with no other error than those it may end with**, whatever the vault is. -/
theorem mayFail_serve (g : Gateway σ) (request : Request) (state : σ)
    (he : (g.serve request state).result = .error e) : request.MayFail e := by
  cases request with
  | value text unmask =>
    exact mayFail_resolveText g text unmask state (Result.map_eq_error_iff.mp he)
  | record uid unmask =>
    have hfetch := Result.map_eq_error_iff.mp (Result.map_eq_error_iff.mp he)
    exact mayFail_recordWithUid g uid state trivial (fun _ => .record) hfetch
  | fields uid names unmask =>
    -- The names are screened before the record is looked for.
    have hvalues : (g.valuesOf uid names unmask state).1 = .error e := Result.map_eq_error_iff.mp he
    rw [valuesOf] at hvalues
    rcases checkNames_cases names with ⟨hnames, -⟩ | ⟨reason, hnames, name, hmem, hname⟩
    · rw [hnames] at hvalues
      exact mayFail_recordWithUid g uid state trivial (fun _ => .fieldsUid)
        (Result.map_eq_error_iff.mp hvalues)
    · rw [hnames] at hvalues
      cases hvalues
      exact .rejected (.fieldsName hmem hname)
  | search query => exact mayFail_search g query state (Result.map_eq_error_iff.mp he)

end Gateway

/-! ### Vaults that keep their replies -/

/-- What is kept of a reply: whether it is an error, and which. -/
abbrev Reply := Except VaultError Unit

namespace Vault

variable {σ α : Type}

/-- Adds a reply to those that were kept. -/
def keep (replies : List Reply) (reply : Except VaultError α × σ) :
    Except VaultError α × (σ × List Reply) :=
  (reply.1, reply.2, replies ++ [reply.1.map fun _ => ()])

/-- What an operation of the vault that keeps its replies comes to. -/
theorem keep_of_eq {answer : Except VaultError α × σ} {reply : Except VaultError α} {state : σ}
    (h : answer = (reply, state)) (replies : List Reply) :
    keep replies answer = (reply, state, replies ++ [reply.map fun _ => ()]) := by
  rw [h, keep]

/-- **A vault that keeps its replies**, in its state and in order. Otherwise it is the vault that it
is made of. -/
def recording (vault : Vault σ) : Vault (σ × List Reply) :=
  { withUids := fun uids state => keep state.2 (vault.withUids uids state.1)
    everything := fun state => keep state.2 (vault.everything state.1)
    lookup := fun text state => keep state.2 (vault.lookup text state.1) }

end Vault

namespace Gateway

variable {σ α β : Type} {g : Gateway σ}

/-- A gateway to the vault that keeps its replies. -/
def recording (g : Gateway σ) : Gateway (σ × List Reply) :=
  ⟨g.vault.recording, g.settings⟩

/-! ### The reply that ends a request -/

/-- **The last of some replies decides on a result**: it is worth another try exactly if that reply
was that the vault is out of reach. -/
def EndedBy (result : Except Error α) (replies : List Reply) : Prop :=
  (∃ e, result = .error e ∧ e.isRetryable = true) ↔
    ∃ detail, replies.getLast? = some (.error (.unavailable detail))

/-- The second answer is the first one with the replies that led to it. -/
def Recorded (answer : Except Error α × σ) (recorded : Except Error α × (σ × List Reply)) : Prop :=
  ∃ replies, recorded = (answer.1, answer.2, replies) ∧ EndedBy answer.1 replies

section EndedBy

variable {result : Except Error α} {replies : List Reply}

theorem endedBy_map (f : α → β) : EndedBy (result.map f) replies ↔ EndedBy result replies := by
  simp only [EndedBy, Result.map_eq_error_iff]

/-- A result that is not worth another try, after a last reply that is no failure to reach the
vault. -/
theorem endedBy_of_not (hresult : ∀ e, result = .error e → e.isRetryable = false)
    (hreplies : ∀ detail, replies.getLast? ≠ some (.error (.unavailable detail))) :
    EndedBy result replies := by
  refine iff_of_false ?_ (not_exists.mpr hreplies)
  rintro ⟨e, he, hretry⟩
  rw [hresult e he] at hretry
  cases hretry

/-- After a reply that is no failure, a result is not worth another try. -/
theorem endedBy_reply (hresult : ∀ e, result = .error e → e.isRetryable = false) :
    EndedBy result (replies ++ [.ok ()]) := by
  refine endedBy_of_not hresult fun detail hlast => ?_
  rw [List.getLast?_concat] at hlast
  cases hlast

theorem endedBy_ok (a : α) : EndedBy (.ok a : Except Error α) (replies ++ [.ok ()]) :=
  endedBy_reply fun _ he => nomatch he

theorem endedBy_recordNotFound (reference : String) :
    EndedBy (.error (.recordNotFound reference) : Except Error α) (replies ++ [.ok ()]) := by
  refine endedBy_reply fun e he => ?_
  cases he
  rfl

theorem endedBy_of_reportsOnly {place : String → Prop}
    (h : Extraction.ReportsOnly place result) : EndedBy result (replies ++ [.ok ()]) := by
  refine endedBy_reply fun e he => ?_
  obtain ⟨what, -, rfl⟩ := h e he
  rfl

theorem endedBy_rejected (reason : Rejection) :
    EndedBy (.error (.rejected reason) : Except Error α) [] := by
  refine endedBy_of_not (fun e he => ?_) fun detail hlast => nomatch hlast
  cases he
  rfl

/-- The failure of a vault is passed on. -/
theorem endedBy_vault (e : VaultError) :
    EndedBy (.error (.vault e) : Except Error α) (replies ++ [.error e]) := by
  rw [EndedBy, List.getLast?_concat]
  constructor
  · rintro ⟨_, ⟨⟩, hretry⟩
    cases e with
    | unavailable detail => exact ⟨detail, rfl⟩
    | _ => cases hretry
  · rintro ⟨detail, ⟨⟩⟩
    exact ⟨_, rfl, rfl⟩

/-- So is the failure of a lookup, if under another name. -/
theorem endedBy_ofLookup (e : VaultError) :
    EndedBy (.error (.ofLookup e) : Except Error α) (replies ++ [.error e]) := by
  have hretry : (Error.ofLookup e).isRetryable = (Error.vault e).isRetryable := by
    cases e <;> rfl
  have hvault : EndedBy (.error (.vault e) : Except Error α) (replies ++ [.error e]) :=
    endedBy_vault e
  simpa only [EndedBy, Except.error.injEq, exists_eq_left', hretry] using hvault

end EndedBy

/-! ### Running on a recording vault -/

section Recording

variable {text : String} {l : Locator} {state state' : σ}

/-- Turning to all records, a gateway keeps no reply or that the reference was ambiguous. -/
theorem TurnsToRecords.recording (h : g.TurnsToRecords text l state state') :
    ∃ replies, g.recording.TurnsToRecords text l (state, []) (state', replies) := by
  cases h with
  | file hkind => exact ⟨[], .file hkind⟩
  | ambiguous hkind hlookup => exact ⟨_, .ambiguous hkind (Vault.keep_of_eq hlookup [])⟩

theorem recorded_resolveText (g : Gateway σ) (text : String) (unmask : Bool) (state : σ) :
    Recorded (g.resolveText text unmask state)
      (g.recording.resolveText text unmask (state, [])) := by
  have hcourse := course_resolveText g text unmask state
  generalize g.resolveText text unmask state = answer at hcourse ⊢
  -- The recording vault replies the same, so its gateway takes the same course.
  cases hcourse with
  | rejected hscreen => exact ⟨[], ResolveCourse.eq (.rejected hscreen), endedBy_rejected _⟩
  | found h hkind hlookup =>
    have hkept := Vault.keep_of_eq hlookup []
    exact ⟨_, ResolveCourse.eq (.found h hkind hkept),
      endedBy_of_reportsOnly (Extraction.reportsOnly_valueFound _ _ unmask)⟩
  | refused h hkind hlookup hambiguous =>
    have hkept := Vault.keep_of_eq hlookup []
    exact ⟨_, ResolveCourse.eq (.refused h hkind hkept hambiguous), endedBy_ofLookup _⟩
  | withheld h hturns hreply =>
    obtain ⟨replies, hturns⟩ := hturns.recording
    have hkept := Vault.keep_of_eq hreply replies
    exact ⟨_, ResolveCourse.eq (.withheld h hturns hkept), endedBy_vault _⟩
  | unselected h hturns hreply hselect =>
    obtain ⟨replies, hturns⟩ := hturns.recording
    have hkept := Vault.keep_of_eq hreply replies
    exact ⟨_, ResolveCourse.eq (.unselected h hturns hkept hselect), endedBy_recordNotFound _⟩
  | selected h hturns hreply hselect =>
    obtain ⟨replies, hturns⟩ := hturns.recording
    have hkept := Vault.keep_of_eq hreply replies
    exact ⟨_, ResolveCourse.eq (.selected h hturns hkept hselect),
      endedBy_of_reportsOnly (Extraction.reportsOnly_valueAt _ _ _ unmask)⟩

theorem recorded_recordWithUid (g : Gateway σ) (uid : String) (state : σ) :
    Recorded (g.recordWithUid uid state) (g.recording.recordWithUid uid (state, [])) := by
  have hcourse := course_recordWithUid g uid state
  generalize g.recordWithUid uid state = answer at hcourse ⊢
  cases hcourse with
  | rejected hscreen => exact ⟨[], FetchCourse.eq (.rejected hscreen), endedBy_rejected _⟩
  | withheld hscreen hreply =>
    have hkept := Vault.keep_of_eq hreply []
    exact ⟨_, FetchCourse.eq (.withheld hscreen hkept), endedBy_vault _⟩
  | unselected hscreen hreply hselect =>
    have hkept := Vault.keep_of_eq hreply []
    exact ⟨_, FetchCourse.eq (.unselected hscreen hkept hselect), endedBy_recordNotFound _⟩
  | selected hscreen hreply hselect =>
    have hkept := Vault.keep_of_eq hreply []
    exact ⟨_, FetchCourse.eq (.selected hscreen hkept hselect), endedBy_ok _⟩

theorem Recorded.map {answer : Except Error α × σ}
    {recorded : Except Error α × (σ × List Reply)} (h : Recorded answer recorded) (f : α → β) :
    Recorded (answer.1.map f, answer.2) (recorded.1.map f, recorded.2) := by
  obtain ⟨replies, rfl, hended⟩ := h
  exact ⟨replies, rfl, (endedBy_map f).mpr hended⟩

theorem recorded_valuesOf (g : Gateway σ) (uid : String) (names : List String) (unmask : Bool)
    (state : σ) :
    Recorded (g.valuesOf uid names unmask state)
      (g.recording.valuesOf uid names unmask (state, [])) := by
  rw [valuesOf, valuesOf]
  cases checkNames names with
  | error reason => exact ⟨[], rfl, endedBy_rejected reason⟩
  | ok => exact (recorded_recordWithUid g uid state).map _

/-- The second outcome is the first one with the replies that led to it. -/
def RecordedOutcome (outcome : Outcome σ α) (recorded : Outcome (σ × List Reply) α) : Prop :=
  ∃ replies, recorded = ⟨outcome.result, outcome.trail, (outcome.state, replies)⟩ ∧
    EndedBy outcome.result replies

theorem Recorded.audited {answer : Except Error α × σ}
    {recorded : Except Error α × (σ × List Reply)} (h : Recorded answer recorded)
    (attempt : AuditEntry) (target : String) (unmask : Bool) :
    RecordedOutcome (g.audited attempt target unmask answer)
      (g.recording.audited attempt target unmask recorded) := by
  obtain ⟨replies, rfl, hended⟩ := h
  exact ⟨replies, rfl, hended⟩

theorem RecordedOutcome.answering {outcome : Outcome σ α}
    {recorded : Outcome (σ × List Reply) α} (h : RecordedOutcome outcome recorded)
    (answer : α → Answer) :
    RecordedOutcome (Gateway.answering answer outcome) (Gateway.answering answer recorded) := by
  obtain ⟨replies, rfl, hended⟩ := h
  exact ⟨replies, rfl, (endedBy_map answer).mpr hended⟩

theorem recorded_search (g : Gateway σ) (query : String) (state : σ) :
    RecordedOutcome (g.search query state) (g.recording.search query (state, [])) := by
  have hcourse := course_search g query state
  generalize g.search query state = outcome at hcourse ⊢
  cases hcourse with
  | rejected hscreen => exact ⟨[], SearchCourse.eq (.rejected hscreen), endedBy_rejected _⟩
  | withheld hscreen hreply =>
    have hkept := Vault.keep_of_eq hreply []
    exact ⟨_, SearchCourse.eq (.withheld hscreen hkept), endedBy_vault _⟩
  | searched hscreen hreply =>
    have hkept := Vault.keep_of_eq hreply []
    exact ⟨_, SearchCourse.eq (.searched hscreen hkept), endedBy_ok _⟩

/-- **Keeping the replies changes nothing**, and the last of them decides whether a request is worth
another try. -/
theorem recorded_serve (g : Gateway σ) (request : Request) (state : σ) :
    RecordedOutcome (g.serve request state) (g.recording.serve request (state, [])) := by
  cases request with
  | value text unmask =>
    exact ((recorded_resolveText g text unmask state).audited _ _ unmask).answering _
  | record uid unmask =>
    exact (((recorded_recordWithUid g uid state).map _).audited _ _ unmask).answering _
  | fields uid names unmask =>
    exact ((recorded_valuesOf g uid names unmask state).audited _ _ unmask).answering _
  | search query => exact (recorded_search g query state).answering _

end Recording

/-! ### All together -/

/-- **The errors of a gateway are closed**, whatever the settings, the vault and the request.

- A request ends with no other error than those it may end with, and with none that has its place
  inside the gateway.
- It runs alike on the vault that keeps its replies; and it ends with an error that is worth another
  try exactly if the last of the replies was that the vault is out of reach. -/
theorem serve_error_closed (settings : AccessSettings) (vault : Vault σ) (request : Request)
    (state : σ) :
    let outcome := serve ⟨vault, settings⟩ request state
    (∀ e, outcome.result = .error e → request.MayFail e ∧ e.isInternal = false) ∧
      ∃ replies,
        serve ⟨vault.recording, settings⟩ request (state, []) =
            ⟨outcome.result, outcome.trail, (outcome.state, replies)⟩ ∧
          ((∃ e, outcome.result = .error e ∧ e.isRetryable = true) ↔
            ∃ detail, replies.getLast? = some (.error (.unavailable detail))) := by
  intro outcome
  refine ⟨fun e he => ?_, recorded_serve ⟨vault, settings⟩ request state⟩
  have hmay := mayFail_serve ⟨vault, settings⟩ request state he
  exact ⟨hmay, hmay.isInternal_eq_false⟩

/-- That a shared title is ambiguous stays inside the gateway, which reports that there is no such
field. If the vault is out of reach, this is its last reply, and the request is worth another
try. -/
theorem serve_error_closed_samples :
    let request : Request := .value "Shared Login/field/pinCode" false
    let outOfReach := sampleVault (some (.unavailable "out of reach"))
    request.MayFail (.fieldNotFound "pinCode") ∧
      ∃ detail, (serve ⟨outOfReach.recording, {}⟩ request ([], [])).state.2.getLast? =
        some (.error (.unavailable detail)) := by
  intro request outOfReach
  have habsent : (serve ⟨sampleVault none, {}⟩ request []).result =
      .error (.fieldNotFound "pinCode") := rfl
  have hunavailable : (serve ⟨outOfReach, {}⟩ request []).result =
      .error (.vault (.unavailable "out of reach")) := rfl
  obtain ⟨hclosed, -⟩ := serve_error_closed {} (sampleVault none) request []
  obtain ⟨-, replies, hrun, hended⟩ := serve_error_closed {} outOfReach request []
  refine ⟨(hclosed _ habsent).1, ?_⟩
  rw [hrun]
  exact hended.mp ⟨_, hunavailable, rfl⟩

end Gateway

end VaultLocator

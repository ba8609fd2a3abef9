import VaultLocator.Gateway
import VaultLocator.Samples
import VaultLocator.Vault.InMemory

/-!
# What a gateway asks of its vault

Whatever a gateway is asked, it screens it before the vault hears of it. A request that screening
rejects (`VaultLocator.Request.Rejected`) is answered and entered in the audit trail in the same
way whatever the vault is, and leaves the vault in its state. A request that passes is answered from
as little of the vault as it takes: a locator of a file from the records, and a locator of a field
from the native lookup alone unless this is refused as ambiguous.

So of a vault that keeps a log of its lookups (`VaultLocator.Vault.KeepsLog`) it can be said what is
in the log after a session: a single request adds the text that it has looked up
(`VaultLocator.Request.lookup?`), if there is one, and that at most once; and by induction a session
adds these texts in order. `VaultLocator.Gateway.screening_guards_vault` puts all this together.
-/

namespace VaultLocator

open Screening (checkUid checkLocator checkSearchQuery checkTitle)

/-! ### Screening requests -/

/-- **A request is rejected for a reason** if one of its texts does not pass the screening for its
purpose, for this reason. -/
inductive Request.Rejected : Request → Rejection → Prop
  | value {locator : String} {unmask : Bool} {reason : Rejection} :
      checkLocator locator = .error reason → Rejected (.value locator unmask) reason
  | record {uid : String} {unmask : Bool} {reason : Rejection} :
      checkUid uid = .error reason → Rejected (.record uid unmask) reason
  | fieldsUid {uid : String} {names : List String} {unmask : Bool} {reason : Rejection} :
      checkUid uid = .error reason → Rejected (.fields uid names unmask) reason
  | fieldsName {uid name : String} {names : List String} {unmask : Bool} {reason : Rejection} :
      name ∈ names → checkTitle name = .error reason → Rejected (.fields uid names unmask) reason
  | search {query : String} {reason : Rejection} :
      checkSearchQuery query = .error reason → Rejected (.search query) reason

/-- The text that a request has looked up natively: a locator that passes its screening and leads
to a field. -/
def Request.lookup? : Request → Option String
  | .value text _ =>
    match checkLocator text, Locator.parse text with
    | .ok (), .ok l => if l.kind = .file then none else some text
    | _, _ => none
  | .record .. | .fields .. | .search _ => none

namespace Gateway

variable {σ : Type}

/-- Names are screened one after the other: all of them pass, or one of them is the reason to reject
them. -/
theorem checkNames_cases (names : List String) :
    (checkNames names = .ok () ∧ ∀ name ∈ names, checkTitle name = .ok ()) ∨
      ∃ reason, checkNames names = .error reason ∧
        ∃ name ∈ names, checkTitle name = .error reason := by
  induction names with
  | nil => exact Or.inl ⟨rfl, List.forall_mem_nil _⟩
  | cons name rest ih =>
    have hcons : checkNames (name :: rest) = (checkTitle name).bind fun _ => checkNames rest := rfl
    rw [hcons]
    cases hname : checkTitle name with
    | error reason => exact Or.inr ⟨reason, rfl, name, List.mem_cons_self, hname⟩
    | ok =>
      rcases ih with ⟨hrest, hpass⟩ | ⟨reason, hrest, name', hmem, hname'⟩
      · exact Or.inl ⟨hrest, List.forall_mem_cons.mpr ⟨hname, hpass⟩⟩
      · exact Or.inr ⟨reason, hrest, name', List.mem_cons_of_mem name hmem, hname'⟩

/-- The entries of the trail when a request is rejected: that it was made, and why it was denied. A
search that is rejected is entered only once. -/
def denialEntries (settings : AccessSettings) (reason : Rejection) : Request → List AuditEntry
  | .value text _ =>
    [.attempt settings.service (targetOf text),
      .denied settings.service (targetOf text) (Error.rejected reason).message]
  | .record uid _ =>
    [.attempt settings.service (targetOf uid),
      .denied settings.service (targetOf uid) (Error.rejected reason).message]
  | .fields uid names _ =>
    [(AuditEntry.attempt settings.service (targetOf uid)).annotate "fields"
        (Text.decimal names.length),
      .denied settings.service (targetOf uid) (Error.rejected reason).message]
  | .search query => [.denied settings.service (targetOf query) reason.message]

/-- The outcome of a rejected request. No vault occurs in it. -/
def denial (settings : AccessSettings) (request : Request) (reason : Rejection) (state : σ) :
    Outcome σ Answer :=
  ⟨.error (.rejected reason),
    if settings.audits then denialEntries settings reason request else [], state⟩

/-- A uid that does not pass is not asked for. -/
theorem recordWithUid_of_rejected {uid : String} {reason : Rejection}
    (h : checkUid uid = .error reason) (g : Gateway σ) (state : σ) :
    g.recordWithUid uid state = (.error (.rejected reason), state) := by
  rw [recordWithUid, h]

theorem serve_fields_of_checkNames {names : List String} {reason : Rejection}
    (h : checkNames names = .error reason) (settings : AccessSettings) (uid : String)
    (unmask : Bool) (vault : Vault σ) (state : σ) :
    serve ⟨vault, settings⟩ (.fields uid names unmask) state =
      denial settings (.fields uid names unmask) reason state := by
  rw [serve, readFields, valuesOf, h]
  rfl

/-- **A rejected request is answered without the vault**, with one of the reasons to reject it. -/
theorem serve_of_rejected {request : Request} {reason : Rejection}
    (h : request.Rejected reason) (settings : AccessSettings) :
    ∃ reason', request.Rejected reason' ∧ ∀ {σ : Type} (vault : Vault σ) (state : σ),
      serve ⟨vault, settings⟩ request state = denial settings request reason' state := by
  cases h with
  | value h =>
    refine ⟨reason, .value h, fun vault state => ?_⟩
    rw [serve, resolve, resolveText, h]
    rfl
  | record h =>
    refine ⟨reason, .record h, fun vault state => ?_⟩
    rw [serve, readRecord, recordWithUid_of_rejected h]
    rfl
  | search h =>
    refine ⟨reason, .search h, fun vault state => ?_⟩
    rw [serve, search, h]
    rfl
  | @fieldsUid uid names unmask _ h =>
    -- The names are screened before the uid, so one of them may be the reason.
    rcases checkNames_cases names with ⟨hnames, -⟩ | ⟨reason', hnames, name, hmem, hname⟩
    · refine ⟨reason, .fieldsUid h, fun vault state => ?_⟩
      rw [serve, readFields, valuesOf, hnames, recordWithUid_of_rejected h]
      rfl
    · exact ⟨reason', .fieldsName hmem hname, serve_fields_of_checkNames hnames settings uid unmask⟩
  | @fieldsName uid name names unmask _ hmem h =>
    rcases checkNames_cases names with ⟨-, hpass⟩ | ⟨reason', hnames, name', hmem', hname'⟩
    · rw [hpass name hmem] at h
      cases h
    · exact ⟨reason', .fieldsName hmem' hname',
        serve_fields_of_checkNames hnames settings uid unmask⟩

/-! ### What resolving a locator takes -/

section Resolve

variable {vault vault' : Vault σ} {text : String} {l : Locator} {state : σ}

theorem resolve_of_parse (hscreen : checkLocator text = .ok ())
    (hparse : Locator.parse text = .ok l) (g : Gateway σ) (unmask : Bool) (state : σ) :
    g.resolve text unmask state =
      g.audited (.attempt g.settings.service (targetOf text)) (targetOf text) unmask
        (g.resolveLocator text l unmask state) := by
  rw [resolve, resolveText, hscreen, hparse]

/-- **A file is found among the records alone**: vaults that give the same records resolve a
locator of a file alike. -/
theorem resolve_file_congr (hscreen : checkLocator text = .ok ())
    (hparse : Locator.parse text = .ok l) (hkind : l.kind = .file)
    (hvault : vault.everything state = vault'.everything state) (settings : AccessSettings)
    (unmask : Bool) :
    resolve ⟨vault, settings⟩ text unmask state = resolve ⟨vault', settings⟩ text unmask state := by
  rw [resolve_of_parse hscreen hparse, resolve_of_parse hscreen hparse, resolveLocator,
    resolveLocator, if_pos hkind, if_pos hkind, resolveAmongAll, resolveAmongAll, hvault]
  rfl

/-- **A field is found by the native lookup alone**, unless this is refused as ambiguous: vaults
that look a locator of a field up alike resolve it alike. -/
theorem resolve_field_congr (hscreen : checkLocator text = .ok ())
    (hparse : Locator.parse text = .ok l) (hkind : l.kind ≠ .file)
    (hvault : vault.lookup text state = vault'.lookup text state)
    (hambiguous : ∀ reference, (vault.lookup text state).1 ≠ .error (.ambiguous reference))
    (settings : AccessSettings) (unmask : Bool) :
    resolve ⟨vault, settings⟩ text unmask state = resolve ⟨vault', settings⟩ text unmask state := by
  rw [resolve_of_parse hscreen hparse, resolve_of_parse hscreen hparse, resolveLocator,
    resolveLocator, if_neg hkind, if_neg hkind]
  simp only [← hvault]
  rcases hlookup : vault.lookup text state with ⟨e | found, state'⟩
  · cases e with
    | ambiguous reference => exact absurd (congrArg Prod.fst hlookup) (hambiguous reference)
    | _ => rfl
  · rfl

end Resolve

end Gateway

/-! ### Vaults that keep a log -/

/-- A vault keeps a log in its state: every native lookup is added to it, and nothing else changes
it. -/
structure Vault.KeepsLog {σ : Type} (vault : Vault σ) (log : σ → List String) : Prop where
  withUids : ∀ uids state, log (vault.withUids uids state).2 = log state
  everything : ∀ state, log (vault.everything state).2 = log state
  lookup : ∀ text state, log (vault.lookup text state).2 = log state ++ [text]

/-- The state of a vault in memory is its log. -/
theorem InMemoryVault.keepsLog (v : InMemoryVault) : v.toVault.KeepsLog id :=
  ⟨fun _ _ => rfl, fun _ => rfl, fun _ _ => rfl⟩

namespace Gateway

variable {σ : Type} {g : Gateway σ} {log : σ → List String}

/-! ### A single request -/

/-- Asking for all records is not logged. -/
theorem log_resolveAmongAll (h : g.vault.KeepsLog log) (l : Locator) (unmask : Bool) (state : σ) :
    log (g.resolveAmongAll l unmask state).2 = log state := by
  rw [← h.everything state, resolveAmongAll]
  rcases g.vault.everything state with ⟨_ | _, _⟩ <;> rfl

/-- Asking for the record with a uid is not logged. -/
theorem log_recordWithUid (h : g.vault.KeepsLog log) (uid : String) (state : σ) :
    log (g.recordWithUid uid state).2 = log state := by
  rw [recordWithUid]
  cases checkUid uid with
  | error reason => rfl
  | ok =>
    rw [← h.withUids [uid] state]
    rcases g.vault.withUids [uid] state with ⟨_ | records, _⟩
    · rfl
    · simp only
      split <;> rfl

/-- A locator of a field is looked up once, also when the lookup is refused. -/
theorem log_resolveLocator (h : g.vault.KeepsLog log) (text : String) {l : Locator}
    (hkind : l.kind ≠ .file) (unmask : Bool) (state : σ) :
    log (g.resolveLocator text l unmask state).2 = log state ++ [text] := by
  rw [← h.lookup text state, resolveLocator, if_neg hkind]
  rcases g.vault.lookup text state with ⟨e | found, state'⟩
  · cases e with
    | ambiguous reference => exact log_resolveAmongAll h l unmask state'
    | _ => rfl
  · rfl

/-- Resolving a text logs it if it passes its screening and leads to a field. -/
theorem log_resolveText (h : g.vault.KeepsLog log) (text : String) (unmask : Bool) (state : σ) :
    log (g.resolveText text unmask state).2 =
      log state ++ (Request.value text unmask).lookup?.toList := by
  cases hscreen : checkLocator text with
  | error reason =>
    simp only [resolveText, Request.lookup?, hscreen, Option.toList_none, List.append_nil]
  | ok =>
    cases hparse : Locator.parse text with
    | error e =>
      simp only [resolveText, Request.lookup?, hscreen, hparse, Option.toList_none, List.append_nil]
    | ok l =>
      simp only [resolveText, Request.lookup?, hscreen, hparse]
      by_cases hkind : l.kind = .file
      · rw [if_pos hkind, Option.toList_none, List.append_nil, resolveLocator, if_pos hkind,
          log_resolveAmongAll h]
      · rw [if_neg hkind, Option.toList_some, log_resolveLocator h text hkind]

/-- A search is not logged. -/
theorem log_search (h : g.vault.KeepsLog log) (query : String) (state : σ) :
    log (g.search query state).state = log state := by
  rw [search]
  cases checkSearchQuery query with
  | error reason => rfl
  | ok =>
    rw [← h.everything state]
    rcases g.vault.everything state with ⟨_ | _, _⟩ <;> rfl

/-- **A single request** adds to the log the text that it has looked up, if there is one. -/
theorem log_serve (h : g.vault.KeepsLog log) (request : Request) (state : σ) :
    log (g.serve request state).state = log state ++ request.lookup?.toList := by
  cases request with
  | value text unmask => exact log_resolveText h text unmask state
  | record uid unmask =>
    rw [Request.lookup?, Option.toList_none, List.append_nil]
    exact log_recordWithUid h uid state
  | fields uid names unmask =>
    rw [Request.lookup?, Option.toList_none, List.append_nil]
    change log (g.valuesOf uid names unmask state).2 = log state
    rw [valuesOf]
    cases checkNames names with
    | error reason => rfl
    | ok => exact log_recordWithUid h uid state
  | search query =>
    rw [Request.lookup?, Option.toList_none, List.append_nil]
    exact log_search h query state

/-! ### Sessions -/

/-- The state of the vault after a session: that of the last outcome. -/
def stateAfter (g : Gateway σ) (requests : List Request) (state : σ) : σ :=
  ((g.serveAll requests state).getLast?.map Outcome.state).getD state

theorem stateAfter_cons (g : Gateway σ) (request : Request) (rest : List Request) (state : σ) :
    g.stateAfter (request :: rest) state =
      g.stateAfter rest (g.serve request state).state := by
  rw [stateAfter, stateAfter, serveAll, List.getLast?_cons, Option.map_some, Option.getD_some]
  cases (g.serveAll rest (g.serve request state).state).getLast? <;> rfl

/-- **A session** adds to the log the texts that its requests have looked up, in order. -/
theorem log_stateAfter (h : g.vault.KeepsLog log) (requests : List Request) (state : σ) :
    log (g.stateAfter requests state) = log state ++ requests.filterMap Request.lookup? := by
  induction requests generalizing state with
  | nil => exact (List.append_nil _).symm
  | cons request rest ih =>
    rw [stateAfter_cons, ih, log_serve h, List.append_assoc, List.filterMap_cons]
    cases request.lookup? <;> rfl

/-! ### All together -/

/-- **Screening guards the vault**, whatever the settings of the gateway are.

- A rejected request has the same outcome for every vault, and leaves it in its state.
- For a locator of a file that passes, only the records count; for one of a field, only the native
  lookup, unless it is refused as ambiguous.
- After a session with a vault in memory, failing or not, the log of native lookups has grown by the
  locators of fields that passed, as they were written, each once and in order. -/
theorem screening_guards_vault (settings : AccessSettings) :
    (∀ (request : Request) (reason : Rejection), request.Rejected reason →
      ∃ reason', request.Rejected reason' ∧ ∀ {σ : Type} (vault : Vault σ) (state : σ),
        serve ⟨vault, settings⟩ request state = denial settings request reason' state) ∧
    (∀ {σ : Type} (vault vault' : Vault σ) (text : String) (l : Locator) (unmask : Bool)
        (state : σ),
      checkLocator text = .ok () → Locator.parse text = .ok l → l.kind = .file →
        vault.everything state = vault'.everything state →
        resolve ⟨vault, settings⟩ text unmask state =
          resolve ⟨vault', settings⟩ text unmask state) ∧
    (∀ {σ : Type} (vault vault' : Vault σ) (text : String) (l : Locator) (unmask : Bool)
        (state : σ),
      checkLocator text = .ok () → Locator.parse text = .ok l → l.kind ≠ .file →
        vault.lookup text state = vault'.lookup text state →
        (∀ reference, (vault.lookup text state).1 ≠ .error (.ambiguous reference)) →
        resolve ⟨vault, settings⟩ text unmask state =
          resolve ⟨vault', settings⟩ text unmask state) ∧
    ∀ (v : InMemoryVault) (requests : List Request) (calls : List String),
      stateAfter ⟨v.toVault, settings⟩ requests calls =
        calls ++ requests.filterMap Request.lookup? :=
  ⟨fun _ _ h => serve_of_rejected h settings,
    fun _ _ _ _ unmask _ hscreen hparse hkind hvault =>
      resolve_file_congr hscreen hparse hkind hvault settings unmask,
    fun _ _ _ _ unmask _ hscreen hparse hkind hvault hambiguous =>
      resolve_field_congr hscreen hparse hkind hvault hambiguous settings unmask,
    fun v requests calls => log_stateAfter (g := ⟨v.toVault, settings⟩) v.keepsLog requests calls⟩

/-- The sample records in memory. -/
def sampleVault (failure : Option VaultError) : Vault (List String) :=
  (InMemoryVault.mk Samples.all failure).toVault

/-- A locator that steps upwards is rejected by every vault. The sample records resolve a locator of
a file with any native lookup, and one of a field with any list of records. A session with a vault
that is out of reach looks up the locators of fields alone. -/
theorem screening_guards_vault_samples :
    (∃ reason, (Request.value "../field/url" true).Rejected reason ∧
        ∀ {σ : Type} (vault : Vault σ) (state : σ),
          serve ⟨vault, {}⟩ (.value "../field/url" true) state =
            denial {} (.value "../field/url" true) reason state) ∧
      (∀ lookup, resolve ⟨{ sampleVault none with lookup := lookup }, {}⟩
          "Production Admin/file/runbook.pdf" false [] =
        resolve ⟨sampleVault none, {}⟩ "Production Admin/file/runbook.pdf" false []) ∧
      (∀ everything, resolve ⟨{ sampleVault none with everything := everything }, {}⟩
          "Production Admin/field/url[1]" false [] =
        resolve ⟨sampleVault none, {}⟩ "Production Admin/field/url[1]" false []) ∧
      stateAfter ⟨sampleVault (some (.unavailable "out of reach")), {}⟩
        [.value "../field/url" true, .value "Production Admin/field/url[1]" false,
          .value "Production Admin/file/runbook.pdf" false, .search "admin",
          .value "Production Admin/custom_field/Region" true] [] =
        ["Production Admin/field/url[1]", "Production Admin/custom_field/Region"] := by
  obtain ⟨hdenied, hfile, hfield, hsession⟩ := screening_guards_vault {}
  have hfound : ∃ found,
      ((sampleVault none).lookup "Production Admin/field/url[1]" []).1 = .ok found := ⟨_, rfl⟩
  refine ⟨hdenied _ (.pathTraversal .locator) (.value rfl), fun lookup => ?_, fun everything => ?_,
    hsession _ _ _⟩
  · exact hfile _ _ _ ⟨.title "Production Admin", .file "runbook.pdf"⟩ false [] rfl rfl rfl rfl
  · refine hfield _ _ _ ⟨.title "Production Admin", .field ⟨"url", some 1, none⟩⟩ false [] rfl rfl
      (by decide) rfl fun reference hlookup => ?_
    obtain ⟨found, hfound⟩ := hfound
    exact nomatch hfound.symm.trans hlookup

end Gateway

end VaultLocator

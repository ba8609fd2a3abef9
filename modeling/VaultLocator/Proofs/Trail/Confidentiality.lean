import VaultLocator.Proofs.Extraction.Lookalike
import VaultLocator.Proofs.Resolution.Selection
import VaultLocator.Proofs.Trail.Account

/-!
# The trail tells no values

Two vaults are taken that differ in nothing but the values of fields
(`VaultLocator.Vault.SameButValues`): they report the same errors, and records and native fields
that are the same up to their values, also as they are used. Two gateways to them, of which the same
is asked, ask the same of their vaults, and come to the same error or to an extraction each
(`VaultLocator.Gateway.SameFate`). The trail of an access shows of its result no more than whether
there is one, and the error if there is none; so the trails can differ only if an extraction fails,
and then all that is shown is a place of the locator.

A search shows how many records it has found, and it finds them by their titles.
-/

namespace VaultLocator

open Locator (Admitted)

/-! ### The same but for the values -/

/-- Two fields are the same but for their values. -/
structure StoredField.SameButValues (field field' : StoredField) : Prop where
  fieldType : field.fieldType = field'.fieldType
  label : field.label = field'.label

/-- Two records are the same but for the values of their fields. -/
structure Record.SameButValues (r r' : Record) : Prop where
  uid : r.uid = r'.uid
  title : r.title = r'.title
  recordType : r.recordType = r'.recordType
  notes : r.notes = r'.notes
  fields : List.Forall₂ StoredField.SameButValues r.fields r'.fields
  custom : List.Forall₂ StoredField.SameButValues r.custom r'.custom
  files : r.files = r'.files

/-- Two native fields are the same but for their values. -/
structure FoundField.SameButValues (found found' : FoundField) : Prop where
  fieldType : found.fieldType = found'.fieldType
  label : found.label = found'.label

section Replies

variable {σ σ' α : Type}

/-- **Two vaults reply alike**: with the same error or with related contents, and their states are
related afterwards. -/
inductive SameReply (related : α → α → Prop) (R : σ → σ' → Prop) :
    Except VaultError α × σ → Except VaultError α × σ' → Prop
  | error {e : VaultError} {state : σ} {state' : σ'} : R state state' →
      SameReply related R (.error e, state) (.error e, state')
  | ok {a a' : α} {state : σ} {state' : σ'} : related a a' → R state state' →
      SameReply related R (.ok a, state) (.ok a', state')

/-- **Two vaults are the same but for the values of fields**, in related states and as they are
used. -/
structure Vault.SameButValues (vault : Vault σ) (vault' : Vault σ') (R : σ → σ' → Prop) : Prop where
  withUids : ∀ uids state state', R state state' →
    SameReply (List.Forall₂ Record.SameButValues) R (vault.withUids uids state)
      (vault'.withUids uids state')
  everything : ∀ state state', R state state' →
    SameReply (List.Forall₂ Record.SameButValues) R (vault.everything state)
      (vault'.everything state')
  lookup : ∀ text state state', R state state' →
    SameReply FoundField.SameButValues R (vault.lookup text state) (vault'.lookup text state')

variable {related : α → α → Prop} {R : σ → σ' → Prop} {reply : Except VaultError α × σ}
  {reply' : Except VaultError α × σ'} (h : SameReply related R reply reply')
include h

theorem SameReply.of_error {e : VaultError} {state : σ} (hreply : reply = (.error e, state)) :
    ∃ state', reply' = (.error e, state') ∧ R state state' := by
  cases h with
  | error hR =>
    cases hreply
    exact ⟨_, rfl, hR⟩
  | ok => cases hreply

theorem SameReply.of_ok {a : α} {state : σ} (hreply : reply = (.ok a, state)) :
    ∃ a' state', reply' = (.ok a', state') ∧ related a a' ∧ R state state' := by
  cases h with
  | error => cases hreply
  | ok hrelated hR =>
    cases hreply
    exact ⟨_, _, rfl, hrelated, hR⟩

end Replies

/-! ### Records that are the same but for their values -/

section Options

variable {α : Type} {R : α → α → Prop} {o : Option α}

theorem eq_none_of_rel (h : Option.Rel R none o) : o = none := by
  cases h
  rfl

theorem exists_eq_some_of_rel {a : α} (h : Option.Rel R (some a) o) : ∃ a', o = some a' := by
  cases h
  exact ⟨_, rfl⟩

end Options

section Records

variable {records records' : List Record}
  (h : List.Forall₂ Record.SameButValues records records')
include h

/-- The records that are selected are the same but for their values. -/
theorem rel_selectRecord? (reference : Reference) :
    Option.Rel Record.SameButValues (Gateway.selectRecord? reference records)
      (Gateway.selectRecord? reference records') := by
  refine rel_or (rel_find? (fun r r' hr => by rw [hr.uid]) h) (rel_find? (fun r r' hr => ?_) h)
  cases reference <;> simp only [Reference.names, hr.uid, hr.title]

theorem rel_find?_uid (uid : String) :
    Option.Rel Record.SameButValues (records.find? fun r => r.uid == uid)
      (records'.find? fun r => r.uid == uid) :=
  rel_find? (fun r r' hr => by rw [hr.uid]) h

/-- A search shows nothing of values. -/
theorem hits_congr (query : String) : Gateway.hits query records = Gateway.hits query records' := by
  induction h with
  | nil => rfl
  | @cons r r' rest rest' hr hrest ih =>
    have hholds : Gateway.titleHolds (Text.lowercase query.toList) r =
        Gateway.titleHolds (Text.lowercase query.toList) r' := by
      rw [Gateway.titleHolds, Gateway.titleHolds, hr.title]
    have hhit : SearchHit.ofRecord r = SearchHit.ofRecord r' := by
      rw [SearchHit.ofRecord, SearchHit.ofRecord, hr.uid, hr.title, hr.recordType]
    rw [Gateway.hits, Gateway.hits] at ih ⊢
    rw [List.filter_cons, List.filter_cons, hholds]
    split
    · rw [List.map_cons, List.map_cons, hhit, ih]
    · exact ih

end Records

namespace Gateway

variable {σ σ' α β : Type} {R : σ → σ' → Prop}

/-! ### Runs on two vaults -/

/-- **Two runs have the same fate**: they come to the same error, or each to an extraction, which
reports a place if it comes to nothing. -/
inductive SameFate (place : String → Prop) (R : σ → σ' → Prop) :
    Except Error α × σ → Except Error α × σ' → Prop
  | failed {e : Error} {state : σ} {state' : σ'} : R state state' →
      SameFate place R (.error e, state) (.error e, state')
  | extracted {result result' : Except Error α} {state : σ} {state' : σ'} :
      Extraction.ReportsOnly place result → Extraction.ReportsOnly place result' →
      R state state' → SameFate place R (result, state) (result', state')

theorem SameFate.map {place : String → Prop} {answer : Except Error α × σ}
    {answer' : Except Error α × σ'} (h : SameFate place R answer answer') (f : α → β) :
    SameFate place R (answer.1.map f, answer.2) (answer'.1.map f, answer'.2) := by
  cases h with
  | failed hR => exact .failed hR
  | extracted hresult hresult' hR =>
    exact .extracted (fun e he => hresult e (Result.map_eq_error_iff.mp he))
      (fun e he => hresult' e (Result.map_eq_error_iff.mp he)) hR

/-- The places of the locator that a text is. -/
def PlaceIn (text what : String) : Prop :=
  ∃ l, Admitted text l ∧ l.Place what

theorem reportsOnly_placeIn {text : String} {l : Locator} (h : Admitted text l)
    {result : Except Error α} (hresult : Extraction.ReportsOnly l.Place result) :
    Extraction.ReportsOnly (PlaceIn text) result := by
  intro e he
  obtain ⟨what, hwhat, rfl⟩ := hresult e he
  exact ⟨what, ⟨l, h, hwhat⟩, rfl⟩

section Runs

variable {vault : Vault σ} {vault' : Vault σ'} (h : vault.SameButValues vault' R)
  (settings : AccessSettings) {state : σ} {state' : σ'} (hR : R state state')
include h hR

theorem turnsToRecords_of_sameButValues {text : String} {l : Locator} {asked : σ}
    (hturns : TurnsToRecords ⟨vault, settings⟩ text l state asked) :
    ∃ asked', TurnsToRecords ⟨vault', settings⟩ text l state' asked' ∧ R asked asked' := by
  cases hturns with
  | file hkind => exact ⟨state', .file hkind, hR⟩
  | ambiguous hkind hlookup =>
    obtain ⟨asked', hlookup', hR'⟩ := (h.lookup text state state' hR).of_error hlookup
    exact ⟨asked', .ambiguous hkind hlookup', hR'⟩

/-- What holds of turning to records holds of being given them. -/
theorem everything_of_sameButValues {text : String} {l : Locator} {asked after : σ}
    {records : List Record} (hturns : TurnsToRecords ⟨vault, settings⟩ text l state asked)
    (hreply : vault.everything asked = (.ok records, after)) :
    ∃ asked' records' after', TurnsToRecords ⟨vault', settings⟩ text l state' asked' ∧
      vault'.everything asked' = (.ok records', after') ∧
      List.Forall₂ Record.SameButValues records records' ∧ R after after' := by
  obtain ⟨asked', hturns', hR'⟩ := turnsToRecords_of_sameButValues h settings hR hturns
  obtain ⟨records', after', hreply', hrecords, hR''⟩ := (h.everything _ _ hR').of_ok hreply
  exact ⟨asked', records', after', hturns', hreply', hrecords, hR''⟩

/-- **Resolutions have the same fate**: the course of the one is taken by the other. -/
theorem sameFate_resolveText (text : String) (unmask : Bool) :
    SameFate (PlaceIn text) R (resolveText ⟨vault, settings⟩ text unmask state)
      (resolveText ⟨vault', settings⟩ text unmask state') := by
  have hcourse := course_resolveText ⟨vault, settings⟩ text unmask state
  generalize resolveText ⟨vault, settings⟩ text unmask state = answer at hcourse ⊢
  suffices hfate : ∃ answer', ResolveCourse ⟨vault', settings⟩ text unmask state' answer' ∧
      SameFate (PlaceIn text) R answer answer' by
    obtain ⟨answer', hcourse', hfate⟩ := hfate
    rwa [hcourse'.eq]
  -- Every reply is answered by one that is the same up to values, and values have no part in which
  -- course is taken.
  cases hcourse with
  | rejected hscreen => exact ⟨_, .rejected hscreen, .failed hR⟩
  | @found l found after hadmitted hkind hlookup =>
    obtain ⟨found', after', hlookup', -, hR'⟩ := (h.lookup _ _ _ hR).of_ok hlookup
    have hreports (found : FoundField) :=
      reportsOnly_placeIn hadmitted (Extraction.reportsOnly_valueFound l found unmask)
    exact ⟨_, .found hadmitted hkind hlookup', .extracted (hreports found) (hreports found') hR'⟩
  | refused hadmitted hkind hlookup hambiguous =>
    obtain ⟨after', hlookup', hR'⟩ := (h.lookup _ _ _ hR).of_error hlookup
    exact ⟨_, .refused hadmitted hkind hlookup' hambiguous, .failed hR'⟩
  | withheld hadmitted hturns hreply =>
    obtain ⟨asked', hturns', hR'⟩ := turnsToRecords_of_sameButValues h settings hR hturns
    obtain ⟨after', hreply', hR''⟩ := (h.everything _ _ hR').of_error hreply
    exact ⟨_, .withheld hadmitted hturns' hreply', .failed hR''⟩
  | unselected hadmitted hturns hreply hselect =>
    obtain ⟨asked', records', after', hturns', hreply', hrecords, hR'⟩ :=
      everything_of_sameButValues h settings hR hturns hreply
    have hselect' := eq_none_of_rel (hselect ▸ rel_selectRecord? hrecords _)
    exact ⟨_, .unselected hadmitted hturns' hreply' hselect', .failed hR'⟩
  | @selected l asked after records r hadmitted hturns hreply hselect =>
    obtain ⟨asked', records', after', hturns', hreply', hrecords, hR'⟩ :=
      everything_of_sameButValues h settings hR hturns hreply
    obtain ⟨r', hselect'⟩ := exists_eq_some_of_rel (hselect ▸ rel_selectRecord? hrecords _)
    have hreports (r : Record) := reportsOnly_placeIn hadmitted
      (Extraction.reportsOnly_valueAt settings.strictIndex r l unmask)
    exact ⟨_, .selected hadmitted hturns' hreply' hselect',
      .extracted (hreports r) (hreports r') hR'⟩

/-- No place is reported when a record is looked for by its uid. -/
theorem sameFate_recordWithUid (uid : String) (f : Record → α) :
    let answer := recordWithUid ⟨vault, settings⟩ uid state
    let answer' := recordWithUid ⟨vault', settings⟩ uid state'
    SameFate (fun _ => False) R (answer.1.map f, answer.2) (answer'.1.map f, answer'.2) := by
  refine SameFate.map ?_ f
  have hcourse := course_recordWithUid ⟨vault, settings⟩ uid state
  generalize recordWithUid ⟨vault, settings⟩ uid state = answer at hcourse ⊢
  suffices hfate : ∃ answer', FetchCourse ⟨vault', settings⟩ uid state' answer' ∧
      SameFate (fun _ => False) R answer answer' by
    obtain ⟨answer', hcourse', hfate⟩ := hfate
    rwa [hcourse'.eq]
  cases hcourse with
  | rejected hscreen => exact ⟨_, .rejected hscreen, .failed hR⟩
  | withheld hscreen hreply =>
    obtain ⟨after', hreply', hR'⟩ := (h.withUids _ _ _ hR).of_error hreply
    exact ⟨_, .withheld hscreen hreply', .failed hR'⟩
  | unselected hscreen hreply hselect =>
    obtain ⟨records', after', hreply', hrecords, hR'⟩ := (h.withUids _ _ _ hR).of_ok hreply
    have hselect' := eq_none_of_rel (hselect ▸ rel_find?_uid hrecords uid)
    exact ⟨_, .unselected hscreen hreply' hselect', .failed hR'⟩
  | selected hscreen hreply hselect =>
    obtain ⟨records', after', hreply', hrecords, hR'⟩ := (h.withUids _ _ _ hR).of_ok hreply
    obtain ⟨r', hselect'⟩ := exists_eq_some_of_rel (hselect ▸ rel_find?_uid hrecords uid)
    exact ⟨_, .selected hscreen hreply' hselect', .extracted (Extraction.reportsOnly_ok _)
      (Extraction.reportsOnly_ok r') hR'⟩

theorem sameFate_valuesOf (uid : String) (names : List String) (unmask : Bool) :
    SameFate (fun _ => False) R (valuesOf ⟨vault, settings⟩ uid names unmask state)
      (valuesOf ⟨vault', settings⟩ uid names unmask state') := by
  rw [valuesOf, valuesOf]
  cases checkNames names with
  | error reason => exact .failed hR
  | ok => exact sameFate_recordWithUid h settings hR uid _

/-- **Accesses have the same fate.** -/
theorem sameFate_serve {request : Request} (haccess : request.IsAccess) :
    let outcome := serve ⟨vault, settings⟩ request state
    let outcome' := serve ⟨vault', settings⟩ request state'
    ∃ place,
      SameFate place R (outcome.result, outcome.state) (outcome'.result, outcome'.state) := by
  cases request with
  | value text unmask => exact ⟨_, (sameFate_resolveText h settings hR text unmask).map _⟩
  | record uid unmask => exact ⟨_, (sameFate_recordWithUid h settings hR uid _).map _⟩
  | fields uid names unmask =>
    exact ⟨_, (sameFate_valuesOf h settings hR uid names unmask).map _⟩
  | search query => exact haccess.elim

/-- **A search shows no difference at all.** -/
theorem search_of_sameButValues (query : String) :
    let outcome := search ⟨vault, settings⟩ query state
    let outcome' := search ⟨vault', settings⟩ query state'
    outcome'.result = outcome.result ∧ outcome'.trail = outcome.trail ∧
      R outcome.state outcome'.state := by
  intro outcome outcome'
  have hcourse : SearchCourse ⟨vault, settings⟩ query state outcome := course_search ..
  suffices hsame : ∃ found', SearchCourse ⟨vault', settings⟩ query state' found' ∧
      found'.result = outcome.result ∧ found'.trail = outcome.trail ∧
        R outcome.state found'.state by
    obtain ⟨found', hcourse', hsame⟩ := hsame
    rwa [← hcourse'.eq] at hsame
  clear_value outcome
  cases hcourse with
  | rejected hscreen => exact ⟨_, .rejected hscreen, rfl, rfl, hR⟩
  | withheld hscreen hreply =>
    obtain ⟨after', hreply', hR'⟩ := (h.everything _ _ hR).of_error hreply
    exact ⟨_, .withheld hscreen hreply', rfl, rfl, hR'⟩
  | searched hscreen hreply =>
    obtain ⟨records', after', hreply', hrecords, hR'⟩ := (h.everything _ _ hR).of_ok hreply
    -- The entry counts the hits, and the hits are the same.
    refine ⟨_, .searched hscreen hreply', ?_, ?_, hR'⟩
    · rw [hits_congr hrecords]
    · rw [hits_congr hrecords]
      rfl

end Runs

/-! ### What the trails show -/

theorem SameFate.error {place : String → Prop} {answer : Except Error α × σ}
    {answer' : Except Error α × σ'} (h : SameFate place R answer answer') {e : Error}
    (he : answer.1 = .error e) (hwhat : ∀ what, e ≠ .fieldNotFound what) :
    answer'.1 = .error e := by
  cases h with
  | failed => exact he
  | extracted hreports =>
    obtain ⟨what, -, rfl⟩ := hreports e he
    exact absurd rfl (hwhat what)

theorem SameFate.states {place : String → Prop} {answer : Except Error α × σ}
    {answer' : Except Error α × σ'} (h : SameFate place R answer answer') :
    R answer.2 answer'.2 := by
  cases h with
  | failed hR => exact hR
  | extracted _ _ hR => exact hR

/-- **The trails of two outcomes show no difference** if there is an answer in both, and none either
if the one is an error that is not the absence of something from a record: then the other is the
same error. -/
structure Discreet (outcome : Outcome σ α) (outcome' : Outcome σ' α) : Prop where
  success : ∀ a a', outcome.result = .ok a → outcome'.result = .ok a' →
    outcome.trail = outcome'.trail
  failure : ∀ e, outcome.result = .error e → (∀ what, e ≠ .fieldNotFound what) →
    outcome'.result = .error e ∧ outcome.trail = outcome'.trail

/-- **A single request** is served discreetly, and leaves the vaults in related states. -/
theorem discreet_serve {vault : Vault σ} {vault' : Vault σ'} (h : vault.SameButValues vault' R)
    (settings : AccessSettings) {state : σ} {state' : σ'} (hR : R state state')
    (request : Request) :
    let outcome := serve ⟨vault, settings⟩ request state
    let outcome' := serve ⟨vault', settings⟩ request state'
    Discreet outcome outcome' ∧ R outcome.state outcome'.state := by
  intro outcome outcome'
  by_cases haccess : request.IsAccess
  · obtain ⟨place, hfate⟩ := sameFate_serve h settings hR haccess
    have htrail : outcome.trail = _ := trail_serve haccess state
    have htrail' : outcome'.trail = _ := trail_serve haccess state'
    refine ⟨⟨fun a a' ha ha' => ?_, fun e he hwhat => ?_⟩, hfate.states⟩
    · rw [htrail, htrail', ha, ha']
      rfl
    · have he' : outcome'.result = .error e := hfate.error he hwhat
      refine ⟨he', ?_⟩
      rw [htrail, htrail', he, he']
      rfl
  · cases request with
    | search query =>
      obtain ⟨hresult, htrail, hR'⟩ := search_of_sameButValues h settings hR query
      have hresult' : outcome'.result = outcome.result := congrArg (Except.map _) hresult
      exact ⟨⟨fun _ _ _ _ => htrail.symm, fun e he _ => ⟨hresult'.trans he, htrail.symm⟩⟩, hR'⟩
    | value | record | fields => exact absurd trivial haccess

/-- **A session** is served discreetly. -/
theorem discreet_serveAll {vault : Vault σ} {vault' : Vault σ'} (h : vault.SameButValues vault' R)
    (settings : AccessSettings) {state : σ} {state' : σ'} (hR : R state state')
    (requests : List Request) :
    List.Forall₂ Discreet (serveAll ⟨vault, settings⟩ requests state)
      (serveAll ⟨vault', settings⟩ requests state') := by
  induction requests generalizing state state' with
  | nil => exact .nil
  | cons request rest ih =>
    obtain ⟨hdiscreet, hR'⟩ := discreet_serve h settings hR request
    exact .cons hdiscreet (ih hR')

/-! ### What a failed extraction shows -/

/-- **A resolution fails in the extraction**: from what the vault has found, or from the record that
the reference picks, no value is extracted. -/
inductive ExtractionFails (g : Gateway σ) (text : String) (l : Locator) (unmask : Bool)
    (state : σ) : Prop
  | found {found : FoundField} {after : σ} {e : Error} : Admitted text l → l.kind ≠ .file →
      g.vault.lookup text state = (.ok found, after) →
      Extraction.valueFound l found unmask = .error e → ExtractionFails g text l unmask state
  | record {records : List Record} {r : Record} {e : Error} : g.WorksFrom text l records state →
      l.reference.Picks records r →
      Extraction.valueAt g.settings.strictIndex r l unmask = .error e →
      ExtractionFails g text l unmask state

/-- The error of a failed extraction is a place of the locator. -/
theorem ExtractionFails.exists_place {g : Gateway σ} {text : String} {l : Locator} {unmask : Bool}
    {state : σ} (h : g.ExtractionFails text l unmask state) :
    ∃ what, l.Place what ∧
      (g.serve (.value text unmask) state).result = .error (.fieldNotFound what) := by
  cases h with
  | found hadmitted hkind hlookup he =>
    obtain ⟨what, hwhat, rfl⟩ := Extraction.reportsOnly_valueFound _ _ _ _ he
    have hcourse : ResolveCourse g text unmask state _ := .found hadmitted hkind hlookup
    have hresult : (g.resolve text unmask state).result = .error (.fieldNotFound what) :=
      (congrArg Prod.fst hcourse.eq).trans he
    exact ⟨what, hwhat, Result.map_eq_error_iff.mpr hresult⟩
  | record hworks hpick he =>
    obtain ⟨what, hwhat, rfl⟩ := Extraction.reportsOnly_valueAt _ _ _ _ _ he
    have hresult := (hworks.result_of_picks unmask hpick).trans he
    exact ⟨what, hwhat, Result.map_eq_error_iff.mpr hresult⟩

/-- **The trail of a failed extraction** is made of the text and of a place of the locator. -/
theorem ExtractionFails.trail_eq {g : Gateway σ} {text : String} {l : Locator} {unmask : Bool}
    {state : σ} (h : g.ExtractionFails text l unmask state) (haudits : g.settings.audits = true) :
    ∃ what, l.Place what ∧
      (g.serve (.value text unmask) state).trail =
        [(Request.value text unmask).opening g.settings.service,
          ⟨.denied, .warn, "Secret access denied", g.settings.service,
            .ofList [("target", (Request.value text unmask).target),
              ("reason", "Field not found: " ++ what)]⟩] := by
  obtain ⟨what, hwhat, hresult⟩ := h.exists_place
  refine ⟨what, hwhat, ?_⟩
  have haccess : (Request.value text unmask).IsAccess := trivial
  rw [trail_serve haccess, hresult, kept, if_pos haudits]
  rfl

/-! ### All together -/

/-- **The trail tells no values**, whatever the settings, and whatever two vaults are that are the
same but for the values of fields.

- Of sessions with the same requests the trails are the same wherever both have an answer, and also
  where one has an error other than the absence of something from a record.
- If an extraction fails, the trail is the text that was asked for, and the reason is that there is
  no such field, with a place that the locator alone determines. -/
theorem trails_confidential {vault : Vault σ} {vault' : Vault σ'}
    (h : vault.SameButValues vault' R) (settings : AccessSettings) (requests : List Request)
    {state : σ} {state' : σ'} (hR : R state state') :
    List.Forall₂ Discreet (serveAll ⟨vault, settings⟩ requests state)
        (serveAll ⟨vault', settings⟩ requests state') ∧
      ∀ text l unmask state, settings.audits = true →
        ExtractionFails ⟨vault, settings⟩ text l unmask state →
        ∃ what, l.Place what ∧
          (serve ⟨vault, settings⟩ (.value text unmask) state).trail =
            [(Request.value text unmask).opening settings.service,
              ⟨.denied, .warn, "Secret access denied", settings.service,
                .ofList [("target", (Request.value text unmask).target),
                  ("reason", "Field not found: " ++ what)]⟩] :=
  ⟨discreet_serveAll h settings hR requests, fun _ _ _ _ haudits hfails => hfails.trail_eq haudits⟩

/-- The sample records with one title, with other passwords. -/
def otherHomonyms : List Record :=
  [Samples.sharedLogin "Dp1aaaaaaaaaaaaaaaaaaA" "another-password",
    Samples.sharedLogin "Dp2bbbbbbbbbbbbbbbbbbB" "yet-another-password"]

/-- Two passwords are given in clear, and the trails are the same; if there is no fourth password,
the trail shows no more than that it was asked for. -/
theorem trails_confidential_samples :
    let g : Gateway Unit := ⟨looseVault Samples.homonyms, { strictIndex := true }⟩
    let g' : Gateway Unit := ⟨looseVault otherHomonyms, { strictIndex := true }⟩
    let request : Request := .value "Shared Login/field/password" true
    let fourth : Locator := ⟨.title "Shared Login", .field ⟨"password", some 3, none⟩⟩
    (g.serve request ()).result = .ok (.value (.text "first-shared-password")) ∧
      (g'.serve request ()).result = .ok (.value (.text "another-password")) ∧
      (g.serve request ()).trail = (g'.serve request ()).trail ∧
      ∃ what, fourth.Place what ∧
        ∃ entry ∈ (g.serve (.value "Shared Login/field/password[3]" true) ()).trail,
          entry.details.get? "reason" = some ("Field not found: " ++ what) := by
  intro g g' request fourth
  have hlogin (uid password password' : String) :
      (Samples.sharedLogin uid password).SameButValues (Samples.sharedLogin uid password') :=
    ⟨rfl, rfl, rfl, rfl, .cons ⟨rfl, rfl⟩ (.cons ⟨rfl, rfl⟩ .nil), .nil, rfl⟩
  have hrecords : List.Forall₂ Record.SameButValues Samples.homonyms otherHomonyms :=
    .cons (hlogin _ _ _) (.cons (hlogin _ _ _) .nil)
  let R : Unit → Unit → Prop := fun _ _ => True
  have hvaults : (looseVault Samples.homonyms).SameButValues (looseVault otherHomonyms) R :=
    ⟨fun _ _ _ _ => .ok hrecords trivial, fun _ _ _ => .ok hrecords trivial,
      fun _ _ _ _ => .error trivial⟩
  have hR : R () () := trivial
  obtain ⟨hsession, hfailed⟩ := trails_confidential hvaults { strictIndex := true } [request] hR
  have hgiven : (g.serve request ()).result = .ok (.value (.text "first-shared-password")) := rfl
  have hgiven' : (g'.serve request ()).result = .ok (.value (.text "another-password")) := rfl
  refine ⟨hgiven, hgiven', ?_, ?_⟩
  · cases hsession with
    | cons hdiscreet _ => exact hdiscreet.success _ _ hgiven hgiven'
  · have hworks : g.WorksFrom "Shared Login/field/password[3]" fourth Samples.homonyms () :=
      ⟨⟨rfl, rfl⟩, (), (), .ambiguous (by decide) rfl, rfl⟩
    have hpick : fourth.reference.Picks Samples.homonyms
        (Samples.sharedLogin "Dp1aaaaaaaaaaaaaaaaaaA" "first-shared-password") :=
      .byTitle (by decide) ⟨[], _, rfl, rfl, List.forall_mem_nil _⟩
    have hvalue : Extraction.valueAt true
        (Samples.sharedLogin "Dp1aaaaaaaaaaaaaaaaaaA" "first-shared-password") fourth true =
          .error (.fieldNotFound "password[3]") := rfl
    obtain ⟨what, hwhat, htrail⟩ := hfailed _ _ _ () rfl (.record hworks hpick hvalue)
    refine ⟨what, hwhat, ?_⟩
    rw [htrail]
    exact ⟨_, List.mem_cons_of_mem _ List.mem_cons_self,
      (Dict.get?_insert _ "reason" "reason" _).trans (if_pos rfl)⟩

end Gateway

end VaultLocator

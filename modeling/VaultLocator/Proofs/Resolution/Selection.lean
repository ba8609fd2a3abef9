import VaultLocator.Proofs.First
import VaultLocator.Proofs.Resolution.Course
import VaultLocator.Proofs.Resolution.VaultAccess
import VaultLocator.Vault.Scripted

/-!
# Which record is selected

A gateway that works from the records of its vault (`VaultLocator.Gateway.WorksFrom`) takes the
first record with the uid, if the reference is one, and only if there is none the first record under
the title: `VaultLocator.Reference.Picks`. The gateway looks through the records twice, the second
time for records that match in either way; that this comes to the same is
`VaultLocator.Gateway.selectRecord?_eq_some_iff`.

So a record that matches in neither way has no part in it (`VaultLocator.Reference.Concerns`), be it
there or not, and wherever it is among the others. A record that is asked for by its uid is the
first with this uid, whatever else the vault gives.
-/

namespace VaultLocator

open Screening (checkUid checkTitle)

/-! ### References -/

namespace Reference

/-- **A reference concerns a record** if it is the uid or the title of the record. -/
def Concerns (reference : Reference) (r : Record) : Prop :=
  reference.uid? = some r.uid ∨ r.title = reference.text

instance (reference : Reference) : DecidablePred reference.Concerns :=
  fun _ => inferInstanceAs (Decidable (_ ∨ _))

/-- **The record that a reference picks** out of a list. -/
inductive Picks (reference : Reference) (records : List Record) (r : Record) : Prop
  /-- It is the first with the uid. -/
  | byUid : IsFirst (fun record => reference.uid? = some record.uid) records r →
      Picks reference records r
  /-- There is none with the uid, and it is the first with the title. -/
  | byTitle : (∀ record ∈ records, reference.uid? ≠ some record.uid) →
      IsFirst (fun record => record.title = reference.text) records r → Picks reference records r

variable {reference : Reference}

theorem names_iff {r : Record} : reference.names r = true ↔ reference.Concerns r := by
  cases reference with
  | uid text =>
    rw [names, Bool.or_eq_true, beq_iff_eq, beq_iff_eq]
    exact or_congr_left ⟨fun h => congrArg some h.symm, fun h => (Option.some.inj h).symm⟩
  | title text => simp [names, Concerns, uid?, Reference.text]

theorem names_eq_decide (r : Record) : reference.names r = decide (reference.Concerns r) := by
  rw [Bool.eq_iff_iff, names_iff, decide_eq_true_iff]

end Reference

namespace Gateway

open Locator (Admitted)

/-! ### Selecting -/

section Select

variable {reference : Reference} {records records' : List Record} {r : Record}

/-- **The two passes pick the record that they should.** -/
theorem selectRecord?_eq_some_iff :
    selectRecord? reference records = some r ↔ reference.Picks records r := by
  have huid : ∀ record ∈ records,
      (reference.uid? == some record.uid) = true ↔ reference.uid? = some record.uid :=
    fun _ _ => beq_iff_eq
  -- Where no record has the uid, a record matches if it has the title.
  have htitle (hnone : ∀ record ∈ records, reference.uid? ≠ some record.uid) :
      ∀ record ∈ records, reference.names record = true ↔ record.title = reference.text := by
    intro record hmem
    rw [Reference.names_iff, Reference.Concerns, or_iff_right (hnone record hmem)]
  have hfirst : (records.find? fun record => reference.uid? == some record.uid) = none ↔
      ∀ record ∈ records, reference.uid? ≠ some record.uid := by
    simp [List.find?_eq_none]
  rw [selectRecord?, Option.or_eq_some_iff, find?_eq_some_iff_isFirst huid, hfirst]
  constructor
  · rintro (h | ⟨hnone, h⟩)
    · exact .byUid h
    · exact .byTitle hnone ((find?_eq_some_iff_isFirst (htitle hnone)).mp h)
  · intro h
    cases h with
    | byUid h => exact Or.inl h
    | byTitle hnone h =>
      exact Or.inr ⟨hnone, (find?_eq_some_iff_isFirst (htitle hnone)).mpr h⟩

theorem selectRecord?_eq_none_iff :
    selectRecord? reference records = none ↔ ∀ r ∈ records, ¬reference.Concerns r := by
  rw [selectRecord?, Option.or_eq_none_iff, List.find?_eq_none, List.find?_eq_none]
  simp only [Reference.names_iff, beq_iff_eq]
  refine and_iff_right_of_imp fun h r hmem huid => h r hmem (Or.inl huid)

/-- The records that a reference concerns decide which of them is selected. -/
theorem selectRecord?_filter (reference : Reference) (records : List Record) :
    selectRecord? reference (records.filter (reference.Concerns ·)) =
      selectRecord? reference records := by
  have huid (record : Record) :
      decide (decide (reference.Concerns record) = true ∧
        (reference.uid? == some record.uid) = true) = (reference.uid? == some record.uid) := by
    rw [Bool.eq_iff_iff, decide_eq_true_iff, decide_eq_true_iff, beq_iff_eq]
    exact and_iff_right_of_imp Or.inl
  simp only [selectRecord?, List.find?_filter, huid, Reference.names_eq_decide, and_self,
    Bool.decide_eq_true]

end Select

section Works

variable {σ σ' : Type} {g : Gateway σ} {g' : Gateway σ'} {records records' : List Record}
  {r : Record} {state : σ} {state' : σ'}

/-! ### Resolving from records -/

/-- **A gateway works from some records** to resolve a locator: it turns to all the records, and
these are the ones that the vault gives. -/
structure WorksFrom (g : Gateway σ) (text : String) (l : Locator) (records : List Record)
    (state : σ) : Prop where
  admitted : Admitted text l
  given : ∃ asked after, g.TurnsToRecords text l state asked ∧
    g.vault.everything asked = (.ok records, after)

section Resolve

variable {text : String} {l : Locator} (h : g.WorksFrom text l records state) (unmask : Bool)
include h

theorem WorksFrom.result_of_picks (hpick : l.reference.Picks records r) :
    (g.resolve text unmask state).result =
      Extraction.valueAt g.settings.strictIndex r l unmask := by
  obtain ⟨asked, after, hturns, hreply⟩ := h.given
  have hselect := selectRecord?_eq_some_iff.mpr hpick
  have hcourse : ResolveCourse g text unmask state _ := .selected h.admitted hturns hreply hselect
  exact congrArg Prod.fst hcourse.eq

theorem WorksFrom.result_of_unconcerned (hnone : ∀ r ∈ records, ¬l.reference.Concerns r) :
    (g.resolve text unmask state).result = .error (.recordNotFound l.reference.text) := by
  obtain ⟨asked, after, hturns, hreply⟩ := h.given
  have hselect := selectRecord?_eq_none_iff.mpr hnone
  have hcourse : ResolveCourse g text unmask state _ := .unselected h.admitted hturns hreply hselect
  exact congrArg Prod.fst hcourse.eq

/-- **Only the records that the reference concerns count.** -/
theorem WorksFrom.result_congr (h' : g'.WorksFrom text l records' state')
    (hsettings : g.settings = g'.settings)
    (hconcerned : records.filter (l.reference.Concerns ·) =
      records'.filter (l.reference.Concerns ·)) :
    (g.resolve text unmask state).result = (g'.resolve text unmask state').result := by
  have hselect : selectRecord? l.reference records = selectRecord? l.reference records' := by
    rw [← selectRecord?_filter, hconcerned, selectRecord?_filter]
  cases hpick : selectRecord? l.reference records with
  | none =>
    rw [h.result_of_unconcerned unmask (selectRecord?_eq_none_iff.mp hpick),
      h'.result_of_unconcerned unmask (selectRecord?_eq_none_iff.mp (hselect ▸ hpick))]
  | some r =>
    rw [h.result_of_picks unmask (selectRecord?_eq_some_iff.mp hpick),
      h'.result_of_picks unmask (selectRecord?_eq_some_iff.mp (hselect ▸ hpick)), hsettings]

end Resolve

/-- A reference picks a record, unless there is none that it concerns. -/
theorem exists_picks_or_unconcerned (reference : Reference) (records : List Record) :
    (∃ r, reference.Picks records r) ∨ ∀ r ∈ records, ¬reference.Concerns r := by
  cases hselect : selectRecord? reference records with
  | none => exact Or.inr (selectRecord?_eq_none_iff.mp hselect)
  | some r => exact Or.inl ⟨r, selectRecord?_eq_some_iff.mp hselect⟩

/-! ### Reading the record with a uid -/

/-- **A gateway finds a uid among some records**: the uid passes its screening, and these are the
records that the vault gives for it. -/
structure FetchesFrom (g : Gateway σ) (uid : String) (records : List Record) (state : σ) :
    Prop where
  screened : checkUid uid = .ok ()
  given : ∃ after, g.vault.withUids [uid] state = (.ok records, after)

section Fetch

variable {uid : String}

theorem FetchesFrom.fetch_of_isFirst (h : g.FetchesFrom uid records state)
    (hfirst : IsFirst (fun record => record.uid = uid) records r) :
    (g.recordWithUid uid state).1 = .ok r := by
  obtain ⟨after, hreply⟩ := h.given
  have hselect : records.find? (fun record => record.uid == uid) = some r :=
    (find?_eq_some_iff_isFirst fun _ _ => beq_iff_eq).mpr hfirst
  have hcourse : FetchCourse g uid state _ := .selected h.screened hreply hselect
  exact congrArg Prod.fst hcourse.eq

theorem FetchesFrom.fetch_of_none (h : g.FetchesFrom uid records state)
    (hnone : ∀ r ∈ records, r.uid ≠ uid) :
    (g.recordWithUid uid state).1 = .error (.recordNotFound uid) := by
  obtain ⟨after, hreply⟩ := h.given
  have hselect : records.find? (fun record => record.uid == uid) = none :=
    List.find?_eq_none.mpr fun r hmem huid => hnone r hmem (beq_iff_eq.mp huid)
  have hcourse : FetchCourse g uid state _ := .unselected h.screened hreply hselect
  exact congrArg Prod.fst hcourse.eq

theorem uid_of_recordWithUid (h : (g.recordWithUid uid state).1 = .ok r) : r.uid = uid := by
  have hcourse := course_recordWithUid g uid state
  generalize g.recordWithUid uid state = answer at hcourse h
  cases hcourse with
  | selected _ _ hselect =>
    cases h
    have huid := List.find?_some hselect
    simpa using huid
  | _ => cases h

theorem checkNames_of_pass {names : List String} (h : ∀ name ∈ names, checkTitle name = .ok ()) :
    checkNames names = .ok () := by
  rcases checkNames_cases names with ⟨hnames, -⟩ | ⟨reason, -, name, hmem, hname⟩
  · exact hnames
  · rw [h name hmem] at hname
    cases hname

theorem result_readFields {names : List String} (h : ∀ name ∈ names, checkTitle name = .ok ())
    (unmask : Bool) :
    (g.readFields uid names unmask state).result =
      (g.recordWithUid uid state).1.map fun r => Extraction.valuesNamed r names unmask := by
  have hvalues : (g.readFields uid names unmask state).result =
      (g.valuesOf uid names unmask state).1 := rfl
  rw [hvalues, valuesOf, checkNames_of_pass h]

end Fetch

end Works

/-! ### All together -/

/-- **Selection is ordered and isolated**, whatever the settings and the vault are.

- A gateway that works from records answers with the value of the record that the reference picks,
  and it picks one unless it concerns none of them.
- What another gateway with the same settings answers is the same if its records differ at most in
  those that the reference does not concern.
- A gateway that finds a uid among records reads the first with this uid, and there is one unless
  none of them has it.
- A record that is read has the uid that was asked for. -/
theorem selection_isolated {σ : Type} (g : Gateway σ) (unmask : Bool) :
    (∀ text l records state, g.WorksFrom text l records state →
      (∀ r, l.reference.Picks records r → (g.resolve text unmask state).result =
        Extraction.valueAt g.settings.strictIndex r l unmask) ∧
      ((∀ r ∈ records, ¬l.reference.Concerns r) →
        (g.resolve text unmask state).result = .error (.recordNotFound l.reference.text)) ∧
      ((∃ r, l.reference.Picks records r) ∨ ∀ r ∈ records, ¬l.reference.Concerns r)) ∧
    (∀ {σ' : Type} (g' : Gateway σ') text l records records' state state',
      g.settings = g'.settings → g.WorksFrom text l records state →
        g'.WorksFrom text l records' state' →
        records.filter (l.reference.Concerns ·) = records'.filter (l.reference.Concerns ·) →
        (g.resolve text unmask state).result = (g'.resolve text unmask state').result) ∧
    (∀ uid records state, g.FetchesFrom uid records state →
      (∀ r, IsFirst (fun record => record.uid = uid) records r →
        (g.readRecord uid unmask state).result = .ok (RecordView.ofRecord r unmask) ∧
        ∀ names, (∀ name ∈ names, checkTitle name = .ok ()) →
          (g.readFields uid names unmask state).result =
            .ok (Extraction.valuesNamed r names unmask)) ∧
      ((∀ r ∈ records, r.uid ≠ uid) →
        (g.readRecord uid unmask state).result = .error (.recordNotFound uid) ∧
        ∀ names, (∀ name ∈ names, checkTitle name = .ok ()) →
          (g.readFields uid names unmask state).result = .error (.recordNotFound uid)) ∧
      ((∃ r, IsFirst (fun record => record.uid = uid) records r) ∨ ∀ r ∈ records, r.uid ≠ uid)) ∧
    ∀ uid state view, (g.readRecord uid unmask state).result = .ok view → view.uid = uid := by
  refine ⟨fun text l records state h => ?_, fun g' text l records records' state state' => ?_,
    fun uid records state h => ?_, fun uid state view h => ?_⟩
  · exact ⟨fun r => h.result_of_picks unmask, h.result_of_unconcerned unmask,
      exists_picks_or_unconcerned l.reference records⟩
  · exact fun hsettings h h' hconcerned => h.result_congr unmask h' hsettings hconcerned
  · refine ⟨fun r hfirst => ?_, fun hnone => ?_, exists_isFirst_or_none _ records⟩
    · have hfetch := h.fetch_of_isFirst hfirst
      refine ⟨congrArg (Except.map _) hfetch, fun names hnames => ?_⟩
      rw [result_readFields hnames, hfetch]
      rfl
    · have hfetch := h.fetch_of_none hnone
      refine ⟨congrArg (Except.map _) hfetch, fun names hnames => ?_⟩
      rw [result_readFields hnames, hfetch]
      rfl
  · obtain ⟨r, hfetch, rfl⟩ := Result.map_eq_ok_iff.mp h
    exact uid_of_recordWithUid hfetch

/-- The sample records with one title, after one that has the uid of the second as its title. -/
def entangledRecords : List Record :=
  { Samples.login with title := "Dp2bbbbbbbbbbbbbbbbbbB" } :: Samples.homonyms

/-- A vault that finds every reference ambiguous, and gives some records whatever is asked for. -/
def looseVault (records : List Record) : Vault Unit :=
  ScriptedVault.toVault ⟨.error (.ambiguous "Shared"), .ok records, true⟩

/-- A uid leads to the record with this uid and not to the one before it with this title; a title to
the first of two records, also if a record is put before them that has nothing to do with it. Among
records that were not asked for, the one with the uid is read. -/
theorem selection_isolated_samples :
    let g : Gateway Unit := ⟨looseVault entangledRecords, {}⟩
    let second := Samples.sharedLogin "Dp2bbbbbbbbbbbbbbbbbbB" "second-shared-password"
    (g.resolve "Dp2bbbbbbbbbbbbbbbbbbB/field/password" true ()).result =
        .ok (.text "second-shared-password") ∧
      (g.resolve "Shared Login/field/password" true ()).result =
        (resolve ⟨looseVault Samples.homonyms, {}⟩ "Shared Login/field/password" true ()).result ∧
      (g.readRecord "Dp2bbbbbbbbbbbbbbbbbbB" true ()).result =
        .ok (RecordView.ofRecord second true) := by
  intro g second
  obtain ⟨hordered, hisolated, hread, -⟩ := selection_isolated g true
  refine ⟨?_, ?_, ?_⟩
  · have hworks : g.WorksFrom "Dp2bbbbbbbbbbbbbbbbbbB/field/password"
        ⟨.uid "Dp2bbbbbbbbbbbbbbbbbbB", .field ⟨"password", none, none⟩⟩ entangledRecords () :=
      ⟨⟨rfl, rfl⟩, (), (), .ambiguous (by decide) rfl, rfl⟩
    rw [(hordered _ _ _ _ hworks).1 second
      (.byUid ⟨entangledRecords.take 2, [], rfl, rfl, by decide⟩)]
    rfl
  · have hworks (records : List Record) : WorksFrom ⟨looseVault records, {}⟩
        "Shared Login/field/password"
        ⟨.title "Shared Login", .field ⟨"password", none, none⟩⟩ records () :=
      ⟨⟨rfl, rfl⟩, (), (), .ambiguous (by decide) rfl, rfl⟩
    exact hisolated _ _ _ entangledRecords Samples.homonyms () () rfl (hworks _) (hworks _) rfl
  · have hfetches : g.FetchesFrom "Dp2bbbbbbbbbbbbbbbbbbB" entangledRecords () :=
      ⟨rfl, (), rfl⟩
    exact ((hread _ _ _ hfetches).1 second ⟨entangledRecords.take 2, [], rfl, rfl, by decide⟩).1

end Gateway

end VaultLocator

import VaultLocator.Gateway
import VaultLocator.Proofs.Result

/-!
# The courses of a request

All that a gateway can do to resolve a locator is said here once, as the constructors of
`VaultLocator.Gateway.ResolveCourse`: it rejects the text, it decodes what the vault has found, it
passes on why the vault has found nothing, or it turns to all the records – which the vault may not
give, and among which there is one to extract from or none. `VaultLocator.Gateway.FetchCourse` does
the same for the record with a uid, and `VaultLocator.Gateway.SearchCourse` for a search.

Every run takes one of the courses (`VaultLocator.Gateway.course_resolveText`,
`VaultLocator.Gateway.course_recordWithUid`, `VaultLocator.Gateway.course_search`), and a course has
only one answer (`VaultLocator.Gateway.ResolveCourse.eq` and its companions). So what holds of all
runs is a matter of going through the constructors, and what two gateways have in common a matter of
turning a course of the one into a course of the other. Nothing else needs to look into the
operations.

That a text which passes its screening is a locator (`VaultLocator.Locator.exists_admitted`) leaves
no place for a grammar error: screening has read the text already.
-/

namespace VaultLocator

open Screening (checkUid checkLocator checkSearchQuery)

namespace Locator

/-- **A text is admitted as a locator**: it passes its screening, and it is read as the locator. -/
structure Admitted (text : String) (l : Locator) : Prop where
  screened : checkLocator text = .ok ()
  parsed : parse text = .ok l

/-- What passes the screening is a locator. -/
theorem exists_admitted {text : String} (h : checkLocator text = .ok ()) :
    ∃ l, Admitted text l := by
  have hscreen := h
  rw [checkLocator] at h
  -- The last of the rules that the text has passed reads it.
  obtain ⟨-, -, h⟩ := Result.bind_eq_ok_iff.mp h
  obtain ⟨-, -, h⟩ := Result.bind_eq_ok_iff.mp h
  obtain ⟨-, -, h⟩ := Result.bind_eq_ok_iff.mp h
  cases hparse : parse text with
  | ok l => exact ⟨l, hscreen, hparse⟩
  | error e =>
    rw [hparse] at h
    cases h

end Locator

namespace Gateway

open Locator (Admitted)

variable {σ : Type} {g : Gateway σ} {state : σ}

/-! ### Resolving a locator -/

/-- **A gateway turns to all records** for a locator, in the state in which it asks for them: at
once for a file, and for a field after the vault has refused to look it up as ambiguous. -/
inductive TurnsToRecords (g : Gateway σ) (text : String) (l : Locator) (state : σ) : σ → Prop
  | file : l.kind = .file → TurnsToRecords g text l state state
  | ambiguous {reference : String} {state' : σ} : l.kind ≠ .file →
      g.vault.lookup text state = (.error (.ambiguous reference), state') →
      TurnsToRecords g text l state state'

/-- **The courses of a resolution**: each way to an answer, with all that the vault has replied. -/
inductive ResolveCourse (g : Gateway σ) (text : String) (unmask : Bool) (state : σ) :
    Except Error ShownValue × σ → Prop
  /-- The text is rejected, and the vault is not asked. -/
  | rejected {reason : Rejection} : checkLocator text = .error reason →
      ResolveCourse g text unmask state (.error (.rejected reason), state)
  /-- The vault has found the field. -/
  | found {l : Locator} {found : FoundField} {state' : σ} : Admitted text l → l.kind ≠ .file →
      g.vault.lookup text state = (.ok found, state') →
      ResolveCourse g text unmask state (Extraction.valueFound l found unmask, state')
  /-- The vault has not found the field, for a reason other than ambiguity. -/
  | refused {l : Locator} {e : VaultError} {state' : σ} : Admitted text l → l.kind ≠ .file →
      g.vault.lookup text state = (.error e, state') → (∀ reference, e ≠ .ambiguous reference) →
      ResolveCourse g text unmask state (.error (.ofLookup e), state')
  /-- The gateway turns to all records, and does not get them. -/
  | withheld {l : Locator} {state' state'' : σ} {e : VaultError} : Admitted text l →
      g.TurnsToRecords text l state state' → g.vault.everything state' = (.error e, state'') →
      ResolveCourse g text unmask state (.error (.vault e), state'')
  /-- The gateway turns to all records, and none of them is selected. -/
  | unselected {l : Locator} {state' state'' : σ} {records : List Record} : Admitted text l →
      g.TurnsToRecords text l state state' → g.vault.everything state' = (.ok records, state'') →
      selectRecord? l.reference records = none →
      ResolveCourse g text unmask state (.error (.recordNotFound l.reference.text), state'')
  /-- The gateway turns to all records, and one of them is selected. -/
  | selected {l : Locator} {state' state'' : σ} {records : List Record} {r : Record} :
      Admitted text l → g.TurnsToRecords text l state state' →
      g.vault.everything state' = (.ok records, state'') →
      selectRecord? l.reference records = some r →
      ResolveCourse g text unmask state
        (Extraction.valueAt g.settings.strictIndex r l unmask, state'')

section Resolve

variable {text : String} {l : Locator} {unmask : Bool} {state' : σ}

theorem resolveText_of_admitted (h : Admitted text l) :
    g.resolveText text unmask state = g.resolveLocator text l unmask state := by
  rw [resolveText, h.screened, h.parsed]

theorem resolveText_of_turnsToRecords (h : Admitted text l)
    (hturns : g.TurnsToRecords text l state state') :
    g.resolveText text unmask state = g.resolveAmongAll l unmask state' := by
  rw [resolveText_of_admitted h, resolveLocator]
  cases hturns with
  | file hkind => rw [if_pos hkind]
  | ambiguous hkind hlookup =>
    rw [if_neg hkind, hlookup]
    rfl

/-- A course has only one answer. -/
theorem ResolveCourse.eq {answer : Except Error ShownValue × σ}
    (h : ResolveCourse g text unmask state answer) :
    g.resolveText text unmask state = answer := by
  cases h with
  | rejected hscreen => rw [resolveText, hscreen]
  | found h hkind hlookup =>
    rw [resolveText_of_admitted h, resolveLocator, if_neg hkind, hlookup]
  | @refused l e state' h hkind hlookup hambiguous =>
    rw [resolveText_of_admitted h, resolveLocator, if_neg hkind, hlookup]
    cases e with
    | ambiguous reference => exact absurd rfl (hambiguous reference)
    | _ => rfl
  | withheld h hturns hreply =>
    rw [resolveText_of_turnsToRecords h hturns, resolveAmongAll, hreply]
  | unselected h hturns hreply hselect =>
    rw [resolveText_of_turnsToRecords h hturns, resolveAmongAll, hreply]
    simp only [resolveAmong, hselect]
  | selected h hturns hreply hselect =>
    rw [resolveText_of_turnsToRecords h hturns, resolveAmongAll, hreply]
    simp only [resolveAmong, hselect]

/-- A gateway that turns to all records takes one of the last three courses. -/
theorem exists_course_of_turnsToRecords (h : Admitted text l)
    (hturns : g.TurnsToRecords text l state state') (unmask : Bool) :
    ∃ answer, ResolveCourse g text unmask state answer := by
  rcases hreply : g.vault.everything state' with ⟨e | records, state''⟩
  · exact ⟨_, .withheld h hturns hreply⟩
  · cases hselect : selectRecord? l.reference records with
    | none => exact ⟨_, .unselected h hturns hreply hselect⟩
    | some r => exact ⟨_, .selected h hturns hreply hselect⟩

theorem exists_resolveCourse (g : Gateway σ) (text : String) (unmask : Bool) (state : σ) :
    ∃ answer, ResolveCourse g text unmask state answer := by
  cases hscreen : checkLocator text with
  | error reason => exact ⟨_, .rejected hscreen⟩
  | ok =>
    obtain ⟨l, h⟩ := Locator.exists_admitted hscreen
    by_cases hkind : l.kind = .file
    · exact exists_course_of_turnsToRecords h (.file hkind) unmask
    rcases hlookup : g.vault.lookup text state with ⟨e | found, state'⟩
    · by_cases hambiguous : ∃ reference, e = .ambiguous reference
      · obtain ⟨reference, rfl⟩ := hambiguous
        exact exists_course_of_turnsToRecords h (.ambiguous hkind hlookup) unmask
      · exact ⟨_, .refused h hkind hlookup (not_exists.mp hambiguous)⟩
    · exact ⟨_, .found h hkind hlookup⟩

/-- **Every resolution takes one of the courses.** -/
theorem course_resolveText (g : Gateway σ) (text : String) (unmask : Bool) (state : σ) :
    ResolveCourse g text unmask state (g.resolveText text unmask state) := by
  obtain ⟨answer, h⟩ := exists_resolveCourse g text unmask state
  rwa [h.eq]

end Resolve

/-! ### Finding a record by its uid -/

/-- **The courses of finding the record with a uid.** -/
inductive FetchCourse (g : Gateway σ) (uid : String) (state : σ) : Except Error Record × σ → Prop
  /-- The uid is rejected, and the vault is not asked. -/
  | rejected {reason : Rejection} : checkUid uid = .error reason →
      FetchCourse g uid state (.error (.rejected reason), state)
  /-- The vault gives no records. -/
  | withheld {e : VaultError} {state' : σ} : checkUid uid = .ok () →
      g.vault.withUids [uid] state = (.error e, state') →
      FetchCourse g uid state (.error (.vault e), state')
  /-- No record that the vault gives has the uid. -/
  | unselected {records : List Record} {state' : σ} : checkUid uid = .ok () →
      g.vault.withUids [uid] state = (.ok records, state') →
      records.find? (fun record => record.uid == uid) = none →
      FetchCourse g uid state (.error (.recordNotFound uid), state')
  /-- A record that the vault gives has the uid. -/
  | selected {records : List Record} {r : Record} {state' : σ} : checkUid uid = .ok () →
      g.vault.withUids [uid] state = (.ok records, state') →
      records.find? (fun record => record.uid == uid) = some r →
      FetchCourse g uid state (.ok r, state')

/-- A course has only one answer. -/
theorem FetchCourse.eq {uid : String} {answer : Except Error Record × σ}
    (h : FetchCourse g uid state answer) : g.recordWithUid uid state = answer := by
  rw [recordWithUid]
  cases h with
  | rejected hscreen => rw [hscreen]
  | withheld hscreen hreply => rw [hscreen, hreply]
  | unselected hscreen hreply hselect => simp only [hscreen, hreply, hselect]
  | selected hscreen hreply hselect => simp only [hscreen, hreply, hselect]

/-- **Every search for the record with a uid takes one of the courses.** -/
theorem course_recordWithUid (g : Gateway σ) (uid : String) (state : σ) :
    FetchCourse g uid state (g.recordWithUid uid state) := by
  suffices h : ∃ answer, FetchCourse g uid state answer by
    obtain ⟨answer, h⟩ := h
    rwa [h.eq]
  cases hscreen : checkUid uid with
  | error reason => exact ⟨_, .rejected hscreen⟩
  | ok =>
    rcases hreply : g.vault.withUids [uid] state with ⟨e | records, state'⟩
    · exact ⟨_, .withheld hscreen hreply⟩
    · cases hselect : records.find? fun record => record.uid == uid with
      | none => exact ⟨_, .unselected hscreen hreply hselect⟩
      | some r => exact ⟨_, .selected hscreen hreply hselect⟩

/-! ### Searching -/

/-- **The courses of a search.** -/
inductive SearchCourse (g : Gateway σ) (query : String) (state : σ) :
    Outcome σ (List SearchHit) → Prop
  /-- The query is rejected, and the vault is not asked. -/
  | rejected {reason : Rejection} : checkSearchQuery query = .error reason →
      SearchCourse g query state
        ⟨.error (.rejected reason),
          g.kept [.denied g.settings.service (targetOf query) reason.message], state⟩
  /-- The vault does not give its records. -/
  | withheld {e : VaultError} {state' : σ} : checkSearchQuery query = .ok () →
      g.vault.everything state = (.error e, state') →
      SearchCourse g query state ⟨.error (.vault e), [], state'⟩
  /-- The records of the vault are searched. -/
  | searched {records : List Record} {state' : σ} : checkSearchQuery query = .ok () →
      g.vault.everything state = (.ok records, state') →
      SearchCourse g query state
        ⟨.ok (hits query records),
          g.kept
            [(AuditEntry.notice g.settings.service "record search").annotate "hits"
              (Text.decimal (hits query records).length)], state'⟩

/-- A course has only one outcome. -/
theorem SearchCourse.eq {query : String} {outcome : Outcome σ (List SearchHit)}
    (h : SearchCourse g query state outcome) : g.search query state = outcome := by
  rw [search]
  cases h with
  | rejected hscreen => rw [hscreen]
  | withheld hscreen hreply => rw [hscreen, hreply]
  | searched hscreen hreply => rw [hscreen, hreply]

/-- **Every search takes one of the courses.** -/
theorem course_search (g : Gateway σ) (query : String) (state : σ) :
    SearchCourse g query state (g.search query state) := by
  suffices h : ∃ outcome, SearchCourse g query state outcome by
    obtain ⟨outcome, h⟩ := h
    rwa [h.eq]
  cases hscreen : checkSearchQuery query with
  | error reason => exact ⟨_, .rejected hscreen⟩
  | ok =>
    rcases hreply : g.vault.everything state with ⟨e | records, state'⟩
    · exact ⟨_, .withheld hscreen hreply⟩
    · exact ⟨_, .searched hscreen hreply⟩

end Gateway

end VaultLocator

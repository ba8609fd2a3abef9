import VaultLocator.Proofs.Locator.RoundTrip
import VaultLocator.Proofs.Screening.Commands
import VaultLocator.Proofs.Screening.Quotes
import VaultLocator.Proofs.Trail.Account
import VaultLocator.Vault.Scripted

/-!
# How much of an input the trail echoes

An entry shows an input in its target, cut off after 256 characters. Yet it also shows the message
of an error, and that may quote from the input at any length. `VaultLocator.AuditEntry.Echoes` says
that a longer piece of an input than a limit is in one of the texts of an entry. Entries with short
texts (`VaultLocator.AuditEntry.Within`) echo nothing, and neither do entries about short inputs.

Requests for records and searches are never echoed beyond the limit: if they are rejected, the
reason quotes nothing, and if they are not, they are short. A locator may be echoed by the last
entry of its trail, if the error that it tells of quotes a long piece of the locator; and then it
is. What else an error quotes is the vault's own, or names a part of a field by cutting the index
out of the locator (`VaultLocator.Locator.QuotedFrom`). All this is
`VaultLocator.Gateway.echo_bounded`, and a locator that is echoed is in
`VaultLocator.Gateway.resolve_echoes_kind`.
-/

namespace VaultLocator

open Screening (checkLocator checkSearchQuery checkUid)

/-! ### Texts of an entry -/

namespace AuditEntry

/-- The texts that an entry shows: its message and its details. -/
def texts (entry : AuditEntry) : List String :=
  entry.message :: entry.details.entries.map Prod.snd

/-- **An entry echoes an input beyond a limit** if a piece of the input that is longer than the
limit is in one of the texts of the entry. -/
def Echoes (entry : AuditEntry) (limit : Nat) (input : String) : Prop :=
  ∃ piece : List Char, limit < piece.length ∧ piece <:+: input.toList ∧
    ∃ text ∈ entry.texts, piece <:+: text.toList

/-- An entry whose texts are all within a limit. -/
def Within (entry : AuditEntry) (limit : Nat) : Prop :=
  ∀ text ∈ entry.texts, text.length ≤ limit

section Texts

variable {entry : AuditEntry} {limit : Nat} {input : String}

theorem Within.not_echoes (h : entry.Within limit) : ¬entry.Echoes limit input := by
  rintro ⟨piece, hlong, -, text, htext, hpiece⟩
  have hle : piece.length ≤ text.length := String.length_toList ▸ hpiece.length_le
  exact absurd (hle.trans (h text htext)) (Nat.not_le.mpr hlong)

/-- There is no more of an input to be echoed than the input. -/
theorem not_echoes_of_length_le (h : input.length ≤ limit) : ¬entry.Echoes limit input := by
  rintro ⟨piece, hlong, hpiece, -⟩
  have hle : piece.length ≤ input.length := String.length_toList ▸ hpiece.length_le
  exact absurd (hle.trans h) (Nat.not_le.mpr hlong)

theorem Within.annotate (h : entry.Within limit) (name : String) {text : String}
    (htext : text.length ≤ limit) : (entry.annotate name text).Within limit := by
  intro shown hshown
  rcases List.mem_cons.mp hshown with rfl | hshown
  · exact h _ List.mem_cons_self
  · obtain ⟨detail, hdetail, rfl⟩ := List.mem_map.mp hshown
    rcases Dict.mem_enter hdetail with rfl | hdetail
    · exact htext
    · exact h _ (List.mem_cons_of_mem _ (List.mem_map_of_mem hdetail))

/-- An entry without details shows its message alone. -/
theorem within_plain {kind : AuditKind} {severity : Severity} {message service : String}
    (h : message.length ≤ limit) :
    (⟨kind, severity, message, service, Dict.empty⟩ : AuditEntry).Within limit := by
  intro text htext
  rw [List.mem_singleton.mp htext]
  exact h

end Texts

section Entries

variable {service target : String}

theorem within_attempt (h : target.length ≤ 256) : (attempt service target).Within 256 :=
  (within_plain (by decide)).annotate _ h

theorem within_granted (h : target.length ≤ 256) (unmasked : Bool) :
    (granted service target unmasked).Within 256 :=
  ((within_plain (by decide)).annotate _ h).annotate _ (by cases unmasked <;> decide)

theorem within_denied (h : target.length ≤ 256) {reason : String} (hreason : reason.length ≤ 256) :
    (denied service target reason).Within 256 :=
  ((within_plain (by decide)).annotate _ h).annotate _ hreason

/-- An entry shows each of its details. -/
theorem mem_texts_annotate (entry : AuditEntry) (name text : String) :
    text ∈ (entry.annotate name text).texts :=
  List.mem_cons_of_mem _ (List.mem_map_of_mem (Dict.mem_enter_self name text _))

end Entries

end AuditEntry

/-! ### Requests that fit -/

/-- The texts of a request. -/
def Request.texts : Request → List String
  | .value text _ | .record text _ | .search text => [text]
  | .fields uid names _ => uid :: names

/-- **A request fits into a memory** with addresses of 64 bits: no text of it has more characters,
and there are no more texts. -/
structure Request.Fits (request : Request) : Prop where
  count : request.texts.length < UInt64.size
  length : ∀ text ∈ request.texts, text.length < UInt64.size

/-- The part of a request from which its rejection may quote: a locator. -/
def Request.quotable : Request → List Char
  | .value text _ => text.toList
  | .record .. | .fields .. | .search _ => []

namespace Request

variable {request : Request} {reason : Rejection}

/-- **What a rejected request is told** quotes nothing, unless it is about a locator. -/
theorem Rejected.quotesFrom (h : request.Rejected reason) (hfits : request.Fits) :
    reason.QuotesFrom request.quotable := by
  have hlength : ∀ text ∈ request.texts, text.toList.length < UInt64.size := fun text htext => by
    rw [String.length_toList]
    exact hfits.length text htext
  cases h with
  | value h => exact Screening.rejectsOnly_checkLocator _ h
  | record h => exact Screening.rejectsOnly_checkUid (hlength _ List.mem_cons_self) _ h
  | fieldsUid h => exact Screening.rejectsOnly_checkUid (hlength _ List.mem_cons_self) _ h
  | fieldsName hmem h =>
    exact Screening.rejectsOnly_checkTitle (hlength _ (List.mem_cons_of_mem _ hmem)) _ h
  | search h => exact Screening.rejectsOnly_checkSearchQuery (hlength _ List.mem_cons_self) _ h

end Request

section Length

open Screening

variable {text : String}

theorem length_le_of_checkMax {subject : Subject} {max : Nat} {text : List Char}
    (h : checkMax subject max text = .ok ()) : text.length ≤ max :=
  Nat.not_lt.mp (of_decide_eq_false (refuse_eq_ok_iff.mp h))

theorem length_le_of_checkUid (h : checkUid text = .ok ()) : text.length ≤ uidMaxLength := by
  rw [checkUid] at h
  obtain ⟨-, h⟩ := seq_eq_ok_iff.mp h
  obtain ⟨-, h⟩ := seq_eq_ok_iff.mp h
  obtain ⟨hmax, -⟩ := seq_eq_ok_iff.mp h
  exact String.length_toList ▸ length_le_of_checkMax hmax

theorem length_le_of_checkSearchQuery (h : checkSearchQuery text = .ok ()) :
    text.length ≤ 256 := by
  rw [checkSearchQuery] at h
  obtain ⟨hmax, -⟩ := seq_eq_ok_iff.mp h
  exact String.length_toList ▸ length_le_of_checkMax hmax

end Length

/-- **A request that is not rejected has a short input**, unless it is about a locator. -/
theorem Request.length_input_le {request : Request}
    (hlocator : ∀ text unmask, request ≠ .value text unmask)
    (h : ∀ reason, ¬request.Rejected reason) : request.input.length ≤ 256 := by
  have huid : ∀ uid, (∀ reason, checkUid uid ≠ .error reason) → uid.length ≤ 256 := by
    intro uid huid
    cases hscreen : checkUid uid with
    | error reason => exact absurd hscreen (huid reason)
    | ok => exact (length_le_of_checkUid hscreen).trans (by decide)
  cases request with
  | value text unmask => exact absurd rfl (hlocator text unmask)
  | record uid unmask => exact huid uid fun reason hc => h reason (.record hc)
  | fields uid names unmask => exact huid uid fun reason hc => h reason (.fieldsUid hc)
  | search query =>
    cases hscreen : checkSearchQuery query with
    | error reason => exact absurd (.search hscreen) (h reason)
    | ok => exact length_le_of_checkSearchQuery hscreen

/-! ### What an error quotes -/

/-- The text that a vault adds to an error. -/
def VaultError.detail : VaultError → String
  | .ambiguous text | .recordNotFound text | .notFound text | .unavailable text
  | .backend text => text

/-- The text that a fault comes with. -/
def Fault.detail : Fault → String
  | .invalidConfig text | .invalidInput text | .internal text => text

namespace Error

open Text (length_append_le)

/-- What the message of an error quotes. -/
def quoted : Error → String
  | .grammar error => error.quoted
  | .rejected reason => reason.quoted
  | .recordNotFound text | .fieldNotFound text | .ambiguousRecord text
  | .unsupportedShape text => text
  | .vault error => error.detail
  | .fault f => f.detail

/-- **The wording of an error is bounded**: its message is at most a hundred characters longer than
what it quotes. -/
theorem length_message_le {e : Error} (h : ∀ reason, e = .rejected reason → reason.Sized) :
    e.message.length ≤ 100 + e.quoted.length := by
  cases e with
  | grammar error => exact error.length_message_le.trans (Nat.add_le_add_right (by decide) _)
  | rejected reason =>
    have hmessage : (Error.rejected reason).message.length ≤ 21 + (79 + reason.quoted.length) :=
      length_append_le (by decide) (Rejection.length_message_le (h reason rfl))
    exact hmessage.trans (by rw [← Nat.add_assoc]; exact le_rfl)
  | recordNotFound | fieldNotFound | ambiguousRecord =>
    exact length_append_le (by decide) le_rfl
  | unsupportedShape text =>
    have hmessage : (Error.unsupportedShape text).message.length ≤ 29 + text.length + 1 :=
      length_append_le (length_append_le (by decide) le_rfl) (by decide)
    exact hmessage.trans (by change _ ≤ 100 + text.length; omega)
  | vault error => cases error <;> exact length_append_le (by decide) le_rfl
  | fault f => cases f <;> exact length_append_le (by decide) le_rfl

/-- What a message quotes is in it. -/
theorem quoted_piece (e : Error) : e.quoted.toList <:+: e.message.toList := by
  cases e with
  | grammar error => exact error.quoted_piece
  | rejected reason => exact Text.piece_append_left _ reason.quoted_piece
  | recordNotFound | fieldNotFound | ambiguousRecord =>
    exact Text.piece_append_left _ (List.infix_refl _)
  | unsupportedShape =>
    exact Text.piece_append_right _ (Text.piece_append_left _ (List.infix_refl _))
  | vault error => cases error <;> exact Text.piece_append_left _ (List.infix_refl _)
  | fault f => cases f <;> exact Text.piece_append_left _ (List.infix_refl _)

/-- A failed lookup quotes what the vault has said. -/
theorem quoted_ofLookup (e : VaultError) : (Error.ofLookup e).quoted = e.detail := by
  cases e <;> rfl

end Error

/-- **A vault is terse** if no text that it adds to an error is longer than a limit. -/
structure Vault.Terse {σ : Type} (vault : Vault σ) (limit : Nat) : Prop where
  withUids : ∀ uids state e, (vault.withUids uids state).1 = .error e → e.detail.length ≤ limit
  everything : ∀ state e, (vault.everything state).1 = .error e → e.detail.length ≤ limit
  lookup : ∀ text state e, (vault.lookup text state).1 = .error e → e.detail.length ≤ limit

namespace Locator

/-- **What is quoted from a locator**: a piece of its text; or its name and its property, from which
the index between them has been cut out. -/
inductive QuotedFrom (text : String) : String → Prop
  | piece {quoted : String} : quoted.toList <:+: text.toList → QuotedFrom text quoted
  | part {l : Locator} {selector : Selector} {index : UInt64} {property : String} :
      parse text = .ok l → l.selector? = some selector → selector.index = some index →
      selector.property = some property → QuotedFrom text (selector.name ++ "[" ++ property ++ "]")

section QuotedFrom

variable {text : String} {l : Locator} {selector : Selector}

theorem payload_piece (h : parse text = .ok l) : l.payload.toList <:+: text.toList := by
  obtain ⟨rfl, -⟩ := parse_eq_ok_iff.mp h
  exact Text.piece_append_left _ (List.infix_refl _)

theorem reference_piece (h : parse text = .ok l) : l.reference.text.toList <:+: text.toList := by
  obtain ⟨rfl, -⟩ := parse_eq_ok_iff.mp h
  -- What follows the reference are a slash, the kind, another slash and the payload.
  iterate 4 refine Text.piece_append_right _ ?_
  exact List.infix_refl _

theorem payload_of_selector? (h : l.selector? = some selector) : l.payload = selector.render := by
  obtain ⟨reference, target⟩ := l
  cases target with
  | file name => cases h
  | field s | customField s =>
    cases h
    rfl

/-- The places of a selector are pieces of its written form, but for a part of a single element. -/
theorem piece_of_place {what : String} (h : selector.Place what) :
    what.toList <:+: selector.render.toList ∨
      ∃ index property, selector.index = some index ∧ selector.property = some property ∧
        what = selector.name ++ "[" ++ property ++ "]" := by
  rw [Selector.render]
  cases h with
  | field =>
    exact .inl (Text.piece_append_right _ (Text.piece_append_right _ (List.infix_refl _)))
  | element hindex =>
    rw [hindex, ← Selector.append_bracketed]
    exact .inl (Text.piece_append_right _ (List.infix_refl _))
  | @part property hproperty =>
    cases hindex : selector.index with
    | some index => exact .inr ⟨index, property, rfl, hproperty, rfl⟩
    | none =>
      rw [hproperty, ← Selector.append_bracketed, Option.elim_none, String.append_empty]
      exact .inl (List.infix_refl _)

/-- **The places of a locator** are quoted from its text. -/
theorem quotedFrom_of_place {what : String} (h : parse text = .ok l) (hplace : l.Place what) :
    QuotedFrom text what := by
  have hpayload := payload_piece h
  cases hplace with
  | file htarget =>
    rw [payload, htarget] at hpayload
    exact .piece hpayload
  | selector hselector hplace =>
    rw [payload_of_selector? hselector] at hpayload
    rcases piece_of_place hplace with hpiece | ⟨index, property, hindex, hproperty, rfl⟩
    · exact .piece (hpiece.trans hpayload)
    · exact .part h hselector hindex hproperty

end QuotedFrom

end Locator

/-- The reports of an extraction are quoted from the locator. -/
theorem Extraction.ReportsOnly.quotedFrom {text : String} {l : Locator} {e : Error}
    {result : Except Error ShownValue} (h : ReportsOnly l.Place result)
    (hparse : Locator.parse text = .ok l) (he : result = .error e) :
    Locator.QuotedFrom text e.quoted := by
  obtain ⟨what, hplace, rfl⟩ := h e he
  exact Locator.quotedFrom_of_place hparse hplace

namespace Gateway

variable {σ α : Type} {g : Gateway σ} {limit : Nat} {e : Error}

open Locator (QuotedFrom)

/-- **What a failed resolution quotes** is from the locator, or the vault has said it. -/
theorem quoted_resolveText (hterse : g.vault.Terse limit) (text : String) (unmask : Bool)
    (state : σ) (he : (g.resolveText text unmask state).1 = .error e) :
    e.quoted.length ≤ limit ∨ QuotedFrom text e.quoted := by
  have hcourse := course_resolveText g text unmask state
  generalize g.resolveText text unmask state = answer at hcourse he
  cases hcourse with
  | rejected hscreen =>
    cases he
    exact .inr (.piece (Screening.rejectsOnly_checkLocator _ hscreen).piece)
  | found h => exact .inr ((Extraction.reportsOnly_valueFound _ _ unmask).quotedFrom h.parsed he)
  | refused _ _ hlookup =>
    cases he
    rw [Error.quoted_ofLookup]
    exact .inl (hterse.lookup text state _ (congrArg Prod.fst hlookup))
  | withheld _ _ hreply =>
    cases he
    exact .inl (hterse.everything _ _ (congrArg Prod.fst hreply))
  | unselected h =>
    cases he
    exact .inr (.piece (Locator.reference_piece h.parsed))
  | selected h => exact .inr ((Extraction.reportsOnly_valueAt _ _ _ unmask).quotedFrom h.parsed he)

/-! ### Entries of a request -/

theorem length_targetOf_le (input : String) : (targetOf input).length ≤ 256 := by
  rw [targetOf, Text.firstChars, String.length_ofList]
  exact List.length_take_le _ _

/-- The entries about a rejection that quotes nothing are short. -/
theorem within_denialEntries {request : Request} {reason : Rejection} (hfits : request.Fits)
    (hreason : reason.message.length ≤ 79) (settings : AccessSettings) :
    ∀ entry ∈ denialEntries settings reason request, entry.Within 256 := by
  have hattempt (text : String) :
      (AuditEntry.attempt settings.service (targetOf text)).Within 256 :=
    AuditEntry.within_attempt (length_targetOf_le text)
  have hdenied (text : String) : (AuditEntry.denied settings.service (targetOf text)
      (Error.rejected reason).message).Within 256 := by
    refine AuditEntry.within_denied (length_targetOf_le text) ?_
    have hmessage := Text.length_append_le (by decide : "Validation rejected: ".length ≤ 21) hreason
    exact hmessage.trans (by decide)
  cases request with
  | value text | record text =>
    exact List.forall_mem_cons.mpr ⟨hattempt text, List.forall_mem_singleton.mpr (hdenied text)⟩
  | fields uid names =>
    have hcount : names.length < UInt64.size := (Nat.lt_succ_self _).trans hfits.count
    have hcounted := (hattempt uid).annotate "fields"
      ((Text.length_decimal_le hcount).trans (by decide))
    exact List.forall_mem_cons.mpr ⟨hcounted, List.forall_mem_singleton.mpr (hdenied uid)⟩
  | search query =>
    refine List.forall_mem_singleton.mpr ?_
    exact AuditEntry.within_denied (length_targetOf_le query) (hreason.trans (by decide))

/-- **Uids and queries are never echoed** beyond the limit. -/
theorem not_echoes_of_not_locator {request : Request}
    (hlocator : ∀ text unmask, request ≠ .value text unmask) (hfits : request.Fits) (state : σ) :
    ∀ entry ∈ (g.serve request state).trail, ¬entry.Echoes 256 request.input := by
  intro entry hentry
  by_cases hrejected : ∃ reason, request.Rejected reason
  · obtain ⟨reason, hreason⟩ := hrejected
    obtain ⟨reason', hreason', hserve⟩ := serve_of_rejected hreason g.settings
    rw [hserve g.vault state] at hentry
    have hquotes := hreason'.quotesFrom hfits
    have hquotable : request.quotable = [] := by
      cases request with
      | value text unmask => exact absurd rfl (hlocator text unmask)
      | record | fields | search => rfl
    have hunquoted : reason'.quoted.length = 0 := by
      have hpiece := hquotes.piece
      rw [hquotable, List.infix_nil] at hpiece
      rw [← String.length_toList, hpiece, List.length_nil]
    have hmessage := Rejection.length_message_le hquotes.sized
    rw [hunquoted] at hmessage
    change entry ∈ (if g.settings.audits then _ else []) at hentry
    split at hentry
    · exact (within_denialEntries hfits hmessage g.settings entry hentry).not_echoes
    · cases hentry
  · exact AuditEntry.not_echoes_of_length_le
      (Request.length_input_le hlocator (not_exists.mp hrejected))

/-- The entry of an error shows its message. -/
theorem message_mem_texts (g : Gateway σ) (target : String) (unmask : Bool) (e : Error) :
    e.message ∈ (g.resultEntry target unmask (.error e : Except Error α)).texts := by
  rw [resultEntry]
  split
  · exact AuditEntry.mem_texts_annotate _ _ _
  · exact List.mem_cons_self

/-- The entry of a result is short, unless it is that of an error with a long message. -/
theorem within_resultEntry {target : String} (htarget : target.length ≤ 256) (unmask : Bool)
    {result : Except Error α} (h : ∀ e, result = .error e → e.message.length ≤ 256) :
    (g.resultEntry target unmask result).Within 256 := by
  cases result with
  | ok a => exact AuditEntry.within_granted htarget unmask
  | error e =>
    rw [resultEntry]
    split
    · exact AuditEntry.within_denied htarget (h e rfl)
    · exact AuditEntry.within_plain (h e rfl)

theorem trail_value (g : Gateway σ) (text : String) (unmask : Bool) (state : σ) :
    (g.serve (.value text unmask) state).trail =
      g.kept [.attempt g.settings.service (targetOf text),
        g.resultEntry (targetOf text) unmask (g.serve (.value text unmask) state).result] := by
  have haccess : (Request.value text unmask).IsAccess := trivial
  exact trail_serve haccess state

theorem result_value_of_rejected {text : String} {reason : Rejection}
    (h : checkLocator text = .error reason) {unmask : Bool} {state : σ} :
    (g.serve (.value text unmask) state).result = .error (.rejected reason) := by
  have hcourse : ResolveCourse g text unmask state _ := .rejected h
  exact Result.map_eq_error_iff.mpr (congrArg Prod.fst hcourse.eq)

/-- **Where a locator is echoed**: in the last entry, by the message of an error. -/
theorem exists_error_of_echoes {text : String} {unmask : Bool} {state : σ} {entry : AuditEntry}
    (hentry : entry ∈ (g.serve (.value text unmask) state).trail)
    (hechoes : entry.Echoes 256 text) :
    ∃ e, (g.serve (.value text unmask) state).result = .error e ∧ 256 < e.message.length ∧
      (g.serve (.value text unmask) state).trail.getLast? = some entry := by
  rw [trail_value] at hentry ⊢
  generalize (g.serve (.value text unmask) state).result = result at hentry ⊢
  rw [kept] at hentry ⊢
  split at hentry
  · next haudits =>
    rw [if_pos haudits]
    rcases List.mem_pair.mp hentry with rfl | rfl
    · exact absurd hechoes (AuditEntry.within_attempt (length_targetOf_le text)).not_echoes
    · by_contra hno
      have hwithin : (g.resultEntry (targetOf text) unmask result).Within 256 := by
        refine within_resultEntry (length_targetOf_le text) unmask fun e he => ?_
        exact Nat.not_lt.mp fun hlong => hno ⟨e, he, hlong, rfl⟩
      exact hwithin.not_echoes hechoes
  · cases hentry

/-- **A long piece of a locator that an error quotes is echoed**, if a trail is kept. -/
theorem exists_echoes_of_quoted (haudits : g.settings.audits = true) {text : String}
    {unmask : Bool} {state : σ} (he : (g.serve (.value text unmask) state).result = .error e)
    (hlong : limit < e.quoted.length) (hpiece : e.quoted.toList <:+: text.toList) :
    ∃ entry ∈ (g.serve (.value text unmask) state).trail, entry.Echoes limit text := by
  rw [trail_value, he, kept, if_pos haudits]
  refine ⟨_, .tail _ (.head _), e.quoted.toList, ?_, hpiece, e.message, ?_, e.quoted_piece⟩
  · rwa [String.length_toList]
  · exact message_mem_texts g (targetOf text) unmask e

/-- A gateway to a vault that has no records and cannot look anything up. -/
def offline : Gateway Unit :=
  ⟨ScriptedVault.toVault { found := .error (.unavailable "offline"), records := .ok [] }, {}⟩

theorem terse_offline : offline.vault.Terse 256 := by
  refine ⟨fun uids state e he => ?_, fun state e he => ?_, fun text state e he => ?_⟩
  · cases he
  · cases he
  · cases he
    decide

/-! ### All together -/

/-- **What the trail echoes**, if the vault adds no more than 256 characters to an error. Nothing is
echoed beyond 256 characters but locators, and a locator only by the last entry of its trail, which
then tells of an error with a long quotation: one from the locator, or one by the vault that stands
where the locator reads alike. If an error quotes a piece of the locator that is longer than 256
characters, it is echoed. -/
theorem echo_bounded (g : Gateway σ) (hterse : g.vault.Terse 256) (request : Request)
    (hfits : request.Fits) (state : σ) :
    let outcome := g.serve request state
    (∀ entry ∈ outcome.trail, entry.Echoes 256 request.input →
      ∃ text unmask e, request = .value text unmask ∧ outcome.result = .error e ∧
        outcome.trail.getLast? = some entry ∧ 156 < e.quoted.length ∧
        (e.quoted.length ≤ 256 ∨ QuotedFrom text e.quoted)) ∧
    ∀ text unmask e, request = .value text unmask → g.settings.audits = true →
      outcome.result = .error e → 256 < e.quoted.length → e.quoted.toList <:+: text.toList →
      ∃ entry ∈ outcome.trail, entry.Echoes 256 text := by
  intro outcome
  constructor
  · intro entry hentry hechoes
    by_cases hlocator : ∃ text unmask, request = .value text unmask
    · obtain ⟨text, unmask, rfl⟩ := hlocator
      obtain ⟨e, he, hlong, hlast⟩ := exists_error_of_echoes hentry hechoes
      have hsized : ∀ reason, e = .rejected reason → reason.Sized := by
        rintro reason rfl
        cases mayFail_serve g _ state he with
        | rejected hrejected => exact (hrejected.quotesFrom hfits).sized
      have hmessage := Error.length_message_le hsized
      have hresolve : (g.resolveText text unmask state).1 = .error e :=
        Result.map_eq_error_iff.mp he
      exact ⟨text, unmask, e, rfl, he, hlast, by omega,
        quoted_resolveText hterse text unmask state hresolve⟩
    · have hnot : ∀ text unmask, request ≠ .value text unmask := fun text unmask h =>
        hlocator ⟨text, unmask, h⟩
      exact absurd hechoes (not_echoes_of_not_locator hnot hfits state entry hentry)
  · rintro text unmask e rfl haudits he hlong hpiece
    exact exists_echoes_of_quoted haudits he hlong hpiece

/-- A uid of three hundred characters is rejected, and no entry shows more than 256 of them. -/
theorem echo_bounded_uid :
    let uid := String.ofList (List.replicate 300 'k')
    offline.vault.Terse 256 ∧ (Request.record uid false).Fits ∧
      ∀ entry ∈ (offline.serve (.record uid false) ()).trail, ¬entry.Echoes 256 uid := by
  intro uid
  have hfits : (Request.record uid false).Fits := by
    refine ⟨by decide, List.forall_mem_singleton.mpr ?_⟩
    rw [String.length_ofList, List.length_replicate]
    decide
  refine ⟨terse_offline, hfits, fun entry hentry hechoes => ?_⟩
  obtain ⟨hlocator, -⟩ := echo_bounded offline terse_offline _ hfits ()
  obtain ⟨text, unmask, e, hrequest, -⟩ := hlocator entry hentry hechoes
  cases hrequest

/-- **A locator that is echoed**: what stands in the place of its kind is 257 characters long, and
the entry of the rejection shows it all. -/
theorem resolve_echoes_kind :
    let kind := String.ofList (List.replicate 257 'k')
    let text := "Mail" ++ "/" ++ kind ++ "/" ++ "url"
    offline.vault.Terse 256 ∧ (Request.value text false).Fits ∧
      ∃ entry ∈ (offline.serve (.value text false) ()).trail, entry.Echoes 256 text := by
  intro kind text
  have hkind : kind.toList = List.replicate 257 'k' := String.toList_ofList
  have htext : text.toList = "Mail".toList ++ "/".toList ++ List.replicate 257 'k' ++ "/".toList ++
      "url".toList := by
    simp only [text, String.toList_append, hkind]
  have hlength : text.length = 266 := by
    rw [← String.length_toList, htext]
    decide +kernel
  have hfits : (Request.value text false).Fits :=
    ⟨by decide, List.forall_mem_singleton.mpr (hlength ▸ by decide)⟩
  have hlong : 256 < kind.length := by
    rw [← String.length_toList, hkind, List.length_replicate]
    decide
  have hparse : Locator.parse text = .error (.unknownKind kind) := by
    refine Locator.parse_of_unknownKind (by decide) (by decide) ?_ ?_ "url"
    · rw [hkind]
      decide +kernel
    · cases hof : Kind.ofSpelling? kind with
      | none => rfl
      | some k =>
        -- No spelling of a kind is as long.
        have hshort : k.spelling.length ≤ 256 := by cases k <;> decide
        rw [← Kind.ofSpelling?_eq_some_iff.mp hof] at hshort
        exact absurd hshort (Nat.not_le.mpr hlong)
  have hscreen : checkLocator text = .error (.grammar (.unknownKind kind)) := by
    refine Screening.checkLocator_of_parse ?_ ?_ ?_ hparse
    · rw [String.isEmpty_eq_false_iff, ne_eq, ← String.length_eq_zero_iff, hlength]
      decide
    · rw [htext]
      decide +kernel
    · rw [htext]
      decide +kernel
  refine ⟨terse_offline, hfits,
    exists_echoes_of_quoted rfl (result_value_of_rejected hscreen) hlong ?_⟩
  iterate 2 refine Text.piece_append_right _ ?_
  exact Text.piece_append_left _ (List.infix_refl _)

end Gateway

end VaultLocator

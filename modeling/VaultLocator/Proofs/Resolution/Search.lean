import VaultLocator.Proofs.Resolution.Course
import VaultLocator.Proofs.Text.Lowering
import VaultLocator.Vault.Scripted

/-!
# What a search finds

A search goes through the records in their order and gives each one once whose title, in lower case,
has the query in lower case in it (`VaultLocator.Gateway.hits`). That is not quite the same as
having the query in it: a title that contains the query up to the case of ASCII letters
(`VaultLocator.ContainsAt`) is found where the lower-case form of the title reads as that of the
query. The two differ only in the forms of capital sigmas, so a title is found if the query keeps
its sigmas there (`VaultLocator.Gateway.titleHolds_of_containsAt`) – if it has none, in particular.

`VaultLocator.Gateway.search_complete` puts this together with the course of a search. A query that
ends in a capital sigma may miss a title in which the word goes on
(`VaultLocator.Gateway.search_misses_sigma`).
-/

namespace VaultLocator

open Screening (checkSearchQuery)
open Text (KeepsSigmas lowercase)

/-- **A title contains a query** between what stands before it and after it, up to the case of ASCII
letters. -/
def ContainsAt (query title : String) (before after : List Char) : Prop :=
  ∃ held, title.toList = before ++ (held ++ after) ∧
    held.map Char.toLower = query.toList.map Char.toLower

namespace Gateway

variable {σ : Type} {g : Gateway σ} {state : σ} {query : String} {r : Record}
  {before after : List Char}

/-! ### Titles -/

theorem titleHolds_iff : titleHolds (lowercase query.toList) r = true ↔
    lowercase query.toList <:+: lowercase r.title.toList :=
  Text.occurs_iff

/-- **A title that contains a query is found** if the query keeps its sigmas in the title. -/
theorem titleHolds_of_containsAt (h : ContainsAt query r.title before after)
    (hsigmas : KeepsSigmas before.reverse query.toList after) :
    titleHolds (lowercase query.toList) r = true := by
  obtain ⟨held, htitle, hheld⟩ := h
  rw [titleHolds_iff, htitle]
  exact Text.lowercase_infix_lowercase hheld hsigmas

/-! ### Searches -/

/-- A search succeeds exactly if its query is accepted and the vault gives its records, and then it
gives the hits among them. -/
theorem search_eq_ok_iff {found : List SearchHit} :
    (g.search query state).result = .ok found ↔ checkSearchQuery query = .ok () ∧
      ∃ records, (g.vault.everything state).1 = .ok records ∧ found = hits query records := by
  have hcourse := course_search g query state
  generalize g.search query state = outcome at hcourse
  constructor
  · intro h
    cases hcourse with
    | rejected hscreen => cases h
    | withheld hscreen hreply => cases h
    | searched hscreen hreply =>
      exact ⟨hscreen, _, by rw [hreply], (Except.ok.inj h).symm⟩
  · rintro ⟨haccepted, records, hrecords, rfl⟩
    cases hcourse with
    | rejected hscreen =>
      rw [haccepted] at hscreen
      cases hscreen
    | withheld hscreen hreply =>
      rw [hreply] at hrecords
      cases hrecords
    | searched hscreen hreply =>
      rw [hreply] at hrecords
      rw [Except.ok.inj hrecords]

/-- **What a search finds.** It succeeds exactly if the query is accepted and the vault gives its
records; then it gives, in their order and once each, the uids, titles and types of the records that
it finds. These are the ones whose title has the query in it when both are in lower case. Among them
are all records with a title that contains the query up to the case of ASCII letters, if each
capital sigma of the query has the same lower-case form in the title as in the query. -/
theorem search_complete (g : Gateway σ) (query : String) (state : σ) :
    ∃ finds : Record → Bool,
      (∀ found, (g.search query state).result = .ok found ↔ checkSearchQuery query = .ok () ∧
        ∃ records, (g.vault.everything state).1 = .ok records ∧
          found = (records.filter finds).map fun r => ⟨r.uid, r.title, r.recordType⟩) ∧
      (∀ r, finds r = true ↔ lowercase query.toList <:+: lowercase r.title.toList) ∧
      (∀ r before after, ContainsAt query r.title before after →
        KeepsSigmas before.reverse query.toList after → finds r = true) ∧
      ('\u03A3' ∉ query.toList → ∀ r before after, ContainsAt query r.title before after →
        finds r = true) := by
  refine ⟨titleHolds (lowercase query.toList), fun found => search_eq_ok_iff,
    fun r => titleHolds_iff, fun r before after h hsigmas => ?_,
    fun hquery r before after h => ?_⟩
  · exact titleHolds_of_containsAt h hsigmas
  · exact titleHolds_of_containsAt h (Text.keepsSigmas_of_notMem hquery)

/-- A title that contains the query and is not found: the last letter of the query becomes a final
sigma, but the letter in the title does not. -/
theorem search_misses_sigma :
    ContainsAt "ΑΣ" "ΑΣΗΜΙ" [] "ΗΜΙ".toList ∧
      checkSearchQuery "ΑΣ" = .ok () ∧
      (search
        ⟨ScriptedVault.toVault
          { found := .error (.unavailable "offline")
            records := .ok [{ uid := "Gr1aaaaaaaaaaaaaaaaaaA", title := "ΑΣΗΜΙ" }] }, {}⟩
        "ΑΣ" ()).result = .ok [] := by
  refine ⟨⟨"ΑΣ".toList, ?_, rfl⟩, ?_, ?_⟩
  · decide +kernel
  · decide +kernel
  · decide +kernel

end Gateway

end VaultLocator

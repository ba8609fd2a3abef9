import Mathlib.Data.List.Induction
import VaultLocator.Dict

/-!
# Last writes

A dictionary that is filled by one write after the other holds under each key the last of them.
`VaultLocator.Dict.LastWrite` says so by the place of a write among all of them, without a
dictionary: it has the key, and none after it has. What is found in the dictionary is then an `iff`
(`VaultLocator.Dict.get?_ofList_eq_some_iff`), by induction on the writes from the last one back.

Where the keys increase no write replaces another, so such a list is the dictionary that it fills
(`VaultLocator.Dict.entries_ofList`).
-/

namespace VaultLocator

namespace Dict

variable {α : Type} {writes entries : List (String × α)} {d : Dict α} {key : String} {value : α}

/-- **The last write under a key**: no later one has the key. -/
def LastWrite (writes : List (String × α)) (key : String) (value : α) : Prop :=
  ∃ before after, writes = before ++ (key, value) :: after ∧ ∀ write ∈ after, write.1 ≠ key

theorem not_lastWrite_nil : ¬LastWrite [] key value := by
  rintro ⟨before, after, hwrites, -⟩
  exact List.append_ne_nil_of_right_ne_nil before (List.cons_ne_nil _ after) hwrites.symm

/-- One more write is the last one under its key, and leaves the others as they were. -/
theorem lastWrite_append_singleton {key' : String} {value' : α} :
    LastWrite (writes ++ [(key', value')]) key value ↔
      if key' = key then value' = value else LastWrite writes key value := by
  constructor
  · rintro ⟨before, after, hwrites, hafter⟩
    rcases List.eq_nil_or_concat after with rfl | ⟨others, write, rfl⟩
    · obtain ⟨-, hlast⟩ := List.append_inj' hwrites rfl
      cases hlast
      rw [if_pos rfl]
    · rw [List.concat_eq_append] at hwrites hafter
      rw [← List.cons_append, ← List.append_assoc] at hwrites
      obtain ⟨hinit, hlast⟩ := List.append_inj' hwrites rfl
      cases hlast
      rw [if_neg (hafter _ (List.mem_append_right _ List.mem_cons_self))]
      exact ⟨before, others, hinit, fun write hwrite =>
        hafter write (List.mem_append_left _ hwrite)⟩
  · intro h
    split at h
    · next hkey =>
      subst hkey h
      exact ⟨writes, [], rfl, fun _ hwrite => nomatch hwrite⟩
    · next hkey =>
      obtain ⟨before, after, rfl, hafter⟩ := h
      refine ⟨before, after ++ [(key', value')], by simp, fun write hwrite => ?_⟩
      rcases List.mem_append.mp hwrite with hwrite | hwrite
      · exact hafter write hwrite
      · rw [List.mem_singleton.mp hwrite]
        exact hkey

theorem ofList_append_singleton (writes : List (String × α)) (key : String) (value : α) :
    ofList (writes ++ [(key, value)]) = (ofList writes).insert key value :=
  List.foldl_append

/-- **A dictionary holds the last writes.** -/
theorem get?_ofList_eq_some_iff :
    (ofList writes).get? key = some value ↔ LastWrite writes key value := by
  induction writes using List.reverseRecOn with
  | nil => exact iff_of_false (fun h => nomatch h) not_lastWrite_nil
  | append_singleton writes write ih =>
    rw [ofList_append_singleton, get?_insert, lastWrite_append_singleton, ← ih]
    split
    · exact Option.some_inj
    · exact Iff.rfl

/-- In a list in order, an entry is found under its key. -/
theorem find?_eq_some_of_mem (hsorted : entries.Pairwise (·.1 < ·.1))
    (h : (key, value) ∈ entries) : find? key entries = some value := by
  induction entries with
  | nil => cases h
  | cons entry rest ih =>
    obtain ⟨hhead, hrest⟩ := List.pairwise_cons.mp hsorted
    rcases List.mem_cons.mp h with rfl | hmem
    · exact find?_head _ rest
    · have hlt : entry.1 < key := hhead (key, value) hmem
      have hne : entry.1 ≠ key := fun heq => String.lt_irrefl key (heq ▸ hlt)
      rw [find?, if_neg hne, ih hrest hmem]

theorem mem_of_find?_eq_some (h : find? key entries = some value) : (key, value) ∈ entries := by
  induction entries with
  | nil => cases h
  | cons entry rest ih =>
    rw [find?] at h
    split at h
    · next hkey =>
      cases h
      subst hkey
      exact List.mem_cons_self
    · exact List.mem_cons_of_mem _ (ih h)

/-- **The entries of a dictionary** are what is found in it. -/
theorem mem_entries_iff : (key, value) ∈ d.entries ↔ d.get? key = some value :=
  ⟨find?_eq_some_of_mem d.sorted, mem_of_find?_eq_some⟩

/-- Writes whose keys increase are all last writes. -/
theorem lastWrite_iff_mem_of_sorted (hsorted : writes.Pairwise (·.1 < ·.1)) :
    LastWrite writes key value ↔ (key, value) ∈ writes := by
  constructor
  · rintro ⟨before, after, rfl, -⟩
    exact List.mem_append_right before List.mem_cons_self
  · intro h
    obtain ⟨before, after, rfl⟩ := List.append_of_mem h
    obtain ⟨-, hafter, -⟩ := List.pairwise_append.mp hsorted
    refine ⟨before, after, rfl, fun write hwrite heq => ?_⟩
    exact String.lt_irrefl key (heq ▸ (List.pairwise_cons.mp hafter).1 write hwrite)

/-- **Entries whose keys increase** are entered as they are. -/
theorem entries_ofList (hsorted : entries.Pairwise (·.1 < ·.1)) :
    (ofList entries).entries = entries := by
  have hsame : ofList entries = ⟨entries, hsorted⟩ := by
    refine ext_get? fun key => Option.ext fun value => ?_
    rw [get?_ofList_eq_some_iff, lastWrite_iff_mem_of_sorted hsorted, ← mem_entries_iff]
  rw [hsame]

end Dict

end VaultLocator

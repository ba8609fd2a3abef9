import Mathlib.Data.List.TakeWhile
import VaultLocator.Proofs.Result
import VaultLocator.Screening.Rules

/-!
# No screening lets a command through

A construct by which a shell would run a command starts with one of ten characters, the
`VaultLocator.Danger.commandMarks`, so a text without them holds no command. Of the screening rules
seven ask for commands in so many words, at one place or another of the rule. The rules for tokens,
names of profiles and paths do not: a token and the name of a profile are made of letters that are
no marks, and each mark is either a metacharacter of paths or a control character.

`VaultLocator.Screening.screen` gathers the rules by their subjects, and
`VaultLocator.Screening.screen_rejects_commands` says of all of them at once that a text with a
command in it is rejected, wherever in the text the command stands.
-/

namespace VaultLocator

/-! ### The characters that a command starts with -/

namespace Danger

variable {text : List Char} {c : Char}

/-- The characters that a command starts with. -/
def commandMarks : List Char :=
  [';', '|', '&', '\x60', '<', '>', '\n', '\r', '\x00', '$']

theorem mem_commandMarks_of_isCommandChar (h : isCommandChar c = true) : c ∈ commandMarks := by
  simp only [isCommandChar, Bool.or_eq_true, beq_iff_eq] at h
  rcases h with (((((((rfl | rfl) | rfl) | rfl) | rfl) | rfl) | rfl) | rfl) | rfl <;> decide

/-- A text that holds a command holds one of the marks. -/
theorem exists_mem_commandMarks (h : hasCommandInjection text = true) :
    ∃ c ∈ text, c ∈ commandMarks := by
  obtain ⟨before, rest, rfl, hopens⟩ := Text.anySuffix_iff.mp h
  cases rest with
  | nil => cases hopens
  | cons c rest =>
    refine ⟨c, by simp, ?_⟩
    rw [opensCommand, Bool.or_eq_true, Bool.and_eq_true, beq_iff_eq] at hopens
    rcases hopens with hchar | ⟨rfl, -⟩
    · exact mem_commandMarks_of_isCommandChar hchar
    · decide

/-- **A text over an alphabet without marks holds no command.** -/
theorem hasCommandInjection_eq_false {p : Char → Bool} (hp : commandMarks.any p = false)
    (h : ∀ c ∈ text, p c = true) : hasCommandInjection text = false := by
  rw [← Bool.not_eq_true]
  intro hcommand
  obtain ⟨c, hc, hmark⟩ := exists_mem_commandMarks hcommand
  have hany := List.any_eq_true.mpr ⟨c, hmark, h c hc⟩
  rw [hp] at hany
  cases hany

end Danger

namespace Screening

open Danger (commandMarks hasCommandInjection hasCommandInjection_eq_false)

/-- A rule of several steps is passed exactly when its first step is and the others are. -/
theorem seq_eq_ok_iff {first rest : Except Rejection Unit} :
    (first >>= fun _ => rest) = .ok () ↔ first = .ok () ∧ rest = .ok () := by
  rw [Result.bind_eq_ok_iff]
  constructor
  · rintro ⟨⟨⟩, hfirst, hrest⟩
    exact ⟨hfirst, hrest⟩
  · rintro ⟨hfirst, hrest⟩
    exact ⟨(), hfirst, hrest⟩

theorem exists_error_of_ne_ok {result : Except Rejection Unit} (h : result ≠ .ok ()) :
    ∃ reason, result = .error reason := by
  cases result with
  | ok => exact absurd rfl h
  | error reason => exact ⟨reason, rfl⟩

/-! ### Rules that ask for commands -/

section Asking

variable {subject : Subject} {text : String}

theorem checkCommand_eq_ok_iff {text : List Char} :
    checkCommand subject text = .ok () ↔ hasCommandInjection text = false :=
  refuse_eq_ok_iff

theorem no_command_of_checkUid (h : checkUid text = .ok ()) :
    hasCommandInjection text.toList = false := by
  rw [checkUid] at h
  obtain ⟨hcommand, -⟩ := seq_eq_ok_iff.mp h
  exact checkCommand_eq_ok_iff.mp hcommand

theorem no_command_of_checkLocator (h : checkLocator text = .ok ()) :
    hasCommandInjection text.toList = false := by
  rw [checkLocator] at h
  obtain ⟨-, h⟩ := seq_eq_ok_iff.mp h
  obtain ⟨hcommand, -⟩ := seq_eq_ok_iff.mp h
  exact checkCommand_eq_ok_iff.mp hcommand

theorem no_command_of_checkSearchQuery (h : checkSearchQuery text = .ok ()) :
    hasCommandInjection text.toList = false := by
  rw [checkSearchQuery] at h
  obtain ⟨-, h⟩ := seq_eq_ok_iff.mp h
  obtain ⟨hcommand, -⟩ := seq_eq_ok_iff.mp h
  exact checkCommand_eq_ok_iff.mp hcommand

theorem no_command_of_checkProse {text : List Char} {max : Nat}
    (h : checkProse subject max text = .ok ()) : hasCommandInjection text = false := by
  rw [checkProse] at h
  obtain ⟨-, h⟩ := seq_eq_ok_iff.mp h
  obtain ⟨-, h⟩ := seq_eq_ok_iff.mp h
  obtain ⟨hcommand, -⟩ := seq_eq_ok_iff.mp h
  exact checkCommand_eq_ok_iff.mp hcommand

theorem no_command_of_checkUrl (h : checkUrl text = .ok ()) :
    hasCommandInjection text.toList = false := by
  rw [checkUrl] at h
  obtain ⟨-, h⟩ := seq_eq_ok_iff.mp h
  -- An address that is not refused for its scheme is asked for commands last.
  dsimp only at h
  split at h
  · cases h
  · exact checkCommand_eq_ok_iff.mp h

theorem no_command_of_checkUsername (h : checkUsername text = .ok ()) :
    hasCommandInjection text.toList = false := by
  rw [checkUsername] at h
  obtain ⟨-, h⟩ := seq_eq_ok_iff.mp h
  obtain ⟨hcommand, -⟩ := seq_eq_ok_iff.mp h
  exact checkCommand_eq_ok_iff.mp hcommand

end Asking

/-! ### Rules that do not -/

section Alphabets

variable {text : String}

/-- The characters that may stand in a token. -/
def isTokenChar (c : Char) : Bool :=
  isUidChar c || c == ':' || c == '='

/-- The name of a region is made of letters. -/
theorem isTokenChar_of_mem_regions {region : String} (h : regions.contains region = true) :
    ∀ c ∈ region.toList, isTokenChar c = true := by
  have hall : (regions.all fun region => region.toList.all isTokenChar) = true := by decide
  have hletters := List.all_eq_true.mp hall region (List.contains_iff_mem.mp h)
  exact List.all_eq_true.mp hletters

theorem isTokenChar_of_isTokenPayload {payload : List Char} (h : isTokenPayload payload = true) :
    ∀ c ∈ payload, isTokenChar c = true := by
  intro c hc
  rw [isTokenPayload, Bool.and_eq_true, List.contains_iff_mem] at h
  -- A payload is a run of characters of a uid and the padding after it.
  rw [← List.takeWhile_append_dropWhile (p := isUidChar) (l := payload), List.mem_append] at hc
  rcases hc with hrun | hpad
  · have huid := List.mem_takeWhile_imp hrun
    simp [isTokenChar, huid]
  · have hequals : c = '=' := by
      have hpadding := h.2
      simp only [List.mem_cons, List.not_mem_nil, or_false] at hpadding
      rcases hpadding with hnil | hone | htwo
      · rw [hnil] at hpad
        cases hpad
      · rw [hone] at hpad
        exact List.mem_singleton.mp hpad
      · rw [htwo] at hpad
        simpa using hpad
    rw [hequals]
    rfl

theorem no_command_of_checkToken (h : checkToken text = .ok ()) :
    hasCommandInjection text.toList = false := by
  rw [checkToken] at h
  obtain ⟨-, h⟩ := seq_eq_ok_iff.mp h
  split at h
  · cases h
  next region payload hcut =>
    obtain ⟨htext, -⟩ := Text.cutAt_eq_some_iff.mp hcut
    obtain ⟨hregion, h⟩ := seq_eq_ok_iff.mp h
    obtain ⟨-, hpayload⟩ := seq_eq_ok_iff.mp h
    have hregion := refuse_eq_ok_iff.mp hregion
    have hpayload := refuse_eq_ok_iff.mp hpayload
    rw [Bool.not_eq_false'] at hregion hpayload
    refine hasCommandInjection_eq_false (p := isTokenChar) (by decide) fun c hc => ?_
    rw [htext, List.mem_append, List.mem_cons] at hc
    rcases hc with hc | rfl | hc
    · exact isTokenChar_of_mem_regions hregion c (by simpa using hc)
    · rfl
    · exact isTokenChar_of_isTokenPayload hpayload c hc

theorem no_command_of_checkProfileName (h : checkProfileName text = .ok ()) :
    hasCommandInjection text.toList = false := by
  rw [checkProfileName] at h
  obtain ⟨-, h⟩ := seq_eq_ok_iff.mp h
  obtain ⟨-, h⟩ := seq_eq_ok_iff.mp h
  obtain ⟨hcharset, -⟩ := seq_eq_ok_iff.mp h
  have hcharset := refuse_eq_ok_iff.mp hcharset
  rw [Bool.not_eq_false', List.all_eq_true] at hcharset
  exact hasCommandInjection_eq_false (by decide) hcharset

theorem no_command_of_checkFilePath (h : checkFilePath text = .ok ()) :
    hasCommandInjection text.toList = false := by
  rw [checkFilePath] at h
  obtain ⟨-, h⟩ := seq_eq_ok_iff.mp h
  obtain ⟨-, h⟩ := seq_eq_ok_iff.mp h
  obtain ⟨-, hmeta⟩ := seq_eq_ok_iff.mp h
  have hmeta := refuse_eq_ok_iff.mp hmeta
  rw [Bool.or_eq_false_iff, List.any_eq_false, List.any_eq_false] at hmeta
  -- Each mark is a metacharacter of paths or a control character.
  have hmarks : (commandMarks.any fun c =>
      !(Danger.isPathMetacharacter c || Text.isControl c)) = false := by decide
  refine hasCommandInjection_eq_false hmarks fun c hc => ?_
  simp [hmeta.1 c hc, hmeta.2 c hc]

end Alphabets

/-! ### All together -/

/-- The rule by which a text is screened. -/
def screen : Subject → String → Except Rejection Unit
  | .uid => checkUid
  | .token => checkToken
  | .profileName => checkProfileName
  | .filePath => checkFilePath
  | .locator => checkLocator
  | .searchQuery => checkSearchQuery
  | .title => checkTitle
  | .notes => checkNotes
  | .url => checkUrl
  | .username => checkUsername

/-- What passes a screening holds no command. -/
theorem no_command_of_screen {subject : Subject} {text : String}
    (h : screen subject text = .ok ()) : hasCommandInjection text.toList = false := by
  cases subject with
  | uid => exact no_command_of_checkUid h
  | token => exact no_command_of_checkToken h
  | profileName => exact no_command_of_checkProfileName h
  | filePath => exact no_command_of_checkFilePath h
  | locator => exact no_command_of_checkLocator h
  | searchQuery => exact no_command_of_checkSearchQuery h
  | title => exact no_command_of_checkProse h
  | notes => exact no_command_of_checkProse h
  | url => exact no_command_of_checkUrl h
  | username => exact no_command_of_checkUsername h

/-- **A text that holds a command is rejected**, whatever it is for. -/
theorem screen_rejects_commands (text : String) (h : hasCommandInjection text.toList = true)
    (subject : Subject) : ∃ reason, screen subject text = .error reason := by
  refine exists_error_of_ne_ok fun hscreen => ?_
  rw [no_command_of_screen hscreen] at h
  cases h

/-- A command in the middle of a text that would otherwise be a path, a title or a name. -/
theorem screen_rejects_commands_substitution :
    hasCommandInjection "reports/$(reboot)/2024".toList = true ∧
      ∀ subject, ∃ reason, screen subject "reports/$(reboot)/2024" = .error reason := by
  have hcommand : hasCommandInjection "reports/$(reboot)/2024".toList = true := by decide
  exact ⟨hcommand, screen_rejects_commands _ hcommand⟩

end Screening

end VaultLocator

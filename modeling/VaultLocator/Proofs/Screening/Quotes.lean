import Mathlib.Data.Nat.Digits.Defs
import VaultLocator.Proofs.Locator.RoundTrip
import VaultLocator.Screening.Rules

/-!
# What a rejection quotes

The wording of a rejection is short, but a rejection may quote, and a quotation has any length
(`VaultLocator.Rejection.length_message_le`). Of the rules that a gateway screens its requests by,
only the one for locators quotes from the text that it rejects: a grammar error shows a piece of
the text, which is what stands in the place of the kind, what stands in the place of an index, or
the payload (`VaultLocator.Locator.quoted_of_parse`). The reasons of the other rules quote nothing.

A rule is gone through step by step: each step has only reasons of one sort
(`VaultLocator.Screening.RejectsOnly`), and so do steps in a row.
-/

namespace VaultLocator

namespace Text

theorem length_append_le {s t : String} {m n : Nat} (hs : s.length ≤ m) (ht : t.length ≤ n) :
    (s ++ t).length ≤ m + n := by
  rw [String.length_append]
  exact Nat.add_le_add hs ht

theorem length_decimal_le {n : Nat} (h : n < UInt64.size) : (decimal n).length ≤ 20 := by
  have hlt : n < 10 ^ 20 := h.trans (by decide)
  rw [decimal, String.length_ofList]
  exact Nat.toDigits_length 10 n 20 (by decide) hlt

/-- A piece of a text is a piece of it with something in front. -/
theorem piece_append_left {piece : List Char} (s : String) {t : String} (h : piece <:+: t.toList) :
    piece <:+: (s ++ t).toList := by
  rw [String.toList_append]
  exact h.trans (List.suffix_append _ _).isInfix

theorem piece_append_right {piece : List Char} {s : String} (t : String) (h : piece <:+: s.toList) :
    piece <:+: (s ++ t).toList := by
  rw [String.toList_append]
  exact h.trans (List.prefix_append _ _).isInfix

end Text

open Text (length_append_le length_decimal_le)

/-! ### Messages and what they quote -/

namespace GrammarError

/-- What the message of a grammar error quotes. -/
def quoted : GrammarError → String
  | .malformed (.emptyProperty payload) => payload
  | .unknownKind segment => segment
  | .invalidIndex text => text
  | .emptyInput | .malformed _ | .missingPayload _ => ""

theorem length_malformation_le (what : Malformation) :
    what.message.length ≤ 34 + (GrammarError.malformed what).quoted.length := by
  cases what with
  | noSeparator | noReference => decide
  | emptyProperty payload =>
    have hmessage : (Malformation.emptyProperty payload).message.length ≤ 19 + payload.length + 1 :=
      length_append_le (length_append_le (by decide) le_rfl) (by decide)
    exact hmessage.trans (by change _ ≤ 34 + payload.length; omega)

theorem length_message_le (e : GrammarError) : e.message.length ≤ 54 + e.quoted.length := by
  cases e with
  | emptyInput => decide
  | malformed what =>
    have hmessage := length_append_le (by decide : "Malformed notation: ".length ≤ 20)
      (length_malformation_le what)
    exact hmessage.trans (Nat.add_assoc 20 34 _).ge
  | unknownKind segment => exact length_append_le (by decide) le_rfl
  | missingPayload kind => cases kind <;> decide
  | invalidIndex text => exact length_append_le (by decide) le_rfl

/-- What a message quotes is in it. -/
theorem quoted_piece (e : GrammarError) : e.quoted.toList <:+: e.message.toList := by
  cases e with
  | emptyInput | missingPayload => exact List.nil_infix
  | malformed what =>
    cases what with
    | noSeparator | noReference => exact List.nil_infix
    | emptyProperty payload =>
      refine Text.piece_append_left _ (Text.piece_append_right _ ?_)
      exact Text.piece_append_left _ (List.infix_refl _)
  | unknownKind segment | invalidIndex text => exact Text.piece_append_left _ (List.infix_refl _)

end GrammarError

theorem Subject.length_wording_le (subject : Subject) : subject.wording.length ≤ 12 := by
  cases subject <;> decide

namespace Rejection

/-- What the message of a rejection quotes. -/
def quoted : Rejection → String
  | .invalidFormat _ detail => detail
  | .reservedName name => name
  | .invalidRegion region => region
  | .dangerousScheme scheme => scheme
  | .grammar error => error.quoted
  | _ => ""

/-- The numbers that a rejection tells of fit into a word of 64 bits. -/
def Sized : Rejection → Prop
  | .tooShort _ min actual => min < UInt64.size ∧ actual < UInt64.size
  | .tooLong _ max actual => max < UInt64.size ∧ actual < UInt64.size
  | _ => True

section Wording

variable (subject : Subject)

private theorem length_wording_append_le {s : String} (h : s.length ≤ 67) :
    (subject.wording ++ s).length ≤ 79 :=
  length_append_le subject.length_wording_le h

private theorem length_measured_le {verb than : String} (hverb : verb.length ≤ 12)
    (hthan : than.length ≤ 12) {bound actual : Nat} (hbound : bound < UInt64.size)
    (hactual : actual < UInt64.size) :
    (subject.wording ++ verb ++ Text.decimal actual ++ than ++ Text.decimal bound ++
      ")").length ≤ 79 := by
  have hfirst : (subject.wording ++ verb ++ Text.decimal actual).length ≤ 12 + 12 + 20 :=
    length_append_le (length_append_le subject.length_wording_le hverb) (length_decimal_le hactual)
  have hsecond := length_append_le (length_append_le hfirst hthan) (length_decimal_le hbound)
  have hclose : ")".length ≤ 1 := by decide
  exact (length_append_le hsecond hclose).trans (by decide)

end Wording

/-- **The wording of a rejection is bounded**: its message is at most 79 characters longer than what
it quotes. -/
theorem length_message_le {reason : Rejection} (h : reason.Sized) :
    reason.message.length ≤ 79 + reason.quoted.length := by
  -- Most reasons quote nothing; then it is enough that the message is short.
  cases reason with
  | tooShort subject | tooLong subject =>
    exact (length_measured_le subject (by decide) (by decide) h.1 h.2).trans (Nat.le_add_right _ _)
  | invalidFormat subject detail =>
    have hwording := length_append_le subject.length_wording_le
      (by decide : " has invalid format: ".length ≤ 67)
    exact length_append_le hwording le_rfl
  | reservedName name =>
    have hmessage : (Rejection.reservedName name).message.length ≤ 14 + name.length + 13 :=
      length_append_le (length_append_le (by decide) le_rfl) (by decide)
    exact hmessage.trans (by change _ ≤ 79 + name.length; omega)
  | invalidRegion region =>
    have hmessage : (Rejection.invalidRegion region).message.length ≤ 22 + region.length + 1 :=
      length_append_le (length_append_le (by decide) le_rfl) (by decide)
    exact hmessage.trans (by change _ ≤ 79 + region.length; omega)
  | dangerousScheme scheme =>
    have hmessage : (Rejection.dangerousScheme scheme).message.length ≤ 12 + scheme.length + 16 :=
      length_append_le (length_append_le (by decide) le_rfl) (by decide)
    exact hmessage.trans (by change _ ≤ 79 + scheme.length; omega)
  | grammar error =>
    have hmessage : (Rejection.grammar error).message.length ≤ 18 + (54 + error.quoted.length) :=
      length_append_le (by decide) error.length_message_le
    exact hmessage.trans (by change _ ≤ 79 + error.quoted.length; omega)
  | _ subject =>
    exact (length_wording_append_le subject (by decide)).trans (Nat.le_add_right _ _)

/-- What a message quotes is in it. -/
theorem quoted_piece (reason : Rejection) : reason.quoted.toList <:+: reason.message.toList := by
  cases reason with
  | invalidFormat subject detail => exact Text.piece_append_left _ (List.infix_refl _)
  | reservedName text | invalidRegion text | dangerousScheme text =>
    exact Text.piece_append_right _ (Text.piece_append_left _ (List.infix_refl _))
  | grammar error => exact Text.piece_append_left _ error.quoted_piece
  | _ => exact List.nil_infix

/-- **A rejection quotes from a text**: what it quotes is a piece of it, and its numbers fit into a
word. Nothing but the empty text is quoted from the empty text. -/
structure QuotesFrom (source : List Char) (reason : Rejection) : Prop where
  sized : reason.Sized
  piece : reason.quoted.toList <:+: source

theorem quotesFrom_of_quoted_eq {source : List Char} {reason : Rejection} (hsized : reason.Sized)
    (h : reason.quoted = "") : reason.QuotesFrom source := by
  refine ⟨hsized, ?_⟩
  rw [h]
  exact List.nil_infix

end Rejection

/-! ### Grammar errors -/

namespace Locator

/-- The kind and the payload of a text are pieces of it. -/
theorem pieces_of_split {text : String} {parts : Parts} (h : split text = .ok parts) :
    parts.kind.toList <:+: text.toList ∧ parts.payload.toList <:+: text.toList := by
  rw [split] at h
  split at h
  · cases h
  split at h
  · cases h
  next reference rest hfirst =>
    obtain ⟨htext, -⟩ := Text.cutAt_eq_some_iff.mp hfirst
    have hrest : rest <:+: text.toList := by
      rw [htext]
      exact ((List.suffix_cons '/' rest).trans (List.suffix_append _ _)).isInfix
    split at h
    · cases h
      exact ⟨by rwa [String.toList_ofList], List.nil_infix⟩
    · next kind payload hsecond =>
      obtain ⟨rfl, -⟩ := Text.cutAt_eq_some_iff.mp hsecond
      cases h
      rw [String.toList_ofList, String.toList_ofList]
      have hpayload : payload <:+ kind ++ '/' :: payload :=
        (List.suffix_cons '/' payload).trans (List.suffix_append _ _)
      exact ⟨(List.prefix_append _ _).isInfix.trans hrest, hpayload.isInfix.trans hrest⟩

theorem quoted_of_readIndex {text : List Char} {e : GrammarError}
    (h : readIndex text = .error e) : e.quoted.toList = text := by
  rw [readIndex] at h
  split at h
  · cases h
  · cases h
    exact String.toList_ofList

/-- What stands within a group is a piece of the text that the group ends. -/
theorem piece_withGroup (before inner : List Char) : inner <:+: withGroup before inner :=
  ⟨before ++ ['['], [']'], by simp [withGroup]⟩

theorem before_piece_withGroup (before inner : List Char) : before <:+: withGroup before inner :=
  ⟨[], '[' :: inner ++ [']'], by simp [withGroup]⟩

theorem quoted_of_readSelector {kind : Kind} {payload : List Char} {e : GrammarError}
    (h : readSelector kind payload = .error e) : e.quoted.toList <:+: payload := by
  rw [readSelector] at h
  split at h
  · cases h
    exact List.nil_infix
  cases hgroups : groups payload with
  | bare name =>
    rw [hgroups] at h
    cases h
  | one name inner =>
    obtain ⟨-, -, -, rfl⟩ := groups_eq_one_iff.mp hgroups
    rw [hgroups] at h
    simp only at h
    split at h
    · rcases Result.bind_eq_error_iff.mp h with hindex | ⟨index, -, h⟩
      · rw [quoted_of_readIndex hindex]
        exact piece_withGroup name inner
      · cases h
    · cases h
  | two name first second =>
    obtain ⟨-, -, -, rfl⟩ := groups_eq_two_iff.mp hgroups
    rw [hgroups] at h
    rcases Result.bind_eq_error_iff.mp h with hindex | ⟨index, -, h⟩
    · rw [quoted_of_readIndex hindex]
      exact (piece_withGroup name first).trans (before_piece_withGroup _ second)
    · split at h
      · cases h
        exact String.toList_ofList ▸ List.infix_refl _
      · cases h

theorem quoted_of_readTarget {kind : Kind} {payload : String} {e : GrammarError}
    (h : readTarget kind payload = .error e) : e.quoted.toList <:+: payload.toList := by
  cases kind with
  | file => cases h
  | field | customField => exact quoted_of_readSelector (Result.map_eq_error_iff.mp h)

/-- **A grammar error quotes a piece of the text** that is no locator. -/
theorem quoted_of_parse {text : String} {e : GrammarError} (h : parse text = .error e) :
    e.quoted.toList <:+: text.toList := by
  rw [parse] at h
  rcases Result.bind_eq_error_iff.mp h with hsplit | ⟨parts, hsplit, h⟩
  · -- A text that cannot be cut is not quoted at all.
    rw [split] at hsplit
    split at hsplit
    · cases hsplit
      exact List.nil_infix
    · split at hsplit
      · cases hsplit
        exact List.nil_infix
      · split at hsplit <;> cases hsplit
  obtain ⟨hkind, hpayload⟩ := pieces_of_split hsplit
  split at h
  · cases h
    exact List.nil_infix
  split at h
  · cases h
    exact hkind
  split at h
  · cases h
    exact List.nil_infix
  rcases Result.bind_eq_error_iff.mp h with htarget | ⟨target, -, h⟩
  · exact (quoted_of_readTarget htarget).trans hpayload
  · cases h

/-- What stands between the first two slashes and is no kind is the error. -/
theorem parse_of_unknownKind {reference kind : String} (hne : reference.isEmpty = false)
    (hreference : '/' ∉ reference.toList) (hkind : '/' ∉ kind.toList)
    (hunknown : Kind.ofSpelling? kind = none) (payload : String) :
    parse (reference ++ "/" ++ kind ++ "/" ++ payload) = .error (.unknownKind kind) := by
  rw [parse, split_of_slashes hreference hkind]
  simp only [bind, Except.bind, hne, hunknown]
  rfl

end Locator

/-! ### The reasons of a rule -/

namespace Screening

/-- A rule that has only reasons of one sort to reject a text. -/
def RejectsOnly (p : Rejection → Prop) (result : Except Rejection Unit) : Prop :=
  ∀ reason, result = .error reason → p reason

section Steps

variable {p : Rejection → Prop} {first rest : Except Rejection Unit}

theorem rejectsOnly_refuse {condition : Bool} {reason : Rejection} (h : p reason) :
    RejectsOnly p (refuse condition reason) := by
  intro reason' hreason
  cases condition with
  | false => cases hreason
  | true =>
    cases hreason
    exact h

/-- **Steps in a row** have only reasons of a sort if each of them does. -/
theorem RejectsOnly.seq (hfirst : RejectsOnly p first) (hrest : RejectsOnly p rest) :
    RejectsOnly p (first >>= fun _ => rest) := by
  intro reason h
  rcases Result.bind_eq_error_iff.mp h with h | ⟨-, -, h⟩
  · exact hfirst reason h
  · exact hrest reason h

end Steps

section Rules

variable {source : List Char} {subject : Subject} {text : String}

/-- A step that quotes nothing. -/
theorem rejectsOnly_refuse_unquoted {condition : Bool} {reason : Rejection}
    (hsized : reason.Sized) (h : reason.quoted = "") :
    RejectsOnly (·.QuotesFrom source) (refuse condition reason) :=
  rejectsOnly_refuse (Rejection.quotesFrom_of_quoted_eq hsized h)

theorem rejectsOnly_checkMin {min : Nat} {text : List Char} (hmin : min < UInt64.size)
    (h : text.length < UInt64.size) :
    RejectsOnly (·.QuotesFrom source) (checkMin subject min text) :=
  RejectsOnly.seq (rejectsOnly_refuse_unquoted trivial rfl)
    (rejectsOnly_refuse_unquoted ⟨hmin, h⟩ rfl)

theorem rejectsOnly_checkMax {max : Nat} {text : List Char} (hmax : max < UInt64.size)
    (h : text.length < UInt64.size) :
    RejectsOnly (·.QuotesFrom source) (checkMax subject max text) :=
  rejectsOnly_refuse_unquoted ⟨hmax, h⟩ rfl

theorem rejectsOnly_checkCommand {text : List Char} :
    RejectsOnly (·.QuotesFrom source) (checkCommand subject text) :=
  rejectsOnly_refuse_unquoted trivial rfl

theorem rejectsOnly_checkUid (h : text.toList.length < UInt64.size) :
    RejectsOnly (·.QuotesFrom source) (checkUid text) := by
  rw [checkUid]
  refine RejectsOnly.seq rejectsOnly_checkCommand ?_
  refine RejectsOnly.seq (rejectsOnly_checkMin (by decide) h) ?_
  refine RejectsOnly.seq (rejectsOnly_checkMax (by decide) h) ?_
  exact rejectsOnly_refuse_unquoted trivial rfl

theorem rejectsOnly_checkTitle (h : text.toList.length < UInt64.size) :
    RejectsOnly (·.QuotesFrom source) (checkTitle text) := by
  rw [checkTitle, checkProse]
  refine RejectsOnly.seq (rejectsOnly_checkMax (by decide) h) ?_
  refine RejectsOnly.seq (rejectsOnly_refuse_unquoted trivial rfl) ?_
  refine RejectsOnly.seq rejectsOnly_checkCommand ?_
  exact rejectsOnly_refuse_unquoted trivial rfl

theorem rejectsOnly_checkSearchQuery (h : text.toList.length < UInt64.size) :
    RejectsOnly (·.QuotesFrom source) (checkSearchQuery text) := by
  rw [checkSearchQuery]
  refine RejectsOnly.seq (rejectsOnly_checkMax (by decide) h) ?_
  refine RejectsOnly.seq rejectsOnly_checkCommand ?_
  refine RejectsOnly.seq (rejectsOnly_refuse_unquoted trivial rfl) ?_
  refine RejectsOnly.seq (rejectsOnly_refuse_unquoted trivial rfl) ?_
  exact rejectsOnly_refuse_unquoted trivial rfl

/-- **The rule for locators quotes from the text**, and from nothing else. -/
theorem rejectsOnly_checkLocator :
    RejectsOnly (·.QuotesFrom text.toList) (checkLocator text) := by
  rw [checkLocator]
  refine RejectsOnly.seq (rejectsOnly_refuse_unquoted trivial rfl) ?_
  refine RejectsOnly.seq rejectsOnly_checkCommand ?_
  refine RejectsOnly.seq (rejectsOnly_refuse_unquoted trivial rfl) ?_
  intro reason h
  cases hparse : Locator.parse text with
  | ok l =>
    rw [hparse] at h
    cases h
  | error e =>
    rw [hparse] at h
    cases h
    exact ⟨trivial, Locator.quoted_of_parse hparse⟩

/-- A text that holds nothing dangerous is rejected for what is wrong with it as a locator. -/
theorem checkLocator_of_parse {e : GrammarError} (hne : text.isEmpty = false)
    (hcommand : Danger.hasCommandInjection text.toList = false)
    (hclimb : (Text.occurs ['.', '.'] text.toList || Danger.hasPathTraversal text.toList) = false)
    (h : Locator.parse text = .error e) : checkLocator text = .error (.grammar e) := by
  rw [checkLocator, hne, checkCommand]
  simp only [hcommand, hclimb, h]
  rfl

end Rules

end Screening

end VaultLocator

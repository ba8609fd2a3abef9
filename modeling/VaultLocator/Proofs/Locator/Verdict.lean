import VaultLocator.Proofs.Locator.RoundTrip

/-!
# The verdict on a text

Which locator a text is, or why it is none, is said here of the text alone. It has at most three
*segments* (`VaultLocator.Locator.Segments`), and the verdict on it (`VaultLocator.Locator.Verdict`)
depends on them in order: something has to stand before the first slash, then there has to be a
kind, then a payload. A payload that is the name of a file is taken as it is, and for a field the
verdict is that on its bracket groups (`VaultLocator.Locator.GroupsVerdict`), where two groups come
before one and one before none. A text has only one verdict, and it is what the text is read as:
`VaultLocator.Locator.parse_eq_iff_verdict`.

The groups are those of `VaultLocator.Proofs.Locator.BracketGroup`, forms of a text that say nothing
of a scan. What is new is which of two errors is reported: the first group is read before the second
is looked at, so `url[x][]` has an invalid index and not an empty property.
-/

namespace VaultLocator.Locator

/-! ### Numerals of indices -/

/-- **A text is the numeral of an index**: ASCII digits, at least one, no zero in front of others,
and with the value of the index, which is below `2 ^ 64`. -/
structure IndexNumeral (text : List Char) (index : UInt64) : Prop where
  ne_nil : text ≠ []
  digits : ∀ c ∈ text, '0' ≤ c ∧ c ≤ '9'
  unpadded : text.head? = some '0' → text = ['0']
  value : Nat.ofDigitChars 10 text 0 = index.toNat

theorem isCanonical_iff_digits {text : List Char} :
    Text.isCanonical text = true ↔ text ≠ [] ∧ (∀ c ∈ text, '0' ≤ c ∧ c ≤ '9') ∧
      (text.head? = some '0' → text = ['0']) := by
  have hlead : (text == ['0'] || text.head? != some '0') = true ↔
      (text.head? = some '0' → text = ['0']) := by
    rw [Bool.or_eq_true, beq_iff_eq, bne_iff_ne, ← imp_iff_or_not]
  rw [Text.isCanonical, Bool.and_eq_true, Bool.and_eq_true, hlead, all_isDigit_iff,
    Bool.not_eq_true', List.isEmpty_eq_false_iff, and_assoc]

/-- An index is read from its numeral. -/
theorem readIndex_eq_ok_iff_numeral {text : List Char} {index : UInt64} :
    readIndex text = .ok index ↔ IndexNumeral text index := by
  rw [readIndex_eq_ok_iff, Text.decimal, String.toList_ofList]
  constructor
  · intro htext
    have hcanonical : Text.isCanonical text = true := by
      rw [htext]
      exact Text.isCanonical_toDigits _
    obtain ⟨hne, hdigits, hlead⟩ := isCanonical_iff_digits.mp hcanonical
    refine ⟨hne, hdigits, hlead, ?_⟩
    rw [htext, Nat.ofDigitChars_ten_toDigits]
  · intro h
    have hcanonical : Text.isCanonical text = true :=
      isCanonical_iff_digits.mpr ⟨h.ne_nil, h.digits, h.unpadded⟩
    rw [← h.value]
    exact Text.isCanonical_iff.mp hcanonical

/-- What is no numeral of an index is reported as it is. -/
theorem readIndex_of_not_numeral {text : List Char} (h : ∀ index, ¬IndexNumeral text index) :
    readIndex text = .error (.invalidIndex (String.ofList text)) := by
  have hnot : ∀ index, readIndex text ≠ .ok index := fun index hindex =>
    h index (readIndex_eq_ok_iff_numeral.mp hindex)
  rw [readIndex] at hnot ⊢
  split
  · next hcond =>
    rw [if_pos hcond] at hnot
    exact absurd rfl (hnot _)
  · rfl

/-! ### Payloads -/

/-- The payload is `name[inner]`. -/
structure OneGroup (payload name inner : List Char) : Prop where
  groupName : GroupName name
  unbracketed : Unbracketed inner
  eq : payload = withGroup name inner

/-- The payload is `name[first][second]`. -/
structure TwoGroups (payload name first second : List Char) : Prop where
  groupName : GroupName name
  first_unbracketed : Unbracketed first
  second_unbracketed : Unbracketed second
  eq : payload = withGroup (withGroup name first) second

/-- **The verdict on the bracket groups of a payload**: of two groups the first is an index and the
second a property; a single group is the one if it looks like a numeral, and else the other. -/
inductive GroupsVerdict (payload : List Char) : Except GrammarError Selector → Prop
  /-- The first of two groups is no index, whatever the second is. -/
  | firstNoIndex {name first second : List Char} : TwoGroups payload name first second →
      (∀ index, ¬IndexNumeral first index) →
      GroupsVerdict payload (.error (.invalidIndex (String.ofList first)))
  /-- The first of two groups is an index, and the second is empty. -/
  | secondEmpty {name first : List Char} {index : UInt64} : TwoGroups payload name first [] →
      IndexNumeral first index →
      GroupsVerdict payload (.error (.malformed (.emptyProperty (String.ofList payload))))
  /-- An index and a property. -/
  | both {name first second : List Char} {index : UInt64} : TwoGroups payload name first second →
      IndexNumeral first index → second ≠ [] →
      GroupsVerdict payload
        (.ok ⟨String.ofList name, some index, some (String.ofList second)⟩)
  /-- A single group that looks like a numeral and is an index. -/
  | index {name inner : List Char} {index : UInt64} : ¬EndsInTwoGroups payload →
      OneGroup payload name inner → IndexLike inner → IndexNumeral inner index →
      GroupsVerdict payload (.ok ⟨String.ofList name, some index, none⟩)
  /-- A single group that looks like a numeral and is no index. -/
  | noIndex {name inner : List Char} : ¬EndsInTwoGroups payload → OneGroup payload name inner →
      IndexLike inner → (∀ index, ¬IndexNumeral inner index) →
      GroupsVerdict payload (.error (.invalidIndex (String.ofList inner)))
  /-- A single group that does not look like a numeral. -/
  | property {name inner : List Char} : ¬EndsInTwoGroups payload → OneGroup payload name inner →
      ¬IndexLike inner →
      GroupsVerdict payload (.ok ⟨String.ofList name, none, some (String.ofList inner)⟩)
  /-- No groups: the whole payload is the name. -/
  | bare : ¬EndsInTwoGroups payload → ¬EndsInGroup payload →
      GroupsVerdict payload (.ok ⟨String.ofList payload, none, none⟩)

/-- **The verdict on the payload of a field**: it must not open with a bracket, and then it is the
verdict on its groups. -/
inductive PayloadVerdict (kind : Kind) (payload : List Char) :
    Except GrammarError Selector → Prop
  | opened : payload.head? = some '[' →
      PayloadVerdict kind payload (.error (.missingPayload kind))
  | grouped {result : Except GrammarError Selector} : payload.head? ≠ some '[' →
      GroupsVerdict payload result → PayloadVerdict kind payload result

section Payload

variable {kind : Kind} {payload : List Char} {result : Except GrammarError Selector}

theorem groups_of_twoGroups {name first second : List Char}
    (h : TwoGroups payload name first second) : groups payload = .two name first second :=
  groups_eq_two_iff.mpr ⟨h.groupName, h.first_unbracketed, h.second_unbracketed, h.eq⟩

theorem groups_of_oneGroup {name inner : List Char} (htwo : ¬EndsInTwoGroups payload)
    (h : OneGroup payload name inner) : groups payload = .one name inner := by
  refine groups_eq_one_iff.mpr ⟨h.groupName, fun hends => ?_, h.unbracketed, h.eq⟩
  have hboth : EndsInTwoGroups payload := by
    rw [h.eq]
    exact (endsInTwoGroups_withGroup_iff h.unbracketed).mpr hends
  exact htwo hboth

/-- A payload has only one verdict. -/
theorem PayloadVerdict.eq (h : PayloadVerdict kind payload result) :
    readSelector kind payload = result := by
  rw [readSelector]
  rcases h with hopened | ⟨hopened, hgroups⟩
  · exact if_pos hopened
  rw [if_neg hopened]
  cases hgroups with
  | firstNoIndex htwo hno =>
    simp only [groups_of_twoGroups htwo, readIndex_of_not_numeral hno]
    rfl
  | secondEmpty htwo hindex =>
    simp only [groups_of_twoGroups htwo, readIndex_eq_ok_iff_numeral.mpr hindex]
    rfl
  | @both name first second index htwo hindex hne =>
    have hfilled : second.isEmpty = false := List.isEmpty_eq_false_iff.mpr hne
    simp only [groups_of_twoGroups htwo, readIndex_eq_ok_iff_numeral.mpr hindex, hfilled]
    rfl
  | index htwo hone hlike hindex =>
    simp only [groups_of_oneGroup htwo hone, if_pos (isIndexLike_iff.mpr hlike),
      readIndex_eq_ok_iff_numeral.mpr hindex]
    rfl
  | noIndex htwo hone hlike hno =>
    simp only [groups_of_oneGroup htwo hone, if_pos (isIndexLike_iff.mpr hlike),
      readIndex_of_not_numeral hno]
    rfl
  | property htwo hone hlike =>
    have hother : ¬isIndexLike _ = true := fun hc => hlike (isIndexLike_iff.mp hc)
    simp only [groups_of_oneGroup htwo hone, if_neg hother]
  | bare htwo hone => simp only [groups_eq_bare_iff.mpr ⟨rfl, hone, htwo⟩]

/-- A payload has a verdict on its groups, by how many of them there are. -/
theorem exists_groupsVerdict (payload : List Char) : ∃ result, GroupsVerdict payload result := by
  by_cases htwo : EndsInTwoGroups payload
  · obtain ⟨name, first, second, hname, hfirst, hsecond, heq⟩ := htwo
    have htwo : TwoGroups payload name first second := ⟨hname, hfirst, hsecond, heq⟩
    by_cases hnumeral : ∃ index, IndexNumeral first index
    · obtain ⟨index, hindex⟩ := hnumeral
      rcases eq_or_ne second [] with rfl | hne
      · exact ⟨_, .secondEmpty htwo hindex⟩
      · exact ⟨_, .both htwo hindex hne⟩
    · exact ⟨_, .firstNoIndex htwo (not_exists.mp hnumeral)⟩
  by_cases hone : EndsInGroup payload
  · obtain ⟨name, inner, hname, hinner, heq⟩ := hone
    have hone : OneGroup payload name inner := ⟨hname, hinner, heq⟩
    by_cases hlike : IndexLike inner
    · by_cases hnumeral : ∃ index, IndexNumeral inner index
      · obtain ⟨index, hindex⟩ := hnumeral
        exact ⟨_, .index htwo hone hlike hindex⟩
      · exact ⟨_, .noIndex htwo hone hlike (not_exists.mp hnumeral)⟩
    · exact ⟨_, .property htwo hone hlike⟩
  · exact ⟨_, .bare htwo hone⟩

/-- **What is read of a payload is the verdict on it.** -/
theorem payloadVerdict_readSelector (kind : Kind) (payload : List Char) :
    PayloadVerdict kind payload (readSelector kind payload) := by
  obtain ⟨result, h⟩ : ∃ result, PayloadVerdict kind payload result := by
    by_cases hopened : payload.head? = some '['
    · exact ⟨_, .opened hopened⟩
    · obtain ⟨result, hgroups⟩ := exists_groupsVerdict payload
      exact ⟨result, .grouped hopened hgroups⟩
  rwa [h.eq]

end Payload

/-! ### Segments -/

/-- **The segments of a text** with a slash: what stands before the first slash, what stands
between it and the second, and what follows the second. If there is no second slash, nothing
follows it. -/
inductive Segments (text reference kind : String) : String → Prop
  | two : '/' ∉ reference.toList → '/' ∉ kind.toList → text = reference ++ "/" ++ kind →
      Segments text reference kind ""
  | three {payload : String} : '/' ∉ reference.toList → '/' ∉ kind.toList →
      text = reference ++ "/" ++ kind ++ "/" ++ payload → Segments text reference kind payload

/-- A text is cut into its segments. -/
theorem Segments.split_eq {text reference kind payload : String}
    (h : Segments text reference kind payload) : split text = .ok ⟨reference, kind, payload⟩ := by
  rcases h with ⟨hreference, hkind, rfl⟩ | ⟨hreference, hkind, rfl⟩
  · have htext : (reference ++ "/" ++ kind).toList = reference.toList ++ '/' :: kind.toList := by
      simp
    have hne : (reference ++ "/" ++ kind).isEmpty = false := by
      rw [String.isEmpty_eq_false_iff, ne_eq, ← String.toList_eq_nil_iff, htext]
      simp
    have hfirst := Text.cutAt_eq_some_iff.mpr ⟨htext, hreference⟩
    have hsecond := Text.cutAt_eq_none_iff.mpr hkind
    simp only [split, hne, hfirst, hsecond, String.ofList_toList]
    rfl
  · exact split_of_slashes hreference hkind payload

/-- A text with a slash has segments. -/
theorem exists_segments {text : String} (h : '/' ∈ text.toList) :
    ∃ reference kind payload, Segments text reference kind payload := by
  obtain ⟨reference, rest, hreference, htext⟩ : ∃ reference rest : List Char,
      '/' ∉ reference ∧ text.toList = reference ++ '/' :: rest := by
    cases hcut : Text.cutAt '/' text.toList with
    | none => exact absurd h (Text.cutAt_eq_none_iff.mp hcut)
    | some cut =>
      obtain ⟨htext, hfree⟩ := Text.cutAt_eq_some_iff.mp hcut
      exact ⟨_, _, hfree, htext⟩
  have hfree : '/' ∉ (String.ofList reference).toList := by rwa [String.toList_ofList]
  cases hcut : Text.cutAt '/' rest with
  | none =>
    have hkind : '/' ∉ (String.ofList rest).toList := by
      rw [String.toList_ofList]
      exact Text.cutAt_eq_none_iff.mp hcut
    refine ⟨_, _, "", .two hfree hkind ?_⟩
    rw [← String.toList_inj, htext]
    simp
  | some cut =>
    obtain ⟨hrest, hkind⟩ := Text.cutAt_eq_some_iff.mp hcut
    refine ⟨_, String.ofList cut.1, String.ofList cut.2, .three hfree ?_ ?_⟩
    · rwa [String.toList_ofList]
    · rw [← String.toList_inj, htext, hrest]
      simp

/-! ### Texts -/

/-- **The verdict on the payload of a kind**: the name of a file is taken as it is. -/
inductive TargetVerdict (payload : String) : Kind → Except GrammarError Target → Prop
  | file : TargetVerdict payload .file (.ok (.file payload))
  | field {result : Except GrammarError Selector} :
      PayloadVerdict .field payload.toList result →
      TargetVerdict payload .field (result.map .field)
  | customField {result : Except GrammarError Selector} :
      PayloadVerdict .customField payload.toList result →
      TargetVerdict payload .customField (result.map .customField)

/-- **The verdict on a text**, segment by segment. -/
inductive Verdict (text : String) : Except GrammarError Locator → Prop
  /-- There is nothing. -/
  | empty : text = "" → Verdict text (.error .emptyInput)
  /-- There is no slash. -/
  | noSeparator : text ≠ "" → '/' ∉ text.toList → Verdict text (.error (.malformed .noSeparator))
  /-- Nothing stands before the first slash. -/
  | noReference {segment payload : String} : Segments text "" segment payload →
      Verdict text (.error (.malformed .noReference))
  /-- The second segment is no kind. -/
  | unknownKind {reference segment payload : String} : Segments text reference segment payload →
      reference ≠ "" → segment ∉ ["field", "custom_field", "file"] →
      Verdict text (.error (.unknownKind segment))
  /-- There is no second slash, or nothing follows it. -/
  | noPayload {reference : String} {kind : Kind} : Segments text reference kind.spelling "" →
      reference ≠ "" → Verdict text (.error (.missingPayload kind))
  /-- All three segments are there. -/
  | target {reference payload : String} {kind : Kind} {result : Except GrammarError Target} :
      Segments text reference kind.spelling payload → reference ≠ "" → payload ≠ "" →
      TargetVerdict payload kind result →
      Verdict text (result.map fun target => ⟨.ofText reference, target⟩)

section Text

variable {text reference segment payload : String} {kind : Kind}

/-- With something before the first slash it is the second segment that counts. -/
theorem parse_of_segments (h : Segments text reference segment payload) (hne : reference ≠ "") :
    parse text =
      match Kind.ofSpelling? segment with
      | none => .error (.unknownKind segment)
      | some kind =>
        if payload.isEmpty then .error (.missingPayload kind)
        else (readTarget kind payload).map fun target => ⟨.ofText reference, target⟩ := by
  have hfilled : reference.isEmpty = false := String.isEmpty_eq_false_iff.mpr hne
  rw [parse, h.split_eq]
  change (if reference.isEmpty = true then _ else _) = _
  rw [hfilled, if_neg Bool.false_ne_true]
  rfl

theorem mem_spellings_iff : segment ∈ ["field", "custom_field", "file"] ↔
    ∃ kind : Kind, segment = kind.spelling := by
  constructor
  · intro h
    simp only [List.mem_cons, List.not_mem_nil, or_false] at h
    rcases h with rfl | rfl | rfl
    · exact ⟨.field, rfl⟩
    · exact ⟨.customField, rfl⟩
    · exact ⟨.file, rfl⟩
  · rintro ⟨kind, rfl⟩
    cases kind <;> decide

theorem TargetVerdict.eq {result : Except GrammarError Target}
    (h : TargetVerdict payload kind result) : readTarget kind payload = result := by
  rcases h with _ | hverdict | hverdict
  · rfl
  · rw [readTarget, hverdict.eq]
  · rw [readTarget, hverdict.eq]

theorem targetVerdict_readTarget (kind : Kind) (payload : String) :
    TargetVerdict payload kind (readTarget kind payload) := by
  cases kind with
  | file => exact .file
  | field => exact .field (payloadVerdict_readSelector .field payload.toList)
  | customField => exact .customField (payloadVerdict_readSelector .customField payload.toList)

/-- A text has only one verdict. -/
theorem Verdict.eq {result : Except GrammarError Locator} (h : Verdict text result) :
    parse text = result := by
  cases h with
  | empty hempty =>
    rw [hempty]
    rfl
  | noSeparator hne hfree =>
    have hfilled : text.isEmpty = false := String.isEmpty_eq_false_iff.mpr hne
    simp only [parse, split, hfilled, Text.cutAt_eq_none_iff.mpr hfree]
    rfl
  | noReference hsegments =>
    rw [parse, hsegments.split_eq]
    rfl
  | unknownKind hsegments hne hkind =>
    have hnone : Kind.ofSpelling? _ = none := Option.eq_none_iff_forall_ne_some.mpr fun kind hc =>
      hkind (mem_spellings_iff.mpr ⟨kind, Kind.ofSpelling?_eq_some_iff.mp hc⟩)
    rw [parse_of_segments hsegments hne, hnone]
  | noPayload hsegments hne =>
    rw [parse_of_segments hsegments hne, Kind.ofSpelling?_eq_some_iff.mpr rfl]
    rfl
  | target hsegments hne hpayload hverdict =>
    rw [parse_of_segments hsegments hne, Kind.ofSpelling?_eq_some_iff.mpr rfl]
    simp only [String.isEmpty_eq_false_iff.mpr hpayload, Bool.false_eq_true, if_false,
      hverdict.eq]

/-- Every text has a verdict. -/
theorem exists_verdict (text : String) : ∃ result, Verdict text result := by
  rcases eq_or_ne text "" with hempty | hne
  · exact ⟨_, .empty hempty⟩
  by_cases hslash : '/' ∈ text.toList
  · obtain ⟨reference, segment, payload, hsegments⟩ := exists_segments hslash
    rcases eq_or_ne reference "" with rfl | hreference
    · exact ⟨_, .noReference hsegments⟩
    by_cases hkind : segment ∈ ["field", "custom_field", "file"]
    · obtain ⟨kind, rfl⟩ := mem_spellings_iff.mp hkind
      rcases eq_or_ne payload "" with rfl | hpayload
      · exact ⟨_, .noPayload hsegments hreference⟩
      · exact ⟨_, .target hsegments hreference hpayload (targetVerdict_readTarget kind payload)⟩
    · exact ⟨_, .unknownKind hsegments hreference hkind⟩
  · exact ⟨_, .noSeparator hne hslash⟩

/-- **What a text is read as is the verdict on it**, for every text: a locator, or the one error that
there is. -/
theorem parse_eq_iff_verdict (text : String) (result : Except GrammarError Locator) :
    parse text = result ↔ Verdict text result := by
  constructor
  · rintro rfl
    obtain ⟨result, h⟩ := exists_verdict text
    rwa [h.eq]
  · exact Verdict.eq

-- The index is read before the property is missed, and it has to be canonical.
example : parse "Mail/field/url[01][]" = .error (.invalidIndex "01") := rfl

end Text

end VaultLocator.Locator

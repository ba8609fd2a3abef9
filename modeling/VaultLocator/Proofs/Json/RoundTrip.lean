import Mathlib.Data.List.Basic
import Mathlib.Data.List.TakeWhile
import Mathlib.Tactic.ByContra
import Mathlib.Tactic.SplitIfs
import VaultLocator.Json.Printer
import VaultLocator.Json.Reader

/-!
# Reading inverts writing JSON

A value is read back from its written form as it was, up to the order of members and to members
with one key, of which the last is left (`VaultLocator.Json.canonical`). This holds of a value that
is *lossless* (`VaultLocator.Json.Lossless`): a double need not survive, since it is read with a
significand that is cut off, and neither does an integer beyond 64 bits. The main statement is
`VaultLocator.Json.read?_render`.

A value and its text meet in the middle, at the tokens of the value (`VaultLocator.Json.tokens`).
Both halves are inductions on the value, and for arrays and objects on what is left of them; for
these to go through, each is stated of a piece, with whatever is around it:

* `VaultLocator.Token.Reads`: the scanner gives out some tokens for a piece of text, whatever it has
  read and whatever follows, as long as this does not run on from a bare word. A written value is
  read as its tokens (`VaultLocator.Json.reads_chars`).
* `VaultLocator.Json.Completes`: the machine that reads tokens makes a value of some of them,
  whatever arrays and objects are open. The tokens of a value complete it
  (`VaultLocator.Json.completes_tokens`).
-/

namespace VaultLocator

namespace Token

variable {read : List Token} {mode mode' : Mode} {token : Token} {tokens : List Token}
  {text chars word rest : List Char} {c : Char}

/-- **One step of the scanner.** -/
theorem scan_cons (h : advance? mode c = some (tokens, mode')) (read : List Token)
    (rest : List Char) :
    scan read mode (c :: rest) = scan (tokens.reverse ++ read) mode' rest := by
  cases mode <;> rw [scan, h]

/-! ### Texts -/

theorem hexValue?_digitChar : ∀ d < 16, Text.hexValue? (Nat.digitChar d) = some d := by
  decide

/-- A character that is written by its code is read from the code. -/
theorem scan_code (h : c.toNat < 32) (read : List Token) (chars rest : List Char) :
    scan read (.text chars)
        ('\\' :: 'u' :: '0' :: '0' :: Nat.digitChar (c.toNat / 16) ::
          Nat.digitChar (c.toNat % 16) :: rest) =
      scan read (.text (c :: chars)) rest := by
  have hopen : scan read (.text chars)
      ('\\' :: 'u' :: '0' :: '0' :: Nat.digitChar (c.toNat / 16) ::
        Nat.digitChar (c.toNat % 16) :: rest) =
      scan read (.code chars none 2 0)
        (Nat.digitChar (c.toNat / 16) :: Nat.digitChar (c.toNat % 16) :: rest) := rfl
  have hhigh : advance? (.code chars none 2 0) (Nat.digitChar (c.toNat / 16)) =
      some ([], .code chars none 1 (c.toNat / 16)) := by
    simp [advance?, hexValue?_digitChar (c.toNat / 16) (by omega)]
  have hcode : 16 * (c.toNat / 16) + c.toNat % 16 = c.toNat := Nat.div_add_mod ..
  have hlow : advance? (.code chars none 1 (c.toNat / 16)) (Nat.digitChar (c.toNat % 16)) =
      some ([], .text (c :: chars)) := by
    have hchar : afterCode chars none c.toNat = some (.text (c :: chars)) := by
      rw [afterCode, if_neg (by omega), if_neg (by omega), Char.ofNat_toNat]
    simp [advance?, hexValue?_digitChar (c.toNat % 16) (by omega), hcode, hchar]
  rw [hopen, scan_cons hhigh, scan_cons hlow]
  rfl

/-- **A written character is read as itself.** -/
theorem scan_escapeChar (read : List Token) (chars : List Char) (c : Char) (rest : List Char) :
    scan read (.text chars) (Json.escapeChar c ++ rest) = scan read (.text (c :: chars)) rest := by
  rw [Json.escapeChar]
  split_ifs with hquote hbackslash hb ht hn hf hr hcontrol
  · subst hquote; rfl
  · subst hbackslash; rfl
  · subst hb; rfl
  · subst ht; rfl
  · subst hn; rfl
  · subst hf; rfl
  · subst hr; rfl
  · exact scan_code hcontrol read chars rest
  · have hplain : advance? (.text chars) c = some ([], .text (c :: chars)) := by
      rw [advance?, if_neg hquote, if_neg hbackslash, if_neg hcontrol]
    exact scan_cons hplain read rest

theorem scan_escape (read : List Token) (chars text rest : List Char) :
    scan read (.text chars) (Json.escape text ++ rest) =
      scan read (.text (text.reverse ++ chars)) rest := by
  rw [Json.escape]
  induction text generalizing chars with
  | nil => rfl
  | cons c text ih =>
    rw [List.flatMap_cons, List.append_assoc, scan_escapeChar, ih, List.reverse_cons,
      List.append_assoc, List.singleton_append]

/-- **A written text is one token.** -/
theorem scan_quoted (read : List Token) (text rest : List Char) :
    scan read .between (Json.quoted text ++ rest) = scan (.text text :: read) .between rest := by
  have hopen (rest : List Char) : scan read .between ('"' :: rest) = scan read (.text []) rest :=
    rfl
  have hclose (chars rest : List Char) : scan read (.text chars) ('"' :: rest) =
      scan (.text chars.reverse :: read) .between rest := rfl
  rw [Json.quoted, List.cons_append, hopen, List.append_assoc, scan_escape, List.append_nil,
    List.singleton_append, hclose, List.reverse_reverse]

/-! ### Bare words -/

/-- **Nothing runs on from a bare word**: what follows it is empty or ends it. -/
def EndsWord (rest : List Char) : Prop :=
  ∀ c ∈ rest.head?, endsWord c = true

theorem start_of_not_endsWord (h : endsWord c = false) : start c = (none, .word [c]) := by
  rw [endsWord, Bool.or_eq_false_iff, Bool.or_eq_false_iff, beq_eq_false_iff_ne] at h
  obtain ⟨⟨hmark, hgap⟩, hquote⟩ := h
  rw [Option.isSome_eq_false_iff, Option.isNone_iff_eq_none] at hmark
  rw [start, hmark]
  simp only [hgap, Bool.false_eq_true, if_false, if_neg hquote]

/-- The characters of a bare word are collected, and it is given out when it ends. -/
theorem scan_word_end (hrest : EndsWord rest) (htoken : ofWord? chars.reverse = some token)
    (read : List Token) :
    scan read (.word chars) rest = scan (token :: read) .between rest := by
  cases rest with
  | nil =>
    have hend : scan read (.word chars) [] =
        (ofWord? chars.reverse).map fun token => (token :: read).reverse := rfl
    rw [hend, htoken]
    rfl
  | cons c rest =>
    have hword : advance? (.word chars) c = some (token :: (start c).1.toList, (start c).2) := by
      rw [advance?, if_pos (hrest c rfl), htoken]
      rfl
    have hbetween : advance? .between c = some ((start c).1.toList, (start c).2) := rfl
    rw [scan_cons hword, scan_cons hbetween, List.reverse_cons, List.append_assoc,
      List.singleton_append]

theorem scan_word_append (hword : ∀ c ∈ word, endsWord c = false) (read : List Token)
    (chars rest : List Char) :
    scan read (.word chars) (word ++ rest) = scan read (.word (word.reverse ++ chars)) rest := by
  induction word generalizing chars with
  | nil => rfl
  | cons c word ih =>
    obtain ⟨hc, hword⟩ := List.forall_mem_cons.mp hword
    have hcollect : advance? (.word chars) c = some ([], .word (c :: chars)) := by
      rw [advance?, hc, if_neg Bool.false_ne_true]
    rw [List.cons_append, scan_cons hcollect, List.reverse_nil, List.nil_append, ih hword,
      List.reverse_cons, List.append_assoc, List.singleton_append]

/-- **A bare word is one token** if nothing runs on from it. -/
theorem scan_word (hword : ∀ c ∈ word, endsWord c = false) (htoken : ofWord? word = some token)
    (hrest : EndsWord rest) (read : List Token) :
    scan read .between (word ++ rest) = scan (token :: read) .between rest := by
  cases word with
  | nil => cases htoken
  | cons c word =>
    obtain ⟨hc, hword⟩ := List.forall_mem_cons.mp hword
    have hstart : advance? .between c = some ([], .word [c]) := by
      rw [advance?, start_of_not_endsWord hc]
      rfl
    have hreverse : (word.reverse ++ [c]).reverse = c :: word := by simp
    rw [List.cons_append, scan_cons hstart, List.reverse_nil, List.nil_append,
      scan_word_append hword, scan_word_end hrest (hreverse ▸ htoken)]

/-! ### Integers -/

/-- The characters that end a bare word. -/
theorem mem_of_endsWord (h : endsWord c = true) :
    c ∈ ['[', ']', '\x7b', '\x7d', ',', ':', ' ', '\t', '\n', '\r', '"'] := by
  by_contra hc
  simp only [List.mem_cons, List.not_mem_nil, or_false, not_or] at hc
  simp [endsWord, ofMark?, isGap, hc] at h

theorem isDigit_of_mem_digits {n : Nat} (h : c ∈ Nat.toDigits 10 n) : c.isDigit = true :=
  Nat.isDigit_of_mem_toDigits (by decide) (by decide) h

theorem isDigit_or_hyphen_of_mem_intChars {i : Int} (h : c ∈ intChars i) :
    c.isDigit = true ∨ c = '-' := by
  cases i with
  | ofNat n => exact Or.inl (isDigit_of_mem_digits h)
  | negSucc n =>
    rcases List.mem_cons.mp h with hc | hc
    · exact Or.inr hc
    · exact Or.inl (isDigit_of_mem_digits hc)

/-- Neither digits nor the hyphen end a bare word. -/
theorem endsWord_of_mem_intChars {i : Int} (h : c ∈ intChars i) : endsWord c = false := by
  have hends : ∀ d ∈ ['[', ']', '\x7b', '\x7d', ',', ':', ' ', '\t', '\n', '\r', '"'],
      ¬(d.isDigit = true ∨ d = '-') := List.forall_iff_forall_mem.mp (by decide)
  rw [← Bool.not_eq_true]
  exact fun hc => hends c (mem_of_endsWord hc) (isDigit_or_hyphen_of_mem_intChars h)

/-- **A numeral without fraction and exponent** is read as an integer: its digits are spanned as a
whole, and they have no zero in front of others. -/
theorem numeral?_digits (n : Nat) :
    numeral? (Nat.toDigits 10 n) = integer? false (Nat.toDigits 10 n) ∧
      numeral? ('-' :: Nat.toDigits 10 n) = integer? true (Nat.toDigits 10 n) := by
  have hspan : spanDigits (Nat.toDigits 10 n) = (Nat.toDigits 10 n, []) := by
    have hdigits : ∀ c ∈ Nat.toDigits 10 n, c.isDigit = true := fun c => isDigit_of_mem_digits
    rw [spanDigits, List.takeWhile_eq_self_iff.mpr hdigits, List.dropWhile_eq_nil_iff.mpr hdigits]
  have hplain : ¬(Nat.toDigits 10 n = [] ∨
      (Nat.toDigits 10 n).head? = some '0' ∧ 1 < (Nat.toDigits 10 n).length) := by
    have hcanonical := Text.isCanonical_toDigits n
    rw [Text.isCanonical, Bool.and_eq_true, Bool.or_eq_true, beq_iff_eq, bne_iff_ne] at hcanonical
    rintro (hnil | ⟨hzero, hlong⟩)
    · exact Nat.toDigits_ne_nil hnil
    · rcases hcanonical.2 with hone | hlead
      · rw [hone] at hlong
        exact absurd hlong (by decide)
      · exact hlead hzero
  constructor
  · have hhyphen : ∀ rest, Nat.toDigits 10 n ≠ '-' :: rest := fun rest hdigits => by
      have hdigit : '-'.isDigit = true := isDigit_of_mem_digits (hdigits ▸ List.mem_cons_self)
      cases hdigit
    rw [numeral?.eq_def]
    dsimp only
    split
    · next rest hdigits => exact absurd hdigits (hhyphen rest)
    · simp only [hspan, if_neg hplain]
      rfl
  · simp only [numeral?, hspan, if_neg hplain]
    rfl

/-- **An integer of 64 bits is read from its written form.** -/
theorem numeral?_intChars {i : Int} (hmin : -(Nat.pow 2 63 : Int) ≤ i) (hmax : i < UInt64.size) :
    numeral? (intChars i) = some (.int i) := by
  cases i with
  | ofNat n =>
    have hsize : n < UInt64.size := Int.ofNat_lt.mp hmax
    rw [intChars, (numeral?_digits n).1, integer?]
    simp only [Nat.ofDigitChars_ten_toDigits, if_pos hsize]
    rfl
  | negSucc n =>
    have hrange : 0 < n + 1 ∧ n + 1 ≤ Nat.pow 2 63 := by
      have hpow : Nat.pow 2 63 = 9223372036854775808 := rfl
      omega
    rw [intChars, (numeral?_digits (n + 1)).2, integer?]
    simp only [Nat.ofDigitChars_ten_toDigits, if_pos hrange]
    rfl

/-- An integer is none of the three names, so as a bare word it is its numeral. -/
theorem ofWord?_intChars {i : Int} (hmin : -(Nat.pow 2 63 : Int) ≤ i) (hmax : i < UInt64.size) :
    ofWord? (intChars i) = some (.number (.int i)) := by
  have hname {c : Char} {word : List Char} (hc : ¬(c.isDigit = true ∨ c = '-')) (hmem : c ∈ word) :
      intChars i ≠ word := fun heq => hc (isDigit_or_hyphen_of_mem_intChars (heq ▸ hmem))
  have hl : ¬('l'.isDigit = true ∨ 'l' = '-') := by decide
  have he : ¬('e'.isDigit = true ∨ 'e' = '-') := by decide
  rw [ofWord?, if_neg (hname hl (by simp)), if_neg (hname he (by simp)),
    if_neg (hname he (by simp)), numeral?_intChars hmin hmax]
  rfl

/-! ### Pieces of text -/

/-- **A piece of text is read as some tokens**: the scanner gives them out whatever it has read
before, and whatever follows that does not run on from a bare word. -/
def Reads (text : List Char) (tokens : List Token) : Prop :=
  ∀ read rest, EndsWord rest →
    scan read .between (text ++ rest) = scan (tokens.reverse ++ read) .between rest

theorem EndsWord.append (htext : EndsWord text) (hrest : EndsWord rest) :
    EndsWord (text ++ rest) := by
  intro c hc
  cases text with
  | nil => exact hrest c hc
  | cons d text => exact htext c hc

theorem endsWord_cons (h : endsWord c = true) (rest : List Char) :
    EndsWord (c :: rest) := by
  intro d hd
  cases hd
  exact h

namespace Reads

variable {text' : List Char} {tokens' : List Token}

theorem nil : Reads [] [] :=
  fun _ _ _ => rfl

theorem append (h : Reads text tokens) (h' : Reads text' tokens') (hends : EndsWord text') :
    Reads (text ++ text') (tokens ++ tokens') := by
  intro read rest hrest
  rw [List.append_assoc, h read _ (hends.append hrest), h' _ rest hrest, List.reverse_append,
    List.append_assoc]

/-- A mark is a token by itself, whatever follows. -/
theorem mark (hmark : ofMark? c = some token) (h : Reads text tokens) :
    Reads (c :: text) (token :: tokens) := by
  intro read rest hrest
  have hstart : advance? .between c = some ([token], .between) := by
    rw [advance?, start, hmark]
    rfl
  rw [List.cons_append, scan_cons hstart, List.reverse_singleton, List.singleton_append,
    h _ rest hrest, List.reverse_cons, List.append_assoc, List.singleton_append]

/-- A written text is a token by itself, whatever follows. -/
theorem quoted (key : List Char) (h : Reads text tokens) :
    Reads (Json.quoted key ++ text) (.text key :: tokens) := by
  intro read rest hrest
  rw [List.append_assoc, scan_quoted, h _ rest hrest, List.reverse_cons, List.append_assoc,
    List.singleton_append]

theorem bareWord (hword : ∀ c ∈ word, endsWord c = false)
    (htoken : ofWord? word = some token) : Reads word [token] :=
  fun read _ hrest => scan_word hword htoken hrest read

/-- **All the tokens of a text** that is read as a whole. -/
theorem ofText? (h : Reads text tokens) : Token.ofText? text = some tokens := by
  have hscan := h [] [] fun c hc => nomatch hc
  rw [List.append_nil, List.append_nil] at hscan
  rw [Token.ofText?, hscan, scan, List.reverse_reverse]

end Reads

end Token

namespace Json

/-! ### Values that survive -/

/-- **A value that is read back** from its written form: its numbers are integers of 64 bits. -/
inductive Lossless : Json → Prop
  | null : Lossless .null
  | bool (b : Bool) : Lossless (.bool b)
  | int {i : Int} (hmin : -(Nat.pow 2 63 : Int) ≤ i) (hmax : i < UInt64.size) :
    Lossless (.num (.int i))
  | str (s : String) : Lossless (.str s)
  | arr {items : List Json} (h : ∀ item ∈ items, Lossless item) : Lossless (.arr items)
  | obj {members : List (String × Json)} (h : ∀ member ∈ members, Lossless member.2) :
    Lossless (.obj members)

mutual

/-- **A value as it is read back**: the members of its objects in the order of their keys, and of
two with one key the last. -/
def canonical : Json → Json
  | .null => .null
  | .bool b => .bool b
  | .num n => .num n
  | .str s => .str s
  | .arr items => .arr (canonicalItems items)
  | .obj members => object (canonicalMembers members)

/-- The items of an array as they are read back. -/
def canonicalItems : List Json → List Json
  | [] => []
  | item :: items => canonical item :: canonicalItems items

/-- The members of an object as they are read back, before they are put in order. -/
def canonicalMembers : List (String × Json) → List (String × Json)
  | [] => []
  | (key, value) :: members => (key, canonical value) :: canonicalMembers members

end

mutual

/-- The tokens of a value. -/
def tokens : Json → List Token
  | .null => [.null]
  | .bool b => [.bool b]
  | .num n => [.number n]
  | .str s => [.text s.toList]
  | .arr [] => [.openArray, .closeArray]
  | .arr (item :: items) => .openArray :: (tokens item ++ itemsTokens items)
  | .obj [] => [.openObject, .closeObject]
  | .obj ((key, value) :: members) =>
    .openObject :: .text key.toList :: .colon :: (tokens value ++ membersTokens members)

/-- The tokens of the items that are left, with the end of the array. -/
def itemsTokens : List Json → List Token
  | [] => [.closeArray]
  | item :: items => .comma :: (tokens item ++ itemsTokens items)

/-- The tokens of the members that are left, with the end of the object. -/
def membersTokens : List (String × Json) → List Token
  | [] => [.closeObject]
  | (key, value) :: members =>
    .comma :: .text key.toList :: .colon :: (tokens value ++ membersTokens members)

end

/-! ### From a text to its tokens -/

variable {v : Json} {items : List Json} {members : List (String × Json)} {frames : List Frame}

theorem endsWord_itemsChars (items : List Json) : Token.EndsWord (itemsChars items) := by
  cases items with
  | nil => exact Token.endsWord_cons rfl []
  | cons item items => exact Token.endsWord_cons rfl _

theorem endsWord_membersChars (members : List (String × Json)) :
    Token.EndsWord (membersChars members) := by
  cases members with
  | nil => exact Token.endsWord_cons rfl []
  | cons member members => exact Token.endsWord_cons rfl _

theorem reads_itemsChars (h : ∀ item ∈ items, Token.Reads (chars item) (tokens item)) :
    Token.Reads (itemsChars items) (itemsTokens items) := by
  induction items with
  | nil => exact .mark rfl .nil
  | cons item items ih =>
    obtain ⟨hitem, hitems⟩ := List.forall_mem_cons.mp h
    exact .mark rfl (hitem.append (ih hitems) (endsWord_itemsChars items))

theorem reads_membersChars
    (h : ∀ member ∈ members, Token.Reads (chars member.2) (tokens member.2)) :
    Token.Reads (membersChars members) (membersTokens members) := by
  induction members with
  | nil => exact .mark rfl .nil
  | cons member members ih =>
    obtain ⟨hmember, hmembers⟩ := List.forall_mem_cons.mp h
    exact .mark rfl (.quoted _ (.mark rfl
      (hmember.append (ih hmembers) (endsWord_membersChars members))))

/-- **The written form of a value is read as its tokens.** -/
theorem reads_chars (h : Lossless v) : Token.Reads (chars v) (tokens v) := by
  induction h with
  | null => exact .bareWord (List.forall_iff_forall_mem.mp (by decide)) rfl
  | bool b =>
    cases b with
    | true => exact .bareWord (List.forall_iff_forall_mem.mp (by decide)) rfl
    | false => exact .bareWord (List.forall_iff_forall_mem.mp (by decide)) rfl
  | int hmin hmax =>
    exact .bareWord (fun c => Token.endsWord_of_mem_intChars) (Token.ofWord?_intChars hmin hmax)
  | str s =>
    have hquoted := Token.Reads.quoted s.toList .nil
    rwa [List.append_nil] at hquoted
  | @arr items h ih =>
    cases items with
    | nil => exact .mark rfl (.mark rfl .nil)
    | cons item items =>
      obtain ⟨hitem, hitems⟩ := List.forall_mem_cons.mp ih
      exact .mark rfl (hitem.append (reads_itemsChars hitems) (endsWord_itemsChars items))
  | @obj members h ih =>
    cases members with
    | nil => exact .mark rfl (.mark rfl .nil)
    | cons member members =>
      obtain ⟨hmember, hmembers⟩ := List.forall_mem_cons.mp ih
      exact .mark rfl (.quoted _ (.mark rfl
        (hmember.append (reads_membersChars hmembers) (endsWord_membersChars members))))

/-! ### From the tokens to the value -/

/-- **Some tokens complete a value**, whatever is open around it and whatever follows. -/
def Completes (tokens : List Token) (value : Json) : Prop :=
  ∀ frames rest,
    Progress.run? ⟨frames, .value⟩ (tokens ++ rest) = (Progress.complete frames value).run? rest

theorem run_cons {progress next : Progress} {token : Token} (h : progress.step? token = some next)
    (rest : List Token) : progress.run? (token :: rest) = next.run? rest := by
  rw [Progress.run?, h]
  rfl

theorem completes_single {token : Token}
    (h : ∀ frames, Progress.begin? frames token = some (.complete frames v)) :
    Completes [token] v :=
  fun frames rest =>
    have hstep : Progress.step? ⟨frames, .value⟩ token = some (.complete frames v) := h frames
    run_cons hstep rest

/-- Inside an array or object a comma or the end comes after a value. -/
theorem Completes.run_inside {tokens : List Token} (h : Completes tokens v) (frame : Frame)
    (frames : List Frame) (rest : List Token) :
    Progress.run? ⟨frame :: frames, .value⟩ (tokens ++ rest) =
      Progress.run? ⟨frame :: frames, .separator v⟩ rest :=
  h (frame :: frames) rest

/-- **A member of an object** is read where its key may come. -/
theorem Completes.run_member {tokens : List Token} (h : Completes tokens v) {goal : Goal}
    {before : List (String × Json)} {key : String}
    (hkey : Progress.step? ⟨frames, goal⟩ (.text key.toList) =
      some ⟨frames, .colon before (String.ofList key.toList)⟩) (rest : List Token) :
    Progress.run? ⟨frames, goal⟩ (.text key.toList :: .colon :: (tokens ++ rest)) =
      Progress.run? ⟨.object before key :: frames, .separator v⟩ rest := by
  rw [String.ofList_toList] at hkey
  have hcolon : Progress.step? ⟨frames, .colon before key⟩ .colon =
      some ⟨.object before key :: frames, .value⟩ := rfl
  rw [run_cons hkey, run_cons hcolon, h.run_inside]

/-- The tokens of a value do not start with the end of an array. -/
theorem exists_tokens_eq_cons (v : Json) :
    ∃ token rest, tokens v = token :: rest ∧ token ≠ .closeArray := by
  cases v with
  | null => exact ⟨_, _, rfl, Token.noConfusion⟩
  | bool b => exact ⟨_, _, rfl, Token.noConfusion⟩
  | num n => exact ⟨_, _, rfl, Token.noConfusion⟩
  | str s => exact ⟨_, _, rfl, Token.noConfusion⟩
  | arr items => cases items <;> exact ⟨_, _, rfl, Token.noConfusion⟩
  | obj members => cases members <;> exact ⟨_, _, rfl, Token.noConfusion⟩

/-- The first item of an array is read as any value. -/
theorem run_firstItem (v : Json) (frames : List Frame) (rest : List Token) :
    Progress.run? ⟨.array [] :: frames, .firstItem⟩ (tokens v ++ rest) =
      Progress.run? ⟨.array [] :: frames, .value⟩ (tokens v ++ rest) := by
  obtain ⟨token, after, htokens, hopen⟩ := exists_tokens_eq_cons v
  have hstep : Progress.step? ⟨.array [] :: frames, .firstItem⟩ token =
      Progress.step? ⟨.array [] :: frames, .value⟩ token := by
    cases token with
    | closeArray => exact absurd rfl hopen
    | _ => rfl
  rw [htokens, List.cons_append, Progress.run?, Progress.run?, hstep]

/-- What is left of an array is read after some of its items. -/
theorem run_itemsTokens (h : ∀ item ∈ items, Completes (tokens item) (canonical item))
    (frames : List Frame) (before : List Json) (v : Json) (rest : List Token) :
    Progress.run? ⟨.array before :: frames, .separator v⟩ (itemsTokens items ++ rest) =
      (Progress.complete frames (.arr (before.reverse ++ v :: canonicalItems items))).run?
        rest := by
  induction items generalizing before v with
  | nil =>
    have hstep : Progress.step? ⟨.array before :: frames, .separator v⟩ .closeArray =
        some (.complete frames (.arr (before.reverse ++ [v]))) :=
      congrArg (fun items => some (Progress.complete frames (.arr items))) List.reverse_cons
    exact run_cons hstep rest
  | cons item items ih =>
    obtain ⟨hitem, hitems⟩ := List.forall_mem_cons.mp h
    have hstep : Progress.step? ⟨.array before :: frames, .separator v⟩ .comma =
        some ⟨.array (v :: before) :: frames, .value⟩ := rfl
    rw [itemsTokens, List.cons_append, run_cons hstep, List.append_assoc, hitem.run_inside,
      ih hitems, List.reverse_cons, List.append_assoc, canonicalItems, List.singleton_append]

/-- What is left of an object is read after some of its members. -/
theorem run_membersTokens
    (h : ∀ member ∈ members, Completes (tokens member.2) (canonical member.2))
    (frames : List Frame) (before : List (String × Json)) (key : String) (v : Json)
    (rest : List Token) :
    Progress.run? ⟨.object before key :: frames, .separator v⟩ (membersTokens members ++ rest) =
      (Progress.complete frames
        (object (before.reverse ++ (key, v) :: canonicalMembers members))).run? rest := by
  induction members generalizing before key v with
  | nil =>
    have hstep : Progress.step? ⟨.object before key :: frames, .separator v⟩ .closeObject =
        some (.complete frames (object (before.reverse ++ [(key, v)]))) :=
      congrArg (fun members => some (Progress.complete frames (object members)))
        List.reverse_cons
    exact run_cons hstep rest
  | cons member members ih =>
    obtain ⟨key', value⟩ := member
    obtain ⟨hmember, hmembers⟩ := List.forall_mem_cons.mp h
    have hcomma : Progress.step? ⟨.object before key :: frames, .separator v⟩ .comma =
        some ⟨frames, .key ((key, v) :: before)⟩ := rfl
    rw [membersTokens, List.cons_append, run_cons hcomma, List.cons_append, List.cons_append,
      List.append_assoc, hmember.run_member rfl, ih hmembers, List.reverse_cons,
      List.append_assoc, canonicalMembers, List.singleton_append]

/-- **The tokens of a value complete it.** -/
theorem completes_tokens (h : Lossless v) : Completes (tokens v) (canonical v) := by
  induction h with
  | null => exact completes_single fun _ => rfl
  | bool b => exact completes_single fun _ => rfl
  | int hmin hmax => exact completes_single fun _ => rfl
  | str s =>
    exact completes_single fun frames =>
      congrArg (fun s => some (Progress.complete frames (.str s))) String.ofList_toList
  | @arr items h ih =>
    intro frames rest
    cases items with
    | nil => rfl
    | cons item items =>
      obtain ⟨hitem, hitems⟩ := List.forall_mem_cons.mp ih
      have hopen : Progress.step? ⟨frames, .value⟩ .openArray =
          some ⟨.array [] :: frames, .firstItem⟩ := rfl
      rw [tokens, List.cons_append, run_cons hopen, List.append_assoc, run_firstItem,
        hitem.run_inside, run_itemsTokens hitems]
      rfl
  | @obj members h ih =>
    intro frames rest
    cases members with
    | nil => rfl
    | cons member members =>
      obtain ⟨key, value⟩ := member
      obtain ⟨hmember, hmembers⟩ := List.forall_mem_cons.mp ih
      have hopen : Progress.step? ⟨frames, .value⟩ .openObject = some ⟨frames, .firstKey⟩ := rfl
      rw [tokens, List.cons_append, run_cons hopen, List.cons_append, List.cons_append,
        List.append_assoc, hmember.run_member rfl, run_membersTokens hmembers]
      rfl

/-! ### The round trip -/

/-- **Reading inverts writing**, up to the order of members and members with one key. -/
theorem read?_render (h : Lossless v) : read? (render v) = some (canonical v) := by
  have hrun := completes_tokens h [] []
  rw [List.append_nil] at hrun
  rw [read?, render, String.toList_ofList, (reads_chars h).ofText?, Option.bind_some, ofTokens?,
    hrun]
  rfl

example : read? (render (.obj [("b", .null), ("a", .str "\n"), ("b", .num (.int (-1)))])) =
    some (.obj [("a", .str "\n"), ("b", .num (.int (-1)))]) := rfl

end Json

end VaultLocator

import Mathlib.Logic.Function.Defs
import VaultLocator.Proofs.Text.Segments
import VaultLocator.Shell

/-!
# The shell undoes quoting

A quoted text is read back as a single word, whatever follows it after a separator
(`VaultLocator.Shell.words_quote_append`). The invariant is that of the quoted part: before and
after the written form of each character the reader is between single quotes, and all that has
changed is that it holds one character more. For a quote of the text this takes it out of the quotes
and back (`VaultLocator.Shell.wordsFrom_quoteChar`).

That the text comes back says what the word is, but not how it was read. So a line is also read
character by character: `VaultLocator.Shell.Mode.read` is one step of the reader, in which a
character goes into a word in one of three ways – between quotes, after a backslash or with nothing
to protect it – or does not go into a word at all. `VaultLocator.Shell.kept` collects those that
do, and put together they are the words (`VaultLocator.Shell.kept_of_words`). Of a quoted text none
is unprotected (`VaultLocator.Shell.kept_quote_append`).
-/

namespace VaultLocator.Shell

variable {mode : Mode} {chars line rest : List Char} {c : Char}

/-! ### Reading character by character -/

/-- How a character of a word is read. -/
inductive Manner
  /-- Between single quotes. -/
  | quoted
  /-- After a backslash outside of quotes. -/
  | escaped
  /-- Outside of quotes, and not after a backslash. -/
  | bare
  deriving DecidableEq

namespace Mode

/-- The characters of the word under way, last first. -/
def held : Mode → List Char
  | .between => []
  | .plain chars => chars
  | .escaped chars => chars
  | .single chars => chars

/-- One character: how it is read if it goes into a word, and the mode after it. -/
def read (mode : Mode) (c : Char) : Option Manner × Mode :=
  match mode with
  | .single chars =>
    if c = '\'' then (none, .plain chars) else (some .quoted, .single (c :: chars))
  | .escaped chars => (some .escaped, .plain (c :: chars))
  | .between | .plain _ =>
    if isSeparator c then (none, .between)
    else if c = '\'' then (none, .single mode.held)
    else if c = '\\' then (none, .escaped mode.held)
    else (some .bare, .plain (c :: mode.held))

/-- The word that a character ends, if it ends one. -/
def ended (mode : Mode) (c : Char) : List (List Char) :=
  match mode with
  | .plain chars => if isSeparator c then [chars.reverse] else []
  | .between | .escaped _ | .single _ => []

end Mode

/-- **One step of the reader**: the word that the character ends, and then the words that are read
in the mode after it. -/
theorem wordsFrom_cons (mode : Mode) (c : Char) (rest : List Char) :
    wordsFrom mode (c :: rest) =
      (wordsFrom (mode.read c).2 rest).map fun ws => mode.ended c ++ ws := by
  cases mode with
  | between =>
    rw [wordsFrom, Mode.read]
    simp only [Mode.ended, List.nil_append, Option.map_id']
    split_ifs <;> rfl
  | plain chars =>
    rw [wordsFrom, Mode.read, Mode.ended]
    split_ifs with hseparator
    · rfl
    all_goals simp only [List.nil_append, Option.map_id', Mode.held]
  | escaped chars =>
    simp only [wordsFrom, Mode.read, Mode.ended, List.nil_append, Option.map_id']
  | single chars =>
    rw [wordsFrom, Mode.read]
    simp only [Mode.ended, List.nil_append, Option.map_id']
    split_ifs <;> rfl

/-- The characters of a line that go into words, each with how it is read. -/
def keptFrom : Mode → List Char → List (Char × Manner)
  | _, [] => []
  | mode, c :: rest =>
    ((mode.read c).1.map fun manner => (c, manner)).toList ++ keptFrom (mode.read c).2 rest

/-- **The characters of a line that go into words**, each with how it is read. -/
def kept (line : String) : List (Char × Manner) :=
  keptFrom .between line.toList

/-- What a character adds to the word that it ends or to the one under way is itself, unless it is
no part of a word. -/
theorem held_read (mode : Mode) (c : Char) :
    (mode.ended c).flatten ++ (mode.read c).2.held.reverse =
      mode.held.reverse ++ ((mode.read c).1.map fun _ => c).toList := by
  cases mode with
  | between =>
    simp only [Mode.read, Mode.ended]
    split_ifs <;> simp [Mode.held]
  | plain chars =>
    simp only [Mode.read, Mode.ended]
    split_ifs <;> simp [Mode.held]
  | escaped chars => simp [Mode.read, Mode.ended, Mode.held]
  | single chars =>
    simp only [Mode.read, Mode.ended]
    split_ifs <;> simp [Mode.held]

theorem kept_of_wordsFrom {ws : List (List Char)} (h : wordsFrom mode line = some ws) :
    mode.held.reverse ++ (keptFrom mode line).map Prod.fst = ws.flatten := by
  induction line generalizing mode ws with
  | nil =>
    cases mode with
    | between =>
      cases h
      rfl
    | plain chars =>
      cases h
      simp [keptFrom, Mode.held]
    | escaped chars => cases h
    | single chars => cases h
  | cons c rest ih =>
    rw [wordsFrom_cons] at h
    obtain ⟨later, hlater, rfl⟩ := Option.map_eq_some_iff.mp h
    have hstep := held_read mode c
    have hkept : (((mode.read c).1.map fun manner => (c, manner)).toList).map Prod.fst =
        ((mode.read c).1.map fun _ => c).toList := by
      cases (mode.read c).1 <;> rfl
    rw [keptFrom, List.map_append, hkept, ← List.append_assoc, ← hstep, List.append_assoc,
      ih hlater, List.flatten_append]

/-- **The characters that go into words are the words**, one after the other. -/
theorem kept_of_words {line : String} {ws : List String} (h : words line = some ws) :
    (kept line).map Prod.fst = ws.flatMap String.toList := by
  obtain ⟨pieces, hpieces, rfl⟩ := Option.map_eq_some_iff.mp h
  have hkept := kept_of_wordsFrom hpieces
  rw [kept, List.flatMap_map]
  simpa [Mode.held, List.flatMap_id'] using hkept

/-! ### The quoted part -/

/-- How a quoted character is read: a quote after a backslash, and any other between quotes. -/
def protection (c : Char) : Manner :=
  if c = '\'' then .escaped else .quoted

/-- **A quoted character is read as itself**, and the reader is between quotes again. -/
theorem wordsFrom_quoteChar (chars : List Char) (c : Char) (rest : List Char) :
    wordsFrom (.single chars) (quoteChar c ++ rest) = wordsFrom (.single (c :: chars)) rest := by
  rw [quoteChar]
  split
  · next hc =>
    subst hc
    rfl
  · next hc => exact if_neg hc

theorem keptFrom_quoteChar (chars : List Char) (c : Char) (rest : List Char) :
    keptFrom (.single chars) (quoteChar c ++ rest) =
      (c, protection c) :: keptFrom (.single (c :: chars)) rest := by
  rw [quoteChar, protection]
  split
  · next hc =>
    subst hc
    rfl
  · next hc =>
    rw [List.singleton_append, keptFrom, Mode.read, if_neg hc]
    rfl

theorem wordsFrom_quoteChars (text chars rest : List Char) :
    wordsFrom (.single chars) (text.flatMap quoteChar ++ rest) =
      wordsFrom (.single (text.reverse ++ chars)) rest := by
  induction text generalizing chars with
  | nil => rfl
  | cons c text ih =>
    rw [List.flatMap_cons, List.append_assoc, wordsFrom_quoteChar, ih, List.reverse_cons,
      List.append_assoc, List.singleton_append]

theorem keptFrom_quoteChars (text chars rest : List Char) :
    keptFrom (.single chars) (text.flatMap quoteChar ++ rest) =
      (text.map fun c => (c, protection c)) ++ keptFrom (.single (text.reverse ++ chars)) rest := by
  induction text generalizing chars with
  | nil => rfl
  | cons c text ih =>
    rw [List.flatMap_cons, List.append_assoc, keptFrom_quoteChar, ih, List.map_cons,
      List.cons_append, List.reverse_cons, List.append_assoc, List.singleton_append]

section Quote

variable (text : String) {blank : Char} (tail : String)

/-- A quoted text with something after it, as the reader meets it. -/
theorem toList_quote_append (after : String) : (quote text ++ after).toList =
    '\'' :: (text.toList.flatMap quoteChar ++ '\'' :: after.toList) := by
  simp [quote]

/-- The reader enters a quoted text between words, and leaves it in a word that is the text. -/
theorem wordsFrom_quote_append (after : String) :
    wordsFrom .between (quote text ++ after).toList =
      wordsFrom (.plain text.toList.reverse) after.toList := by
  have hopen (rest : List Char) :
      wordsFrom .between ('\'' :: rest) = wordsFrom (.single []) rest := rfl
  have hclose (chars rest : List Char) :
      wordsFrom (.single chars) ('\'' :: rest) = wordsFrom (.plain chars) rest := rfl
  rw [toList_quote_append, hopen, wordsFrom_quoteChars, hclose, List.append_nil]

theorem keptFrom_quote_append (after : String) :
    keptFrom .between (quote text ++ after).toList =
      (text.toList.map fun c => (c, protection c)) ++
        keptFrom (.plain text.toList.reverse) after.toList := by
  have hopen (rest : List Char) :
      keptFrom .between ('\'' :: rest) = keptFrom (.single []) rest := rfl
  have hclose (chars rest : List Char) :
      keptFrom (.single chars) ('\'' :: rest) = keptFrom (.plain chars) rest := rfl
  rw [toList_quote_append, hopen, keptFrom_quoteChars, hclose, List.append_nil]

/-- A quoted text alone is one word. -/
theorem words_quote : words (quote text) = some [text] := by
  have hread := wordsFrom_quote_append text ""
  rw [String.append_empty] at hread
  rw [words, hread]
  simp [wordsFrom]

/-- **A quoted text is the first word of its line**, and the words of what comes after a separator
are the others. -/
theorem words_quote_append (hblank : isSeparator blank = true) :
    words (quote text ++ (String.singleton blank ++ tail)) =
      (words tail).map fun ws => text :: ws := by
  have hend : wordsFrom (.plain text.toList.reverse) (String.singleton blank ++ tail).toList =
      (wordsFrom .between tail.toList).map fun ws => text.toList :: ws := by
    rw [String.toList_append, String.toList_singleton, List.singleton_append, wordsFrom,
      if_pos hblank, List.reverse_reverse]
  rw [words, wordsFrom_quote_append, hend, words, Option.map_map, Option.map_map]
  refine congrArg (fun f => Option.map f _) (funext fun ws => ?_)
  simp

/-- **All characters of a quoted text are protected**, and what comes after a separator is read as
it would be alone. -/
theorem kept_quote_append (hblank : isSeparator blank = true) :
    kept (quote text ++ (String.singleton blank ++ tail)) =
      (text.toList.map fun c => (c, protection c)) ++ kept tail := by
  have hend : keptFrom (.plain text.toList.reverse) (String.singleton blank ++ tail).toList =
      keptFrom .between tail.toList := by
    rw [String.toList_append, String.toList_singleton, List.singleton_append, keptFrom, Mode.read,
      if_pos hblank]
    rfl
  rw [kept, keptFrom_quote_append, hend, kept]

theorem quote_injective : Function.Injective quote := by
  intro text other heq
  have hwords := words_quote text
  rw [heq, words_quote, Option.some.injEq, List.singleton_inj] at hwords
  exact hwords.symm

end Quote

/-! ### Plain words -/

/-- **A plain text** has no quotes and no backslashes. -/
def Plain (text : String) : Prop :=
  ∀ c ∈ text.toList, c ≠ '\'' ∧ c ≠ '\\'

/-- The words of a plain text are its longest pieces without separators. -/
def plainWords (text : String) : List String :=
  ((Text.segments isSeparator text.toList).filter fun word => !word.isEmpty).map String.ofList

/-- A character that is neither a separator nor a mark starts a word. -/
theorem wordsFrom_between_bare (hseparator : isSeparator c = false)
    (hplain : c ≠ '\'' ∧ c ≠ '\\') (rest : List Char) :
    wordsFrom .between (c :: rest) = wordsFrom (.plain [c]) rest := by
  rw [wordsFrom, hseparator, if_neg Bool.false_ne_true, if_neg hplain.1, if_neg hplain.2]

/-- The same character in a word goes into it. -/
theorem wordsFrom_plain_bare (hseparator : isSeparator c = false)
    (hplain : c ≠ '\'' ∧ c ≠ '\\') (chars rest : List Char) :
    wordsFrom (.plain chars) (c :: rest) = wordsFrom (.plain (c :: chars)) rest := by
  rw [wordsFrom, hseparator, if_neg Bool.false_ne_true, if_neg hplain.1, if_neg hplain.2]

section Run

variable {run : List Char}

theorem wordsFrom_run (h : ∀ c ∈ run, isSeparator c = false ∧ c ≠ '\'' ∧ c ≠ '\\')
    (chars rest : List Char) :
    wordsFrom (.plain chars) (run ++ rest) = wordsFrom (.plain (run.reverse ++ chars)) rest := by
  induction run generalizing chars with
  | nil => rfl
  | cons c run ih =>
    obtain ⟨hc, hrun⟩ := List.forall_mem_cons.mp h
    rw [List.cons_append, wordsFrom_plain_bare hc.1 hc.2, ih hrun, List.reverse_cons,
      List.append_assoc, List.singleton_append]

/-- A piece without separators at the end of a line is a word unless it is empty. -/
theorem wordsFrom_last_run (h : ∀ c ∈ run, isSeparator c = false ∧ c ≠ '\'' ∧ c ≠ '\\') :
    wordsFrom .between run = some ([run].filter fun word => !word.isEmpty) := by
  cases run with
  | nil => rfl
  | cons c run =>
    obtain ⟨hc, hrun⟩ := List.forall_mem_cons.mp h
    have hread := wordsFrom_run hrun [c] []
    rw [List.append_nil] at hread
    rw [wordsFrom_between_bare hc.1 hc.2, hread]
    simp [wordsFrom]

/-- And so is one in front of a separator. -/
theorem wordsFrom_run_append {mark : Char}
    (h : ∀ c ∈ run, isSeparator c = false ∧ c ≠ '\'' ∧ c ≠ '\\')
    (hmark : isSeparator mark = true) (rest : List Char) :
    wordsFrom .between (run ++ mark :: rest) =
      (wordsFrom .between rest).map fun ws => ([run].filter fun word => !word.isEmpty) ++ ws := by
  cases run with
  | nil =>
    rw [List.nil_append, wordsFrom, if_pos hmark]
    simp
  | cons c run =>
    obtain ⟨hc, hrun⟩ := List.forall_mem_cons.mp h
    rw [List.cons_append, wordsFrom_between_bare hc.1 hc.2, wordsFrom_run hrun, wordsFrom,
      if_pos hmark]
    simp

end Run

/-- **The words of a plain text** are its longest pieces without separators. -/
theorem words_of_plain {text : String} (h : Plain text) : words text = some (plainWords text) := by
  have hread : ∀ line : List Char, (∀ c ∈ line, c ≠ '\'' ∧ c ≠ '\\') →
      wordsFrom .between line =
        some ((Text.segments isSeparator line).filter fun word => !word.isEmpty) := by
    intro line hline
    -- The first piece is read at once, and the others after the first separator.
    induction hlength : line.length using Nat.strongRecOn generalizing line with
    | _ length ih =>
      rcases Text.free_or_exists_first isSeparator line with
        hfree | ⟨first, mark, rest, rfl, hfree, hmark⟩
      · rw [Text.segments_of_free hfree]
        exact wordsFrom_last_run fun c hc => ⟨hfree c hc, hline c hc⟩
      · have hfirst : ∀ c ∈ first, isSeparator c = false ∧ c ≠ '\'' ∧ c ≠ '\\' := fun c hc =>
          ⟨hfree c hc, hline c (List.mem_append_left _ hc)⟩
        have hrest : ∀ c ∈ rest, c ≠ '\'' ∧ c ≠ '\\' := fun c hc =>
          hline c (List.mem_append_right _ (List.mem_cons_of_mem _ hc))
        have hshort : rest.length < length := by
          rw [← hlength, List.length_append, List.length_cons]
          omega
        rw [wordsFrom_run_append hfirst hmark, ih _ hshort rest hrest rfl,
          Text.segments_append_cons hmark, Text.segments_of_free hfree, List.filter_append]
        rfl
  rw [words, hread text.toList h]
  rfl

/-! ### Quoting is undone -/

/-- **Quoting is undone by the shell.** A line of a quoted text, a separator and plain words is read
as the text and these words. What goes into a word is kept, and put together it is the words of the
line; of a quoted text all characters are kept, each between quotes or after a backslash, whatever
follows after a separator. So texts that are quoted alike are the same text. -/
theorem quote_undone :
    (∀ (text tail : String) (blank : Char), isSeparator blank = true → Plain tail →
        words (quote text ++ (String.singleton blank ++ tail)) = some (text :: plainWords tail)) ∧
      (∀ (text tail : String) (blank : Char), isSeparator blank = true →
        kept (quote text ++ (String.singleton blank ++ tail)) =
          (text.toList.map fun c => (c, protection c)) ++ kept tail) ∧
      (∀ (line : String) (ws : List String), words line = some ws →
        (kept line).map Prod.fst = ws.flatMap String.toList) ∧
      Function.Injective quote := by
  refine ⟨fun text tail blank hblank hplain => ?_, fun text tail blank hblank => ?_,
    fun _ _ hwords => kept_of_words hwords, quote_injective⟩
  · rw [words_quote_append text tail hblank, words_of_plain hplain]
    rfl
  · exact kept_quote_append text tail hblank

/-- A text that would end its quotes, run a command and start them again, in front of two words. -/
theorem quote_undone_samples :
    Plain "-n  5" ∧
      words "'a'\\''; reboot '\\''\\b' -n  5" = some ["a'; reboot '\\b", "-n", "5"] ∧
      (kept "'a'\\''; reboot '\\''\\b' -n  5").map Prod.fst =
        "a'; reboot '\\b-n5".toList := by
  have hplain : Plain "-n  5" := by
    simp [Plain]
  have hwords := quote_undone.1 "a'; reboot '\\b" "-n  5" ' ' rfl hplain
  have hkept := quote_undone.2.2.1 _ _ hwords
  exact ⟨hplain, hwords, hkept⟩

end VaultLocator.Shell

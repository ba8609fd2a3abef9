/-!
# Words read without regard to case

Patterns of the library are lower-case words over ASCII. Such a word is met *up to case* when its
characters are met one by one, each as itself, as its capital, or – for `s` and `k` alone – as the
one character beyond ASCII that folds to it: the long s and the Kelvin sign.
-/

namespace VaultLocator.Text

/-- Whether `c` is the lower-case ASCII character `letter`, up to case. -/
def sameLetter (letter c : Char) : Bool :=
  c.toLower == letter || (letter == 's' && c == '\u017F') || (letter == 'k' && c == '\u212A')

/-- What follows a word at the start of a text, if the text starts with the word up to case. -/
def afterWord : List Char → List Char → Option (List Char)
  | [], text => some text
  | _ :: _, [] => none
  | letter :: word, c :: text => if sameLetter letter c then afterWord word text else none

/-- Whether a text starts with a word up to case. -/
def startsWithWord (word text : List Char) : Bool :=
  (afterWord word text).isSome

theorem sameLetter_self {c : Char} (h : c.toLower = c) : sameLetter c c = true := by
  simp [sameLetter, h]

/-- A text that is a word followed by something starts with that word up to case. -/
theorem afterWord_append {word : List Char} (h : ∀ c ∈ word, c.toLower = c) (rest : List Char) :
    afterWord word (word ++ rest) = some rest := by
  induction word with
  | nil => rfl
  | cons c word ih =>
    simp only [List.mem_cons, forall_eq_or_imp] at h
    simp [afterWord, sameLetter_self h.1, ih h.2]

end VaultLocator.Text

import VaultLocator.Text.CaseTable

/-!
# Lower case

The lower-case form of a text, by the full rules of Unicode. A character has a lower-case form of
its own, whatever stands around it, with two exceptions to the one-to-one rule: the capital I with
a dot becomes two characters, and the capital sigma becomes a final sigma at the end of a word and
a medial one elsewhere. A sigma *ends a word* when, looking past the case-ignorable characters, a
cased character stands before it and none stands after it.
-/

namespace VaultLocator.Text

/-- Whether a character has an upper- or lower-case nature. -/
def isCased (c : Char) : Bool :=
  inRanges casedRanges c

/-- Whether a character is looked past when a sigma asks for its neighbours. -/
def isCaseIgnorable (c : Char) : Bool :=
  inRanges caseIgnorableRanges c

/-- Whether the first character of a text that is not case-ignorable is cased. -/
def meetsCased : List Char → Bool
  | [] => false
  | c :: rest => if isCaseIgnorable c then meetsCased rest else isCased c

/-- The lower-case form of a character on its own. -/
def lowerChar (c : Char) : List Char :=
  if c.toNat < 128 then
    [c.toLower]
  else if c = '\u0130' then
    ['i', '\u0307']
  else
    match caseRuns.findSome? fun run => run.lower? c.toNat with
    | some code => [Char.ofNat code]
    | none => [c]

/-- The lower-case form of a capital sigma between the characters `before` it, nearest first, and
those `after` it. -/
def lowerSigma (before after : List Char) : Char :=
  if meetsCased before && !meetsCased after then '\u03C2' else '\u03C3'

/-- The lower-case form of a text that follows the characters `before`, nearest first. -/
def lowercaseAfter (before : List Char) : List Char → List Char
  | [] => []
  | c :: rest =>
    if c = '\u03A3' then
      lowerSigma before rest :: lowercaseAfter (c :: before) rest
    else
      lowerChar c ++ lowercaseAfter (c :: before) rest

/-- The lower-case form of a text. -/
def lowercase (text : List Char) : List Char :=
  lowercaseAfter [] text

example : lowercase "ΟΔΟΣ ΣΑΣ".toList = "οδος σας".toList := by decide +kernel

end VaultLocator.Text

import Mathlib.Data.List.Basic
import Mathlib.Tactic.SplitIfs
import VaultLocator.Json.Printer

/-!
# Written JSON is a single line

No character of a written value comes before the blank, so no value can break the line that it is
written on, or move the cursor of whoever reads the line (`VaultLocator.Json.singleLine_chars`).
This is a matter of the texts in the value, where the characters before the blank are escaped
(`VaultLocator.Json.singleLine_quoted`): all else is marks, names and numerals. The numeral of a
double has the digits of its shortest decimal, and those are the digits of a natural
(`VaultLocator.Double.isDigit_of_mem_shortest`).
-/

namespace VaultLocator

/-- **A text that stays on its line**: all its characters are the blank or come after it. -/
def SingleLine (text : List Char) : Prop :=
  ∀ c ∈ text, 32 ≤ c.toNat

namespace SingleLine

variable {text text' : List Char} {c : Char}

theorem nil : SingleLine [] :=
  fun _ hc => nomatch hc

theorem cons (hc : 32 ≤ c.toNat) (h : SingleLine text) : SingleLine (c :: text) :=
  List.forall_mem_cons.mpr ⟨hc, h⟩

theorem append (h : SingleLine text) (h' : SingleLine text') : SingleLine (text ++ text') :=
  List.forall_mem_append.mpr ⟨h, h'⟩

/-- The form in which it can be decided. -/
theorem of_forall (h : text.Forall fun c => 32 ≤ c.toNat) : SingleLine text :=
  List.forall_iff_forall_mem.mp h

theorem of_sublist (h : SingleLine text) (hsub : text'.Sublist text) : SingleLine text' :=
  fun c hc => h c (hsub.subset hc)

theorem of_isDigit (h : ∀ c ∈ text, c.isDigit = true) : SingleLine text := by
  intro c hc
  have hdigit := Char.isDigit_iff_toNat.mp (h c hc)
  exact Nat.le_trans (by decide) hdigit.1

theorem digits (n : Nat) : SingleLine (Nat.toDigits 10 n) :=
  of_isDigit fun _ => Nat.isDigit_of_mem_toDigits (by decide) (by decide)

theorem zeros (n : Nat) : SingleLine (List.replicate n '0') := by
  intro c hc
  rw [List.eq_of_mem_replicate hc]
  decide

theorem int (i : Int) : SingleLine (intChars i) := by
  cases i with
  | ofNat n => exact digits n
  | negSucc n => exact (digits (n + 1)).cons (by decide)

end SingleLine

/-! ### Numerals -/

theorem Decimal.isDigit_of_mem_ofMultiple {count : Nat} {place : Int} {c : Char}
    (h : c ∈ (ofMultiple count place).digits) : c.isDigit = true := by
  have hdrop : c ∈ (Nat.toDigits 10 count).reverse :=
    (List.dropWhile_sublist _).subset (List.mem_reverse.mp h)
  exact Nat.isDigit_of_mem_toDigits (by decide) (by decide) (List.mem_reverse.mp hdrop)

/-- What the search for the shortest decimal finds is a multiple of a power of ten. -/
theorem Double.exists_ofMultiple_of_search {i : Interval} {e : Int} {steps : Nat} {place : Int}
    {d : Decimal} (h : search i e steps place = some d) :
    ∃ count place, d = .ofMultiple count place := by
  induction steps generalizing place with
  | zero => cases h
  | succ steps ih =>
    rw [search] at h
    split at h
    · exact ih h
    · split at h
      · next count _ =>
        cases h
        exact ⟨count, place, rfl⟩
      · exact ih h

theorem Double.isDigit_of_mem_shortest {d : Double} {c : Char} (h : c ∈ d.shortest.digits) :
    c.isDigit = true := by
  rw [shortest] at h
  cases hsearch : search d.interval (d.exponent - 2) 20 d.leadingPlace with
  | none =>
    rw [hsearch] at h
    rw [List.mem_singleton.mp h]
    rfl
  | some found =>
    rw [hsearch] at h
    obtain ⟨count, place, rfl⟩ := exists_ofMultiple_of_search hsearch
    exact Decimal.isDigit_of_mem_ofMultiple h

/-- A decimal is laid out with its digits, zeros, the point and the marks of an exponent. -/
theorem Decimal.singleLine_layOut (style : NumberStyle) {d : Decimal} (h : SingleLine d.digits) :
    SingleLine (d.layOut style) := by
  have hfraction (n : Nat) : SingleLine (d.digits.drop n) := h.of_sublist (List.drop_sublist n _)
  have hwhole (n : Nat) : SingleLine (d.digits.take n) := h.of_sublist (List.take_sublist n _)
  have hzero : SingleLine ['0'] := .zeros 1
  rw [layOut]
  dsimp only
  split
  · split
    · exact ((hzero.append (.cons (by decide) .nil)).append (.zeros _)).append h
    · refine ((hwhole _).append (.zeros _)).append (.cons (by decide) ?_)
      split
      · exact hzero
      · exact hfraction _
  · refine ((hwhole 1).append ?_).append (.cons (by decide) ?_)
    · split
      · exact .nil
      · exact (hfraction 1).cons (by decide)
    · split
      · exact (SingleLine.int _).cons (by decide)
      · exact .int _

namespace Json

theorem singleLine_doubleChars (d : Double) : SingleLine (doubleChars d) := by
  rw [doubleChars]
  refine SingleLine.append ?_ ?_
  · split
    · exact .cons (by decide) .nil
    · exact .nil
  · split
    · exact .cons (by decide) (.cons (by decide) (.zeros 1))
    · exact Decimal.singleLine_layOut numberStyle
        (.of_isDigit fun c => Double.isDigit_of_mem_shortest)

/-! ### Texts -/

theorem singleLine_digitChar : ∀ d < 16, 32 ≤ (Nat.digitChar d).toNat := by
  decide

/-- **A character is escaped if it comes before the blank**, and then written by characters that
do not. -/
theorem singleLine_escapeChar (c : Char) : SingleLine (escapeChar c) := by
  have hshort (mark : Char) (hmark : 32 ≤ mark.toNat) : SingleLine ['\\', mark] :=
    .cons (by decide) (.cons hmark .nil)
  rw [escapeChar]
  split_ifs with hquote hbackslash hb ht hn hf hr hcontrol
  · exact hshort _ (by decide)
  · exact hshort _ (by decide)
  · exact hshort _ (by decide)
  · exact hshort _ (by decide)
  · exact hshort _ (by decide)
  · exact hshort _ (by decide)
  · exact hshort _ (by decide)
  · have hhigh := singleLine_digitChar (c.toNat / 16) (by omega)
    have hlow := singleLine_digitChar (c.toNat % 16) (by omega)
    exact (hshort 'u' (by decide)).append (.append (.zeros 2) (.cons hhigh (.cons hlow .nil)))
  · exact .cons (Nat.not_lt.mp hcontrol) .nil

theorem singleLine_quoted (text : List Char) : SingleLine (quoted text) := by
  have hescape : SingleLine (escape text) := by
    intro c hc
    obtain ⟨plain, -, hc⟩ := List.mem_flatMap.mp hc
    exact singleLine_escapeChar plain c hc
  exact .cons (by decide) (hescape.append (.cons (by decide) .nil))

/-! ### Values -/

mutual

/-- **A written value is a single line.** -/
theorem singleLine_chars : ∀ v : Json, SingleLine (chars v)
  | .null => .of_forall (by decide)
  | .bool true => .of_forall (by decide)
  | .bool false => .of_forall (by decide)
  | .num (.int i) => .int i
  | .num (.double d) => singleLine_doubleChars d
  | .str s => singleLine_quoted s.toList
  | .arr [] => .of_forall (by decide)
  | .arr (item :: items) =>
    .cons (by decide) ((singleLine_chars item).append (singleLine_itemsChars items))
  | .obj [] => .of_forall (by decide)
  | .obj ((key, value) :: members) =>
    .cons (by decide) ((singleLine_quoted key.toList).append
      (.cons (by decide) ((singleLine_chars value).append (singleLine_membersChars members))))

theorem singleLine_itemsChars : ∀ items : List Json, SingleLine (itemsChars items)
  | [] => .cons (by decide) .nil
  | item :: items =>
    .cons (by decide) ((singleLine_chars item).append (singleLine_itemsChars items))

theorem singleLine_membersChars :
    ∀ members : List (String × Json), SingleLine (membersChars members)
  | [] => .cons (by decide) .nil
  | (key, value) :: members =>
    .cons (by decide) ((singleLine_quoted key.toList).append
      (.cons (by decide) ((singleLine_chars value).append (singleLine_membersChars members))))

end

end Json

end VaultLocator

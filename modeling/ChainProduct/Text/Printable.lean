import ChainProduct.Text.Category
import ChainProduct.Text.Mark

/-!
# Printable characters

A character is printable when it has a shape of its own on a line: it is no control or format
character, no separator other than the space, is assigned, is not for private use, is no filler, and
is no mark that joins the character before it. The visible characters of ASCII and the space are
printable (`isPrintable_of_isVisibleAscii`). The characters that could break a line are not printable:
`isPrintable_of_isIn_control` and `isPrintable_of_isLineBreak`.
-/

namespace ChainProduct.Text

/-- The character has a shape of its own on a line. -/
def isPrintable (c : Char) : Bool :=
  !(isIn control c || isIn format c || isIn separator c || isIn privateUse c || isIn filler c ||
    isIn unassigned c || isIn extendingMark c)

/-- The character is one of ASCII from the space to the tilde. -/
def isVisibleAscii (c : Char) : Bool :=
  0x20 ≤ c.toNat && c.toNat ≤ 0x7e

/-- The line separator or the paragraph separator. -/
def IsLineBreak (c : Char) : Prop :=
  c = '\u2028' ∨ c = '\u2029'

/-- No control character is printable. -/
theorem isPrintable_of_isIn_control {c : Char} (h : isIn control c) : isPrintable c = false := by
  simp [isPrintable, h]

/-- Neither line break is printable. -/
theorem isPrintable_of_isLineBreak {c : Char} (h : IsLineBreak c) : isPrintable c = false := by
  have hsep : isIn separator c := by
    rcases h with rfl | rfl <;> decide
  simp [isPrintable, hsep]

/-- The characters of ASCII from the space to the tilde are printable. -/
theorem isPrintable_of_isVisibleAscii {c : Char} (h : isVisibleAscii c) : isPrintable c := by
  -- No range of any table reaches into this part of ASCII.
  have hclear : ∀ table ∈ [control, format, separator, privateUse, filler, unassigned,
      extendingMark], ∀ range ∈ table, range.2 < 0x20 ∨ 0x7e < range.1 := by decide +kernel
  have hout : ∀ table ∈ [control, format, separator, privateUse, filler, unassigned,
      extendingMark], isIn table c = false := by
    intro table htable
    refine isIn_eq_false fun range hrange ↦ ?_
    have := hclear table htable range hrange
    simp only [isVisibleAscii, Bool.and_eq_true, decide_eq_true_eq] at h
    omega
  simp only [List.forall_mem_cons] at hout
  simp [isPrintable, hout]

end ChainProduct.Text

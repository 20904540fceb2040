import ChainProduct.Text.Blank
import ChainProduct.Text.Numeral

/-!
# What a line holds

A line holds one value, blanks around it left out, or nothing, or more than it may. Main
statements: a line is blank exactly when all of it is (`ofText_eq_blank_iff`), a value holds no
blank (`not_isBlank_of_ofText_eq_single`), and what a line holds is told by its words
(`ofText_of_words_eq_nil`, `ofText_of_words_eq_singleton`, `ofText_of_two_le_length_words`).
-/

namespace ChainProduct

/-- The text of the bytes of a line, unless they are not UTF-8. -/
def lineText? (bytes : List UInt8) : Option (List Char) :=
  (String.fromUTF8? bytes.toByteArray).map String.toList

/-- What a line holds, without the blanks at both ends. -/
inductive LineContent where
  /-- Nothing but blanks. -/
  | blank
  /-- One value. -/
  | single (value : List Char)
  /-- Several values with blanks between them. -/
  | several (values : List Char)
  deriving DecidableEq, Repr

namespace LineContent

/-- What the text of a line holds. -/
def ofText (text : List Char) : LineContent :=
  let trimmed := Text.trim text
  if trimmed = [] then .blank
  else if trimmed.any Text.isBlank then .several trimmed
  else .single trimmed

/-- What the bytes of a line hold, unless they are not UTF-8. -/
def ofBytes? (bytes : List UInt8) : Option LineContent :=
  (lineText? bytes).map ofText

/-- A line is blank exactly when every character is. -/
theorem ofText_eq_blank_iff {text : List Char} :
    ofText text = .blank ↔ ∀ c ∈ text, Text.isBlank c := by
  rw [← Text.trim_eq_nil_iff]
  simp only [ofText]
  split
  · simp_all
  · split <;> simp_all

/-- A single value is what is left of the line without the blanks at both ends. -/
theorem trim_eq_of_ofText_eq_single {text value : List Char} (h : ofText text = .single value) :
    Text.trim text = value := by
  simp only [ofText] at h
  split at h
  · contradiction
  · split at h
    · contradiction
    · simpa using h

/-- A single value holds no blank. -/
theorem not_isBlank_of_ofText_eq_single {text value : List Char} (h : ofText text = .single value) :
    ∀ c ∈ value, Text.isBlank c = false := by
  obtain rfl := trim_eq_of_ofText_eq_single h
  simp only [ofText] at h
  split at h
  · contradiction
  · split at h
    · contradiction
    · next hblank => simpa using hblank

/-- A line without words is blank. -/
theorem ofText_of_words_eq_nil {text : List Char} (h : Text.words text = []) :
    ofText text = .blank :=
  ofText_eq_blank_iff.mpr (Text.words_eq_nil_iff.mp h)

/-- A line with one word holds it. -/
theorem ofText_of_words_eq_singleton {text word : List Char} (h : Text.words text = [word]) :
    ofText text = .single word := by
  have hany : (Text.trim text).any Text.isBlank = false := by
    refine Bool.eq_false_iff.mpr fun hany ↦ ?_
    have hlength := Text.two_le_length_words_iff.mpr hany
    rw [h] at hlength
    simp at hlength
  have htrim : Text.trim text ≠ [] := by
    intro hnil
    rw [← Text.words_trim, hnil] at h
    simp [Text.words] at h
  -- The trimmed text has no blank, so it is the only word.
  have hword := Text.words_eq_singleton htrim (by simpa using hany)
  rw [Text.words_trim, h, List.cons.injEq] at hword
  simp [ofText, htrim, hany, hword.1]

/-- A line with two words or more holds several values. -/
theorem ofText_of_two_le_length_words {text : List Char} (h : 2 ≤ (Text.words text).length) :
    ofText text = .several (Text.trim text) := by
  have hany := Text.two_le_length_words_iff.mp h
  have htrim : Text.trim text ≠ [] := by
    intro hnil
    rw [hnil] at hany
    cases hany
  simp [ofText, htrim, hany]

end LineContent

end ChainProduct

import ChainProduct.Text.Printable

/-!
# Quoted text

A quoted text stands between double quotes. A double quote and a backslash follow a backslash,
four control characters have a short form, and any other character that is not printable is
written by the hexadecimal digits of its code point. So all of a quoted text is printable, whatever
the text is (`isPrintable_of_mem_quote`).
-/

namespace ChainProduct.Text

/-- The code point of the character, in lower case and without leading zeros. -/
def codeText (c : Char) : List Char :=
  ['\\', 'u', '\x7b'] ++ Nat.toDigits 16 c.toNat ++ ['\x7d']

/-- The character as it stands in quoted text. -/
def escape : Char → List Char
  | '"' => ['\\', '"']
  | '\\' => ['\\', '\\']
  | '\x00' => ['\\', '0']
  | '\t' => ['\\', 't']
  | '\n' => ['\\', 'n']
  | '\r' => ['\\', 'r']
  | c => if isPrintable c then [c] else codeText c

/-- The text between double quotes. -/
def quote (text : String) : String :=
  String.ofList ('"' :: text.toList.flatMap escape ++ ['"'])

/-- A character of a numeral is one of the digits of its base. -/
theorem exists_digitChar_of_mem_toDigits {base number : Nat} {c : Char} (hbase : 1 < base)
    (h : c ∈ Nat.toDigits base number) : ∃ digit < base, c = digit.digitChar := by
  induction number using Nat.strongRecOn with
  | ind number ih =>
      by_cases hlt : number < base
      · rw [Nat.toDigits_of_lt_base hlt] at h
        exact ⟨number, hlt, List.mem_singleton.mp h⟩
      · rw [Nat.toDigits_of_base_le hbase (by omega)] at h
        rcases List.mem_append.mp h with hrest | hlast
        · exact ih _ (Nat.div_lt_self (by omega) hbase) hrest
        · exact ⟨number % base, Nat.mod_lt _ (by omega), List.mem_singleton.mp hlast⟩

/-- Hexadecimal digits are printable. -/
theorem isPrintable_digitChar {digit : Nat} (h : digit < 16) : isPrintable digit.digitChar := by
  have hall : (List.range 16).all (fun digit ↦ isVisibleAscii digit.digitChar) := rfl
  exact isPrintable_of_isVisibleAscii (List.all_eq_true.mp hall digit (List.mem_range.mpr h))

/-- The text of a code point is printable. -/
theorem isPrintable_of_mem_codeText {c d : Char} (h : d ∈ codeText c) : isPrintable d := by
  simp only [codeText, List.mem_append, List.mem_cons, List.not_mem_nil, or_false] at h
  rcases h with ((rfl | rfl | rfl) | hdigit) | rfl
  · exact isPrintable_of_isVisibleAscii rfl
  · exact isPrintable_of_isVisibleAscii rfl
  · exact isPrintable_of_isVisibleAscii rfl
  · obtain ⟨digit, hlt, rfl⟩ := exists_digitChar_of_mem_toDigits (by decide) hdigit
    exact isPrintable_digitChar hlt
  · exact isPrintable_of_isVisibleAscii rfl

/-- What stands for a character in quoted text is printable. -/
theorem isPrintable_of_mem_escape {c d : Char} (h : d ∈ escape c) : isPrintable d := by
  have hshort : ['\\', '"', '0', 't', 'n', 'r'].all isVisibleAscii := rfl
  unfold escape at h
  split at h
  iterate 6
    · exact isPrintable_of_isVisibleAscii (List.all_eq_true.mp hshort d (by grind))
  split at h
  · next hprintable => rwa [List.mem_singleton.mp h]
  · exact isPrintable_of_mem_codeText h

/-- All of a quoted text is printable. -/
theorem isPrintable_of_mem_quote {text : String} {d : Char} (h : d ∈ (quote text).toList) :
    isPrintable d := by
  simp only [quote, List.cons_append, String.toList_ofList, List.mem_cons, List.mem_append,
    List.mem_flatMap, List.not_mem_nil, or_false] at h
  rcases h with rfl | ⟨c, -, hc⟩ | rfl
  · exact isPrintable_of_isVisibleAscii rfl
  · exact isPrintable_of_mem_escape hc
  · exact isPrintable_of_isVisibleAscii rfl

end ChainProduct.Text

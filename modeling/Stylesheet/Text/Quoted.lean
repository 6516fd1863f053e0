import Stylesheet.Text.Unicode

/-! # Quoted text

The quoted form of a text, as diagnostics and debugging output show it: the text between double
quotes, with quotes, backslashes and common control characters written as short escapes. Characters
without a visible form, and those that would attach to what stands before them, are written as the
escape of their code; all others stand for themselves. What is quoted can always be read
(`Text.readable_of_mem_quoted`). -/

namespace Stylesheet.Text

/-- What stands behind the backslash of a short escape, for a character that has one. -/
def shortEscape? : Char → Option Char
  | '"' => some '"'
  | '\\' => some '\\'
  | '\x00' => some '0'
  | '\t' => some 't'
  | '\n' => some 'n'
  | '\r' => some 'r'
  | _ => none

/-- The code of `c` as a braced hexadecimal escape, in lower case and without leading zeros. -/
def codeEscape (c : Char) : List Char :=
  ['\\', 'u', '\x7b'] ++ Nat.toDigits 16 c.toNat ++ ['\x7d']

/-- The spelling of one character inside quotes. -/
def escape (c : Char) : List Char :=
  match shortEscape? c with
  | some letter => ['\\', letter]
  | none => if extendsGrapheme c || !isPrintable c then codeEscape c else [c]

/-- **The quoted form** of a text. -/
def quoted (text : String) : String :=
  String.ofList ('"' :: text.toList.flatMap escape ++ ['"'])

/-- Short escapes are written in ASCII. -/
theorem readable_of_shortEscape? {c letter : Char} (h : shortEscape? c = some letter) :
    Readable letter := by
  unfold shortEscape? at h
  split at h
  all_goals cases h
  all_goals exact readable_of_ascii (by decide) (by decide)

/-- Hexadecimal digits can be read. -/
theorem readable_of_mem_toDigits (code : Nat) : ∀ c ∈ Nat.toDigits 16 code, Readable c := by
  have hdigit : ∀ digit < 16,
      0x20 ≤ digit.digitChar.toNat ∧ digit.digitChar.toNat < 0x7f := by decide
  have hreadable : ∀ digit < 16, Readable digit.digitChar := fun digit hlt =>
    readable_of_ascii (hdigit digit hlt).1 (hdigit digit hlt).2
  induction code using Nat.strongRecOn with
  | ind code ih =>
    intro c hmem
    rcases Nat.lt_or_ge code 16 with hlt | hle
    · rw [Nat.toDigits_of_lt_base hlt, List.mem_singleton] at hmem
      exact hmem ▸ hreadable code hlt
    · rw [Nat.toDigits_of_base_le (by decide) hle] at hmem
      rcases List.mem_append.mp hmem with hhigh | hlow
      · exact ih (code / 16) (by omega) c hhigh
      · rw [List.mem_singleton] at hlow
        exact hlow ▸ hreadable (code % 16) (Nat.mod_lt code (by decide))

/-- The escape of a code can be read. -/
theorem readable_of_mem_codeEscape {c d : Char} (h : d ∈ codeEscape c) : Readable d := by
  simp only [codeEscape, List.mem_append, List.mem_cons, List.not_mem_nil, or_false] at h
  obtain ((rfl | rfl | rfl) | hdigit) | rfl := h
  case inl.inr => exact readable_of_mem_toDigits c.toNat d hdigit
  all_goals exact readable_of_ascii (by decide) (by decide)

/-- Whatever the character, what is written for it can be read. -/
theorem readable_of_mem_escape {c d : Char} (h : d ∈ escape c) : Readable d := by
  unfold escape at h
  split at h
  · next letter hletter =>
    rcases List.mem_cons.mp h with rfl | hmem
    · exact readable_of_ascii (by decide) (by decide)
    · exact List.mem_singleton.mp hmem ▸ readable_of_shortEscape? hletter
  · split at h
    · exact readable_of_mem_codeEscape h
    · next hplain =>
      -- A character that stands for itself was found to be readable.
      simp only [Bool.or_eq_true, Bool.not_eq_true', not_or, Bool.not_eq_true, Bool.not_eq_false]
        at hplain
      exact List.mem_singleton.mp h ▸ hplain

/-- **What is quoted can be read**, whatever the text. -/
theorem readable_of_mem_quoted {text : String} {c : Char} (h : c ∈ (quoted text).toList) :
    Readable c := by
  rw [quoted, String.toList_ofList] at h
  rcases List.mem_append.mp h with hfront | hquote
  · rcases List.mem_cons.mp hfront with rfl | hmem
    · exact readable_of_ascii (by decide) (by decide)
    · obtain ⟨d, -, hescape⟩ := List.mem_flatMap.mp hmem
      exact readable_of_mem_escape hescape
  · exact List.mem_singleton.mp hquote ▸ readable_of_ascii (by decide) (by decide)

/-- An accent of its own and a space that cannot be seen are written by their codes. -/
example : quoted "e\u0301\t\u200b" = "\"e\\u\x7b301\x7d\\t\\u\x7b200b\x7d\"" := by
  decide +kernel

end Stylesheet.Text

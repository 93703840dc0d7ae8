import Daybook.Json.Scan
import Mathlib.Tactic.Common

namespace Daybook.Json

/-- The texts that stand for a character between quotes: quotes, backslashes and control characters are
escaped, by letter or by number, and any other character may stand for itself. -/
inductive IsUnit : Char → List Char → Prop
  | plain {c : Char} (hquote : c ≠ '"') (hbackslash : c ≠ '\\') (hcontrol : ¬ c.toNat < 0x20) : IsUnit c [c]
  | letter {letter c : Char} (hletter : unescape? letter = some c) : IsUnit c ['\\', letter]
  | numbered {c : Char} {digits : List Char} (hlength : digits.length = 4)
      (hnumber : Text.hexNumber? digits = some c.toNat) : IsUnit c ('\\' :: 'u' :: digits)

/-- The texts that stand for the characters of a string. -/
inductive AreUnits : List Char → List Char → Prop
  | nil : AreUnits [] []
  | cons {c : Char} {cs unit units : List Char} (hunit : IsUnit c unit) (hunits : AreUnits cs units) :
      AreUnits (c :: cs) (unit ++ units)

/-- The texts that stand for a string. -/
inductive IsString (s : String) : List Char → Prop
  | quoted {units : List Char} (hunits : AreUnits s.toList units) : IsString s ('"' :: units ++ ['"'])

section Read

variable (cs : List Char)

private theorem stringBody?_plain {c : Char} (hquote : c ≠ '"') (hbackslash : c ≠ '\\')
    (hcontrol : ¬ c.toNat < 0x20) :
    stringBody? (c :: cs) = (stringBody? cs).map fun (body, rest) => (c :: body, rest) := by
  rw [stringBody?.eq_def]
  split <;> rename_i heq <;> cases heq
  · exact absurd rfl hquote
  · exact absurd rfl hbackslash
  · exact absurd rfl hbackslash
  · rw [if_neg (not_or.mpr ⟨hcontrol, hbackslash⟩)]
    cases stringBody? cs <;> rfl

private theorem stringBody?_letter {letter c : Char} (hletter : unescape? letter = some c) :
    stringBody? ('\\' :: letter :: cs) =
      (stringBody? cs).map fun (body, rest) => (c :: body, rest) := by
  have hu : letter ≠ 'u' := by
    rintro rfl
    cases hletter
  rw [stringBody?.eq_def]
  split <;> rename_i heq <;> cases heq
  · exact absurd rfl hu
  · rw [hletter]
    cases stringBody? cs <;> rfl
  · rename_i hfree
    exact absurd rfl (hfree letter cs rfl)

/-- The number of a character is no half of a pair. -/
theorem isUnit_eq_false (c : Char) : isLeadUnit c.toNat = false ∧ isTrailUnit c.toNat = false := by
  have hvalid : c.toNat < 0xD800 ∨ 0xDFFF < c.toNat ∧ c.toNat < 0x110000 := c.valid
  simp only [isLeadUnit, isTrailUnit, Bool.and_eq_false_iff, decide_eq_false_iff_not]
  omega

private theorem stringBody?_numbered {c : Char} {digits : List Char} (hlength : digits.length = 4)
    (hnumber : Text.hexNumber? digits = some c.toNat) :
    stringBody? ('\\' :: 'u' :: digits ++ cs) =
      (stringBody? cs).map fun (body, rest) => (c :: body, rest) := by
  obtain ⟨hlead, htrail⟩ := isUnit_eq_false c
  match digits, hlength with
  | [_, _, _, _], _ =>
    rw [List.cons_append, List.cons_append, stringBody?.eq_def]
    simp only [List.cons_append, List.nil_append, hnumber, hlead, htrail, Option.bind_eq_bind, Option.bind_some,
      Bool.false_eq_true, if_false, Char.ofNat_toNat]
    cases stringBody? cs <;> rfl

/-- A character that is plain or escaped, in whichever way, is read as itself. -/
theorem stringBody?_of_isUnit {c : Char} {unit : List Char} (hunit : IsUnit c unit) :
    stringBody? (unit ++ cs) = (stringBody? cs).map fun (body, rest) => (c :: body, rest) := by
  cases hunit with
  | plain hquote hbackslash hcontrol => exact stringBody?_plain cs hquote hbackslash hcontrol
  | letter hletter => exact stringBody?_letter cs hletter
  | numbered hlength hnumber => exact stringBody?_numbered cs hlength hnumber

end Read

private theorem stringBody?_of_areUnits {cs units : List Char} (hunits : AreUnits cs units) (rest : List Char) :
    stringBody? (units ++ '"' :: rest) = some (cs, rest) := by
  induction hunits with
  | nil => rw [List.nil_append, stringBody?]
  | cons hunit _ ih =>
    rw [List.append_assoc, stringBody?_of_isUnit _ hunit, ih]
    rfl

/-- A text that stands for a string is read as that string, and what follows it is left. -/
theorem string?_of_isString {s : String} {text : List Char} (hstring : IsString s text) (rest : List Char) :
    string? (text ++ rest) = some (s, rest) := by
  obtain ⟨hunits⟩ := hstring
  simp only [List.cons_append, List.append_assoc, List.nil_append, string?, stringBody?_of_areUnits hunits,
    Option.map_some, String.ofList_toList]

theorem skipSpace_of_isString {s : String} {text : List Char} (hstring : IsString s text) (rest : List Char) :
    skipSpace (text ++ rest) = text ++ rest := by
  obtain ⟨_⟩ := hstring
  rfl

section Written

/-- The digits by which a control character is escaped denote its number. -/
theorem hexNumber?_escape {n : Nat} (hn : n < 0x20) :
    Text.hexNumber? ['0', '0', hexDigit (n / 16), hexDigit n] = some n := by
  have hall : ∀ m < 0x20, Text.hexNumber? ['0', '0', hexDigit (m / 16), hexDigit m] = some m := by
    decide
  exact hall n hn

private theorem isUnit_escapeChar (c : Char) : IsUnit c (escapeChar c) := by
  unfold escapeChar
  split
  case h_8 hquote hbackslash _ _ _ _ _ =>
    split
    · rename_i hcontrol
      exact .numbered rfl (hexNumber?_escape hcontrol)
    · rename_i hcontrol
      exact .plain hquote hbackslash hcontrol
  all_goals exact .letter rfl

private theorem areUnits_escaped (cs : List Char) : AreUnits cs (cs.flatMap escapeChar) := by
  induction cs with
  | nil => exact .nil
  | cons c cs ih => exact .cons (isUnit_escapeChar c) ih

/-- A string as it is written between quotes is a text of it. -/
theorem isString_quotedChars (s : String) : IsString s (quotedChars s) :=
  .quoted (areUnits_escaped s.toList)

/-- A written string is read as it was, and what follows it is left. -/
theorem string?_quotedChars (s : String) (rest : List Char) :
    string? (quotedChars s ++ rest) = some (s, rest) :=
  string?_of_isString (isString_quotedChars s) rest

end Written

end Daybook.Json

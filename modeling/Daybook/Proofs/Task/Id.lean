import Daybook.Proofs.Text.Literal
import Daybook.Task.Id

namespace Daybook.TaskId

/-- Positive, and no more than 64 bits hold. -/
structure IsPositive (id : TaskId) : Prop where
  pos : 0 < id.value
  le : id.value ≤ 9223372036854775807

/-- A text that denotes an identifier: digits after a plus sign or after none. -/
def IsNumeral (cs : List Char) (id : TaskId) : Prop :=
  ∃ digits n, (cs = digits ∨ cs = '+' :: digits) ∧ Text.AreDigits digits n ∧ id.value = (n : Int)

variable {cs : List Char} {text : String} {id : TaskId}

private theorem isNumeral_iff (hid : 0 < id.value) : IsNumeral cs id ↔ Text.IsLiteral cs id.value := by
  constructor
  · rintro ⟨digits, n, rfl | rfl, hdigits, hvalue⟩
    · rw [hvalue]
      exact .unsigned hdigits
    · rw [hvalue]
      exact .plus hdigits
  · intro hliteral
    obtain ⟨value⟩ := id
    cases hliteral with
    | unsigned hdigits => exact ⟨_, _, .inl rfl, hdigits, rfl⟩
    | plus hdigits => exact ⟨_, _, .inr rfl, hdigits, rfl⟩
    | @minus _ n =>
      change 0 < -(n : Int) at hid
      omega

/-- A text is read as an identifier exactly where it denotes that one between its blanks. -/
theorem read_eq_ok_iff :
    read text = .ok id ↔ ∃ core, Text.IsTrimmed text.toList core ∧ IsNumeral core id ∧ id.IsPositive := by
  constructor
  · intro hread
    have hcore := Text.isTrimmed_trimChars text.toList
    unfold read at hread
    dsimp only at hread
    split at hread
    · rename_i n hn
      obtain ⟨hliteral, _, hlt⟩ := Text.readInt64?_eq_some_iff.mp hn
      split at hread
      · rename_i hpos
        cases hread
        exact ⟨_, hcore, (isNumeral_iff hpos).mpr hliteral, hpos, Int.le_of_lt_add_one hlt⟩
      · cases hread
    · cases hread
  · rintro ⟨core, hcore, hnumeral, hpos, hle⟩
    have hn : Text.readInt64? core = some id.value :=
      Text.readInt64?_eq_some_iff.mpr ⟨(isNumeral_iff hpos).mp hnumeral, by omega, by omega⟩
    simp only [read, Text.trimChars_of_isTrimmed hcore, hn, if_pos hpos]

/-- An identifier is read from its own text. -/
theorem read_text (hid : id.IsPositive) : read id.text = .ok id := by
  have hliteral := Text.isLiteral_intChars id.value
  rw [read_eq_ok_iff, text, Text.ofInt, String.toList_ofList]
  exact ⟨_, hliteral.isWord.isTrimmed, (isNumeral_iff hid.pos).mpr hliteral, hid⟩

end Daybook.TaskId

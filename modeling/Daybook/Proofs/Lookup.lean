import Mathlib.Data.List.Basic

namespace Daybook

variable {α β : Type} [DecidableEq α] [BEq α] [LawfulBEq α]

/-- The first entry hides those of the same key below it. -/
theorem lookup_cons (key other : α) (value : β) (entries : List (α × β)) :
    ((key, value) :: entries).lookup other = if other = key then some value else entries.lookup other := by
  rw [List.lookup_cons]
  split <;> rename_i hkey
  · rw [if_pos (beq_iff_eq.mp hkey)]
  · rw [if_neg (beq_eq_false_iff_ne.mp hkey)]

/-- What is looked up is found among the entries whose keys have a property if the key has it. -/
theorem lookup_filter (p : α → Bool) (key : α) (entries : List (α × β)) :
    (entries.filter fun entry => p entry.1).lookup key = if p key then entries.lookup key else none := by
  induction entries with
  | nil => simp
  | cons entry entries ih =>
    obtain ⟨other, value⟩ := entry
    by_cases hkey : key = other
    · subst hkey
      by_cases hp : p key = true <;> simp [hp, ih]
    · by_cases hp : p other = true <;> simp [lookup_cons, hp, hkey, ih]

end Daybook

import Daybook.Proofs.Rule.Grammar

namespace Daybook

namespace NumberSet

/-- A set contains its members and nothing else. -/
theorem contains_iff {s : NumberSet} {n : Nat} : s.contains n = true ↔ n ∈ s.toList := by
  rw [contains, List.contains_iff_mem]

end NumberSet

namespace Rule

/-- A rule whose numbers are in their ranges and which names a day where it has to name some. -/
def WellFormed : Rule → Prop
  | .annual => True
  | .interval days => 1 ≤ days ∧ days ≤ maxInterval
  | .weekly weekdays => weekdays.toList ≠ [] ∧ ∀ n ∈ weekdays.toList, 1 ≤ n ∧ n ≤ 7
  | .monthly days months =>
    days.entries ≠ [] ∧ (∀ n ∈ days.days.toList, 1 ≤ n ∧ n ≤ 31) ∧
      (∀ n ∈ days.fromEnd.toList, 1 ≤ n ∧ n ≤ 2) ∧ ∀ n ∈ months.toList, 1 ≤ n ∧ n ≤ 12

/-- Days of a month are given from its start or from its end, if any are. -/
theorem entries_ne_nil_iff {days : MonthDays} :
    days.entries ≠ [] ↔ days.days.toList ≠ [] ∨ days.fromEnd.toList ≠ [] := by
  simp [MonthDays.entries, ← not_and_or, and_comm]

/-- The number of an item that fits is one of its field. -/
theorem domain_of_denotes {field : Field} {items : List (List Char)} {n : Int}
    (hfits : ∀ e ∈ items.map (field, ·), Fits e.1 e.2) (hn : ∃ item ∈ items, Denotes item n) :
    field.Domain n := by
  obtain ⟨item, hitem, hn⟩ := hn
  obtain ⟨m, hm, hdomain⟩ := hfits (field, item) (List.mem_map_of_mem hitem)
  rwa [hn.unique hm]

/-- What is said by items that fit is well formed. -/
theorem Shape.Describes.wellFormed {shape : Shape} {rule : Rule} (hdescribed : shape.Describes rule)
    (hfits : ∀ e ∈ shape.items, Fits e.1 e.2) : rule.WellFormed := by
  cases shape <;> cases rule <;> try exact hdescribed.elim
  · trivial
  · rename_i days
    have hdomain : Field.interval.Domain (days : Int) := by
      obtain ⟨n, hn, hdomain⟩ := List.forall_mem_singleton.mp hfits
      rwa [Denotes.unique hdescribed hn]
    obtain ⟨hpos, hle⟩ := hdomain
    have hmax : maxInterval = 400 := rfl
    constructor <;> omega
  · refine ⟨hdescribed.1, fun k hk => ?_⟩
    obtain ⟨hpos, hle⟩ := domain_of_denotes hfits ((hdescribed.2 k).mp hk)
    omega
  · obtain ⟨hnonempty, hdays, hfromEnd, hmonths⟩ := hdescribed
    obtain ⟨hitems, hmonthItems⟩ := List.forall_mem_append.mp hfits
    refine ⟨entries_ne_nil_iff.mpr hnonempty, fun k hk => ?_, fun k hk => ?_, fun k hk => ?_⟩
    · have hday := domain_of_denotes hitems ((hdays k).mp hk)
      simp only [Field.Domain] at hday
      omega
    · have hday := domain_of_denotes hitems ((hfromEnd k).mp hk)
      simp only [Field.Domain] at hday
      omega
    · obtain ⟨hpos, hle⟩ := domain_of_denotes hmonthItems ((hmonths k).mp hk)
      omega

/-- A rule that is read is well formed. -/
theorem wellFormed_of_read {text : String} {rule : Rule} (hread : read text = .ok rule) :
    rule.WellFormed := by
  have hverdict := verdict_read text
  rw [hread] at hverdict
  cases hverdict with
  | rule _ _ _ _ hfits hdescribed => exact hdescribed.wellFormed hfits

/-- A blank text is no rule. -/
theorem allBlank_of_read {text : String} {rule : Rule} (hread : read text = .ok rule) :
    Text.allBlank text = false := by
  have hverdict := verdict_read text
  rw [hread] at hverdict
  cases hverdict with
  | rule htrimmed hcore _ _ _ _ => exact Text.allBlank_of_isTrimmed htrimmed hcore

end Rule

end Daybook

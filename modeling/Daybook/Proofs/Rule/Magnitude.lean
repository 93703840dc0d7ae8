import Daybook.Occurrence.Basic
import Daybook.Proofs.Rule.Canonical

namespace Daybook.Rule

/-- An item is an integer, however long, if it is a literal of it, with blanks around it or not. -/
def IsInteger (item : List Char) (n : Int) : Prop :=
  ∃ core, Text.IsTrimmed item core ∧ Text.IsLiteral core n

/-- Whether an integer has 64 bits, one of them for the sign. -/
def HasWord (n : Int) : Prop :=
  -9223372036854775808 ≤ n ∧ n < 9223372036854775808

section Integers

variable {field : Field} {item : List Char} {items : List (Field × List Char)} {n m : Int} {cause : Error}

private theorem denotes_iff : Denotes item n ↔ IsInteger item n ∧ HasWord n := by
  constructor
  · rintro ⟨core, htrimmed, hliteral, hword⟩
    exact ⟨⟨core, htrimmed, hliteral⟩, hword⟩
  · rintro ⟨⟨core, htrimmed, hliteral⟩, hword⟩
    exact ⟨core, htrimmed, hliteral, hword⟩

private theorem readInt?_trimChars_eq_some_iff : Text.readInt? (Text.trimChars item) = some n ↔ IsInteger item n := by
  rw [Text.readInt?_eq_some_iff]
  constructor
  · intro hliteral
    exact ⟨_, Text.isTrimmed_trimChars item, hliteral⟩
  · rintro ⟨core, htrimmed, hliteral⟩
    rwa [Text.trimChars_of_isTrimmed htrimmed]

/-- An item is at most one integer, of whatever size. -/
theorem IsInteger.unique (hn : IsInteger item n) (hm : IsInteger item m) : n = m := by
  rw [← readInt?_trimChars_eq_some_iff] at hn hm
  exact Option.some_inj.mp (hn.symm.trans hm)

/-- An integer outside the range of its field does not fit it, whatever its size. -/
theorem not_fits_of_isInteger (hn : IsInteger item n) (hdomain : ¬ field.Domain n) : ¬ Fits field item := by
  rintro ⟨m, hm, hinside⟩
  obtain rfl := hn.unique (denotes_iff.mp hm).1
  exact hdomain hinside

/-- What is said to be wrong with an integer outside the range of its field. -/
inductive Refused (field : Field) (item : List Char) (n : Int) : Error → Prop
  | outOfRange (hword : HasWord n) : Refused field item n (.outOfRange field n)
  | invalidNumber (hwide : ¬ HasWord n) : Refused field item n (.invalidNumber field (String.ofList item))

/-- An integer that is at fault is outside the domain of its field, and is refused as such. -/
theorem Fault.refused (hfault : Fault field item cause) (hn : IsInteger item n) :
    ¬ field.Domain n ∧ Refused field item n cause := by
  cases hfault with
  | invalidNumber hnone =>
    have hwide : ¬ HasWord n := fun hword => hnone ⟨n, denotes_iff.mpr ⟨hn, hword⟩⟩
    refine ⟨fun hdomain => hwide ?_, .invalidNumber hwide⟩
    have hbounds := bounds_of_domain hdomain
    unfold HasWord
    omega
  | outOfRange hitem hdomain =>
    obtain ⟨hm, hword⟩ := denotes_iff.mp hitem
    obtain rfl := hm.unique hn
    exact ⟨hdomain, .outOfRange hword⟩

private theorem Refused.kind_eq_range_iff (hrefused : Refused field item n cause) :
    (Occurrence.Error.invalidRule cause).kind = .range ↔ HasWord n := by
  cases hrefused with
  | outOfRange hword => exact iff_of_true rfl hword
  | invalidNumber hwide => exact iff_of_false nofun hwide

private theorem Refused.kind_eq_format_iff (hrefused : Refused field item n cause) :
    (Occurrence.Error.invalidRule cause).kind = .format ↔ ¬ HasWord n := by
  cases hrefused with
  | outOfRange hword => exact iff_of_false nofun (not_not_intro hword)
  | invalidNumber hwide => exact iff_of_true rfl hwide

/-- The first fault stands after items that all fit. -/
theorem FirstFault.exists_append (hfault : FirstFault items cause) :
    ∃ before field item after, items = before ++ (field, item) :: after ∧ (∀ e ∈ before, Fits e.1 e.2) ∧
      Fault field item cause := by
  induction hfault with
  | here hfault => exact ⟨[], _, _, _, rfl, List.forall_mem_nil _, hfault⟩
  | later hfits _ ih =>
    obtain ⟨before, field, item, after, rfl, hbefore, hfault⟩ := ih
    exact ⟨_ :: before, field, item, after, rfl, List.forall_mem_cons.mpr ⟨hfits, hbefore⟩, hfault⟩

end Integers

private theorem exists_item_of_invalidNumber {text value : String} {field : Field}
    (hread : read text = .error (.invalidNumber field value)) :
    ∃ shape item, Shaped text shape ∧ (field, item) ∈ shape.items ∧ value = String.ofList item ∧
      ∀ n, IsInteger item n → ¬ HasWord n := by
  have hverdict := verdict_read text
  rw [hread] at hverdict
  cases hverdict with
  | @faulty core tokens shape _ htrimmed hcore htokens hshape hfault =>
    obtain ⟨before, found, item, after, hitems, _, hfault⟩ := hfault.exists_append
    cases hfault with
    | invalidNumber hnone =>
      refine ⟨shape, item, ⟨core, tokens, htrimmed, hcore, htokens, hshape⟩, ?_, rfl, fun n hn hword => ?_⟩
      · rw [hitems]
        exact List.mem_append_right before List.mem_cons_self
      · exact hnone ⟨n, denotes_iff.mpr ⟨hn, hword⟩⟩

/-- What is said of a rule whose items are all integers, of any size, and some of them outside the ranges of their
fields. It is refused for the first of these, after items that fit: as out of range exactly if that integer has 64
bits, and as no integer if it has more. An integer of 64 bits is never said to be none, whatever the rule. -/
theorem read_of_integers {text : String} {shape : Shape} (hshape : Shaped text shape)
    (hintegers : ∀ e ∈ shape.items, ∃ n, IsInteger e.2 n)
    (houtside : ∃ e ∈ shape.items, ∃ n, IsInteger e.2 n ∧ ¬ e.1.Domain n) :
    (∃ before field item after n cause, shape.items = before ++ (field, item) :: after ∧
      (∀ e ∈ before, Fits e.1 e.2) ∧ (IsInteger item n ∧ ¬ field.Domain n) ∧
      read text = .error cause ∧ Refused field item n cause ∧
      ((Occurrence.Error.invalidRule cause).kind = .range ↔ HasWord n) ∧
      ((Occurrence.Error.invalidRule cause).kind = .format ↔ ¬ HasWord n)) ∧
    ∀ other field value, read other = .error (.invalidNumber field value) →
      ∃ shape item, Shaped other shape ∧ (field, item) ∈ shape.items ∧ value = String.ofList item ∧
        ∀ n, IsInteger item n → ¬ HasWord n := by
  refine ⟨?_, fun other field value => exists_item_of_invalidNumber⟩
  obtain ⟨core, tokens, htrimmed, hcore, htokens, hshape⟩ := hshape
  obtain ⟨wrong, hwrong, m, hm, houtside⟩ := houtside
  obtain ⟨cause, hfault⟩ := (fit_or_firstFault shape.items).resolve_left fun hfits =>
    not_fits_of_isInteger hm houtside (hfits wrong hwrong)
  have hread := (reads_of_hasShape htrimmed hcore htokens hshape).error cause hfault
  obtain ⟨before, field, item, after, hitems, hbefore, hfault⟩ := hfault.exists_append
  obtain ⟨n, hn⟩ := hintegers (field, item) (hitems ▸ List.mem_append_right before List.mem_cons_self)
  obtain ⟨hdomain, hrefused⟩ := hfault.refused hn
  exact ⟨before, field, item, after, n, cause, hitems, hbefore, ⟨hn, hdomain⟩, hread, hrefused,
    hrefused.kind_eq_range_iff, hrefused.kind_eq_format_iff⟩

private theorem shaped_of_splitOn {text : String} {shape : Shape} (hcore : Text.trimChars text.toList ≠ [])
    (hshape : HasShape ((Text.trimChars text.toList).splitOn ' ') shape) : Shaped text shape :=
  ⟨_, _, Text.isTrimmed_trimChars text.toList, hcore, Text.splitOn_eq_iff.mp rfl, hshape⟩

/-- An interval of 2^63 days is an integer and out of range, and is said to be no integer. -/
theorem wide_interval_not_outOfRange :
    ∃ shape, Shaped "d 9223372036854775808" shape ∧ (∀ e ∈ shape.items, ∃ n, IsInteger e.2 n) ∧
      (∃ e ∈ shape.items, ∃ n, IsInteger e.2 n ∧ ¬ e.1.Domain n) ∧
      read "d 9223372036854775808" = .error (.invalidNumber .interval "9223372036854775808") ∧
      ¬ ∃ field n, read "d 9223372036854775808" = .error (.outOfRange field n) := by
  have hshape : Shaped "d 9223372036854775808" (.interval "9223372036854775808".toList) := by
    apply shaped_of_splitOn (by decide +kernel)
    rw [show (Text.trimChars "d 9223372036854775808".toList).splitOn ' ' = [['d'], "9223372036854775808".toList] by
      decide +kernel]
    exact .interval _
  have hinteger : IsInteger "9223372036854775808".toList 9223372036854775808 :=
    readInt?_trimChars_eq_some_iff.mp (by decide +kernel)
  have hread : read "d 9223372036854775808" = .error (.invalidNumber .interval "9223372036854775808") := by
    decide +kernel
  refine ⟨_, hshape, List.forall_mem_singleton.mpr ⟨_, hinteger⟩, ⟨_, List.mem_singleton_self _, _, hinteger, ?_⟩,
    hread, ?_⟩
  · simp only [Field.Domain]
    omega
  · rintro ⟨field, n, hrange⟩
    rw [hread] at hrange
    cases hrange

/-- An eighth weekday is out of range, however many digits the weekday after it has. -/
theorem read_of_integers_eighthWeekday :
    ∃ shape, Shaped "w 3,8,-99999999999999999999" shape ∧ (∀ e ∈ shape.items, ∃ n, IsInteger e.2 n) ∧
      (∃ e ∈ shape.items, ∃ n, IsInteger e.2 n ∧ ¬ e.1.Domain n) ∧
      ∃ field item n cause, IsInteger item n ∧ ¬ field.Domain n ∧ HasWord n ∧
        read "w 3,8,-99999999999999999999" = .error cause ∧ Refused field item n cause ∧
        (Occurrence.Error.invalidRule cause).kind = .range := by
  have hitems : Text.IsSplit ',' "3,8,-99999999999999999999".toList
      ["3".toList, "8".toList, "-99999999999999999999".toList] := Text.splitOn_eq_iff.mp (by decide +kernel)
  have hshape : Shaped "w 3,8,-99999999999999999999"
      (.weekly ["3".toList, "8".toList, "-99999999999999999999".toList]) := by
    apply shaped_of_splitOn (by decide +kernel)
    rw [show (Text.trimChars "w 3,8,-99999999999999999999".toList).splitOn ' ' =
      [['w'], "3,8,-99999999999999999999".toList] by decide +kernel]
    exact .weekly hitems
  have hweekday : IsInteger "8".toList 8 := readInt?_trimChars_eq_some_iff.mp (by decide +kernel)
  have hintegers : ∀ e ∈ (Shape.weekly ["3".toList, "8".toList, "-99999999999999999999".toList]).items,
      ∃ n, IsInteger e.2 n := by
    refine List.forall_mem_cons.mpr ⟨⟨3, ?_⟩, List.forall_mem_cons.mpr ⟨⟨8, hweekday⟩,
      List.forall_mem_singleton.mpr ⟨-99999999999999999999, ?_⟩⟩⟩ <;>
      exact readInt?_trimChars_eq_some_iff.mp (by decide +kernel)
  have houtside : ∃ e ∈ (Shape.weekly ["3".toList, "8".toList, "-99999999999999999999".toList]).items,
      ∃ n, IsInteger e.2 n ∧ ¬ e.1.Domain n :=
    ⟨(.weekday, "8".toList), List.mem_cons_of_mem _ List.mem_cons_self, 8, hweekday, by simp [Field.Domain]⟩
  obtain ⟨before, field, item, after, n, cause, _, _, hn, hread, hrefused, hrange, _⟩ :=
    (read_of_integers hshape hintegers houtside).1
  have hkind : (Occurrence.Error.invalidRule cause).kind = .range := by
    have hfound : read "w 3,8,-99999999999999999999" = .error (.outOfRange .weekday 8) := by decide +kernel
    rw [hfound] at hread
    cases hread
    rfl
  exact ⟨_, hshape, hintegers, houtside, field, item, n, cause, hn.1, hn.2, hrange.mp hkind, hread, hrefused, hkind⟩

end Daybook.Rule

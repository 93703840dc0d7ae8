import Daybook.Proofs.Except
import Daybook.Proofs.Text.Literal
import Daybook.Proofs.Text.Parts
import Daybook.Rule.Written
import Mathlib.Data.List.Forall2
import Mathlib.Data.List.Sort

namespace Daybook

namespace NumberSet

/-- A set is known by its members. -/
theorem eq_of_mem_iff {s t : NumberSet} (hmem : ∀ k, k ∈ s.toList ↔ k ∈ t.toList) : s = t := by
  obtain ⟨ms, hms⟩ := s
  obtain ⟨ns, hns⟩ := t
  cases hms.eq_of_mem_iff hns hmem
  rfl

end NumberSet

namespace Rule

section Items

/-- The numbers that may stand in a field. -/
def Field.Domain : Field → Int → Prop
  | .interval, n => 1 ≤ n ∧ n ≤ 400
  | .weekday, n => 1 ≤ n ∧ n ≤ 7
  | .monthDay, n => n = -2 ∨ n = -1 ∨ 1 ≤ n ∧ n ≤ 31
  | .month, n => 1 ≤ n ∧ n ≤ 12

/-- An item denotes a number of 64 bits if it is a literal of it, with blanks around it or not. -/
def Denotes (item : List Char) (n : Int) : Prop :=
  ∃ core, Text.IsTrimmed item core ∧ Text.IsLiteral core n ∧
    -9223372036854775808 ≤ n ∧ n < 9223372036854775808

/-- An item fits a field if it denotes a number that may stand there. -/
def Fits (field : Field) (item : List Char) : Prop :=
  ∃ n, Denotes item n ∧ field.Domain n

/-- What is wrong with an item that does not fit its field. -/
inductive Fault (field : Field) (item : List Char) : Error → Prop
  | invalidNumber (hnone : ¬ ∃ n, Denotes item n) :
      Fault field item (.invalidNumber field (String.ofList item))
  | outOfRange {n : Int} (hitem : Denotes item n) (hdomain : ¬ field.Domain n) :
      Fault field item (.outOfRange field n)

variable {field : Field} {item : List Char} {n m : Int}

private theorem accepts_iff : field.accepts n = true ↔ field.Domain n := by
  have hmax : (maxInterval : Int) = 400 := rfl
  cases field <;>
    simp only [Field.accepts, Field.Domain, Bool.and_eq_true, Bool.or_eq_true, decide_eq_true_eq] <;>
    omega

private theorem readInt64?_trimChars_eq_some_iff :
    Text.readInt64? (Text.trimChars item) = some n ↔ Denotes item n := by
  rw [Text.readInt64?_eq_some_iff]
  constructor
  · rintro ⟨hliteral, hrange⟩
    exact ⟨_, Text.isTrimmed_trimChars item, hliteral, hrange⟩
  · rintro ⟨core, htrimmed, hliteral, hrange⟩
    rw [Text.trimChars_of_isTrimmed htrimmed]
    exact ⟨hliteral, hrange⟩

/-- An item denotes at most one integer. -/
theorem Denotes.unique (hn : Denotes item n) (hm : Denotes item m) : n = m := by
  rw [← readInt64?_trimChars_eq_some_iff] at hn hm
  rw [hn] at hm
  exact Option.some_inj.mp hm

private theorem readItem_of_fits (hitem : Denotes item n) (hdomain : field.Domain n) :
    readItem field item = .ok n := by
  simp only [readItem, readInt64?_trimChars_eq_some_iff.mpr hitem, if_pos (accepts_iff.mpr hdomain)]

private theorem readItem_of_fault {cause : Error} (hfault : Fault field item cause) :
    readItem field item = .error cause := by
  cases hfault with
  | invalidNumber hnone =>
    have hread : Text.readInt64? (Text.trimChars item) = none := by
      refine Option.eq_none_iff_forall_ne_some.mpr fun n hn => hnone ⟨n, ?_⟩
      exact readInt64?_trimChars_eq_some_iff.mp hn
    simp only [readItem, hread]
  | outOfRange hitem hdomain =>
    simp only [readItem, readInt64?_trimChars_eq_some_iff.mpr hitem,
      if_neg (fun haccepts => hdomain (accepts_iff.mp haccepts))]

/-- Every item fits its field or is at fault there. -/
theorem fits_or_fault (field : Field) (item : List Char) :
    Fits field item ∨ ∃ cause, Fault field item cause := by
  by_cases hnumber : ∃ n, Denotes item n
  · obtain ⟨n, hn⟩ := hnumber
    by_cases hdomain : field.Domain n
    · exact .inl ⟨n, hn, hdomain⟩
    · exact .inr ⟨_, .outOfRange hn hdomain⟩
  · exact .inr ⟨_, .invalidNumber hnumber⟩

/-- What is wrong with the first item that does not fit its field. -/
inductive FirstFault : List (Field × List Char) → Error → Prop
  | here {field : Field} {item : List Char} {rest : List (Field × List Char)} {cause : Error}
      (hfault : Fault field item cause) : FirstFault ((field, item) :: rest) cause
  | later {field : Field} {item : List Char} {rest : List (Field × List Char)} {cause : Error}
      (hfits : Fits field item) (hrest : FirstFault rest cause) : FirstFault ((field, item) :: rest) cause

/-- Either all items fit or there is a first that does not. -/
theorem fit_or_firstFault (items : List (Field × List Char)) :
    (∀ e ∈ items, Fits e.1 e.2) ∨ ∃ cause, FirstFault items cause := by
  induction items with
  | nil => exact .inl fun e he => absurd he List.not_mem_nil
  | cons e items ih =>
    obtain ⟨field, item⟩ := e
    rcases fits_or_fault field item with hfits | ⟨cause, hfault⟩
    · rcases ih with hall | ⟨cause, hrest⟩
      · exact .inl (List.forall_mem_cons.mpr ⟨hfits, hall⟩)
      · exact .inr ⟨cause, .later hfits hrest⟩
    · exact .inr ⟨cause, .here hfault⟩

private theorem firstFault_append {xs ys : List (Field × List Char)} {cause : Error}
    (hfault : FirstFault (xs ++ ys) cause) :
    FirstFault xs cause ∨ ((∀ e ∈ xs, Fits e.1 e.2) ∧ FirstFault ys cause) := by
  induction xs with
  | nil => exact .inr ⟨fun e he => absurd he List.not_mem_nil, hfault⟩
  | cons e xs ih =>
    cases hfault with
    | here hfault => exact .inl (.here hfault)
    | later hfits hrest =>
      rcases ih hrest with hxs | ⟨hall, hys⟩
      · exact .inl (.later hfits hxs)
      · exact .inr ⟨List.forall_mem_cons.mpr ⟨hfits, hall⟩, hys⟩

end Items

section Readers

/-- A reader of items succeeds with what is asked for if all of them fit, and fails with what is wrong
with the first that does not. -/
structure Reads {α : Type} (reader : Except Error α) (items : List (Field × List Char))
    (result : α → Prop) : Prop where
  ok : (∀ e ∈ items, Fits e.1 e.2) → ∃ a, reader = .ok a ∧ result a
  error : ∀ cause, FirstFault items cause → reader = .error cause

variable {α β : Type} {items : List (Field × List Char)}

/-- A result that is there already reads no items. -/
theorem Reads.pure {result : α → Prop} {a : α} (ha : result a) : Reads (.ok a) [] result where
  ok _ := ⟨a, rfl, ha⟩
  error _ hfault := nomatch hfault

/-- Readers one after the other read their items one after the other. -/
theorem Reads.bind {first : Except Error α} {next : α → Except Error β} {xs ys : List (Field × List Char)}
    {P : α → Prop} {Q : β → Prop} (hfirst : Reads first xs P)
    (hnext : ∀ a, P a → Reads (next a) ys Q) : Reads (first >>= next) (xs ++ ys) Q where
  ok hfits := by
    obtain ⟨hxs, hys⟩ := List.forall_mem_append.mp hfits
    obtain ⟨a, hread, ha⟩ := hfirst.ok hxs
    obtain ⟨b, hreadNext, hb⟩ := (hnext a ha).ok hys
    exact ⟨b, bind_eq_ok_iff.mpr ⟨a, hread, hreadNext⟩, hb⟩
  error cause hfault := by
    rcases firstFault_append hfault with hxs | ⟨hxs, hys⟩
    · rw [hfirst.error cause hxs]
      rfl
    · obtain ⟨a, hread, ha⟩ := hfirst.ok hxs
      rw [hread]
      exact (hnext a ha).error cause hys

/-- A reader whose result is only passed on reads the same items. -/
theorem Reads.return {first : Except Error α} {make : α → β} {P : α → Prop} {Q : β → Prop}
    (hfirst : Reads first items P) (hmake : ∀ a, P a → Q (make a)) :
    Reads (first >>= fun a => .ok (make a)) items Q := by
  have hbind : Reads (first >>= fun a => .ok (make a)) (items ++ []) Q :=
    hfirst.bind fun a ha => Reads.pure (hmake a ha)
  rwa [List.append_nil] at hbind

/-- The values of items of a field. -/
def Values (field : Field) : List (List Char) → List Int → Prop :=
  List.Forall₂ fun item n => Denotes item n ∧ field.Domain n

private theorem reads_item (field : Field) (item : List Char) :
    Reads (readItem field item) [(field, item)] fun n => Denotes item n ∧ field.Domain n where
  ok hfits := by
    obtain ⟨n, hn, hdomain⟩ := List.forall_mem_singleton.mp hfits
    exact ⟨n, readItem_of_fits hn hdomain, hn, hdomain⟩
  error cause hfault := by
    cases hfault with
    | here hfault => exact readItem_of_fault hfault
    | later _ hrest => cases hrest

/-- The items of a list are read from left to right, each by itself. -/
theorem reads_list {field : Field} {list : List Char} {parts : List (List Char)}
    (hparts : Text.IsSplit ',' list parts) :
    Reads (readList field list) (parts.map (field, ·)) (Values field parts) := by
  rw [readList, Text.splitOn_eq_iff.mpr hparts]
  clear hparts
  induction parts with
  | nil => exact .pure .nil
  | cons item parts ih =>
    rw [List.mapM_cons]
    exact (reads_item field item).bind fun n hn => ih.return fun values hvalues => .cons hn hvalues

variable {field : Field} {parts : List (List Char)} {values : List Int}

/-- The values of a list are what its items denote. -/
theorem Values.mem_iff (hvalues : Values field parts values) {n : Int} :
    n ∈ values ↔ ∃ item ∈ parts, Denotes item n := by
  induction hvalues with
  | nil => simp
  | cons hitem _ ih =>
    rw [List.mem_cons, ih, List.exists_mem_cons_iff]
    refine or_congr ⟨?_, fun hn => hn.unique hitem.1⟩ Iff.rfl
    rintro rfl
    exact hitem.1

/-- All values of a list are within the domain of its field. -/
theorem Values.domain (hvalues : Values field parts values) {n : Int} (hn : n ∈ values) :
    field.Domain n := by
  induction hvalues with
  | nil => cases hn
  | cons hitem _ ih =>
    rcases List.mem_cons.mp hn with rfl | hn
    · exact hitem.2
    · exact ih hn

/-- A list with an item has a value. -/
theorem Values.ne_nil (hvalues : Values field parts values) (hparts : parts ≠ []) : values ≠ [] := by
  cases hvalues with
  | nil => exact absurd rfl hparts
  | cons => exact List.cons_ne_nil _ _

end Readers

section Sets

/-- No field allows a number below -2 or above 400. -/
theorem bounds_of_domain {field : Field} {n : Int} (hdomain : field.Domain n) : -2 ≤ n ∧ n ≤ 400 := by
  cases field <;> simp only [Field.Domain] at hdomain <;> omega

/-- A number that has 32 bits is kept as it is. -/
theorem word_eq_natAbs {n : Int} (hpos : 0 ≤ n) (hlt : n < 4294967296) : word n = n.natAbs := by
  rw [word, BitVec.toNat_ofInt]
  omega

private theorem mem_numbers {values : List Int} (hvalues : ∀ n ∈ values, 0 ≤ n ∧ n ≤ 400) {k : Nat} :
    k ∈ (numbers values).toList ↔ (k : Int) ∈ values := by
  rw [numbers, NumberSet.mem_toList_ofList, List.mem_map]
  constructor
  · rintro ⟨n, hn, rfl⟩
    obtain ⟨hpos, hle⟩ := hvalues n hn
    rwa [word_eq_natAbs hpos (by omega), Int.natAbs_of_nonneg hpos]
  · intro hk
    obtain ⟨hpos, hle⟩ := hvalues _ hk
    exact ⟨k, hk, word_eq_natAbs hpos (by omega)⟩

variable {values : List Int} (hdomain : ∀ n ∈ values, Field.monthDay.Domain n)

include hdomain

/-- The days from the start of the month are the values that are not negative. -/
theorem mem_days_monthDays {k : Nat} :
    k ∈ (monthDays values).days.toList ↔ (k : Int) ∈ values := by
  have hrange (n : Int) (hn : n ∈ values.filter (0 ≤ ·)) : 0 ≤ n ∧ n ≤ 400 := by
    obtain ⟨hn, hpos⟩ := List.mem_filter.mp hn
    exact ⟨of_decide_eq_true hpos, (bounds_of_domain (hdomain n hn)).2⟩
  simp only [monthDays, mem_numbers hrange, List.mem_filter, decide_eq_true_eq, Int.natCast_nonneg,
    and_true]

/-- The days from the end of the month are the negative values. -/
theorem mem_fromEnd_monthDays {k : Nat} :
    k ∈ (monthDays values).fromEnd.toList ↔ -(k : Int) ∈ values := by
  have hrange (n : Int) (hn : n ∈ (values.filter (· < 0)).map fun n => Int.ofNat n.natAbs) :
      0 ≤ n ∧ n ≤ 400 := by
    obtain ⟨m, hm, rfl⟩ := List.mem_map.mp hn
    have hbounds := bounds_of_domain (hdomain m (List.mem_of_mem_filter hm))
    have hneg := of_decide_eq_true (List.mem_filter.mp hm).2
    rw [Int.ofNat_eq_natCast]
    omega
  rw [monthDays, mem_numbers hrange]
  simp only [List.mem_map, List.mem_filter, decide_eq_true_eq, Int.ofNat_eq_natCast, Int.natCast_inj]
  constructor
  · rintro ⟨n, ⟨hn, hneg⟩, rfl⟩
    have hn' : -(n.natAbs : Int) = n := by omega
    exact hn'.symm ▸ hn
  · intro hk
    have hneg : -(k : Int) < 0 := by
      have hday := hdomain _ hk
      simp only [Field.Domain] at hday
      omega
    exact ⟨-(k : Int), ⟨hk, hneg⟩, by omega⟩

end Sets

section Shapes

/-- The parts of a text that has the shape of a rule. -/
inductive Shape where
  | annual
  | interval (item : List Char)
  | weekly (items : List (List Char))
  | monthly (items : List (List Char)) (months : Option (List (List Char)))

/-- The tokens of a shape. -/
inductive HasShape : List (List Char) → Shape → Prop
  | annual : HasShape [['y']] .annual
  | interval (item : List Char) : HasShape [['d'], item] (.interval item)
  | weekly {list : List Char} {items : List (List Char)} (hitems : Text.IsSplit ',' list items) :
      HasShape [['w'], list] (.weekly items)
  | monthly {list : List Char} {items : List (List Char)} (hitems : Text.IsSplit ',' list items) :
      HasShape [['m'], list] (.monthly items none)
  | monthlyIn {list monthList : List Char} {items months : List (List Char)}
      (hitems : Text.IsSplit ',' list items) (hmonths : Text.IsSplit ',' monthList months) :
      HasShape [['m'], list, monthList] (.monthly items (some months))

namespace Shape

/-- The items of a shape with their fields, in the order of the text. -/
def items : Shape → List (Field × List Char)
  | .annual => []
  | .interval item => [(.interval, item)]
  | .weekly items => items.map (.weekday, ·)
  | .monthly items months => items.map (.monthDay, ·) ++ (months.getD []).map (.month, ·)

/-- Whether a rule says what the items of a shape list, no more and no less. -/
def Describes : Shape → Rule → Prop
  | .annual, .annual => True
  | .interval item, .interval days => Denotes item days
  | .weekly items, .weekly weekdays =>
    weekdays.toList ≠ [] ∧ ∀ k : Nat, k ∈ weekdays.toList ↔ ∃ item ∈ items, Denotes item k
  | .monthly items months, .monthly days inMonths =>
    (days.days.toList ≠ [] ∨ days.fromEnd.toList ≠ []) ∧
      (∀ k : Nat, k ∈ days.days.toList ↔ ∃ item ∈ items, Denotes item k) ∧
      (∀ k : Nat, k ∈ days.fromEnd.toList ↔ ∃ item ∈ items, Denotes item (-k)) ∧
      ∀ k : Nat, k ∈ inMonths.toList ↔ ∃ item ∈ months.getD [], Denotes item k
  | _, _ => False

/-- A shape says one rule at most. -/
theorem Describes.unique {shape : Shape} {rule other : Rule} (hrule : shape.Describes rule)
    (hother : shape.Describes other) : rule = other := by
  cases shape <;> cases rule <;> cases other <;> try first | exact hrule.elim | exact hother.elim
  · rfl
  · rw [Int.natCast_inj.mp (Denotes.unique hrule hother)]
  · rw [NumberSet.eq_of_mem_iff fun k => (hrule.2 k).trans (hother.2 k).symm]
  · rename_i days months otherDays otherMonths
    obtain ⟨_, hdays, hfromEnd, hmonths⟩ := hrule
    obtain ⟨_, hotherDays, hotherFromEnd, hotherMonths⟩ := hother
    obtain ⟨fromStart, fromEnd⟩ := days
    obtain ⟨otherFromStart, otherFromEnd⟩ := otherDays
    cases NumberSet.eq_of_mem_iff fun k => (hdays k).trans (hotherDays k).symm
    cases NumberSet.eq_of_mem_iff fun k => (hfromEnd k).trans (hotherFromEnd k).symm
    cases NumberSet.eq_of_mem_iff fun k => (hmonths k).trans (hotherMonths k).symm
    rfl

private theorem describes_weekly {items : List (List Char)} {values : List Int}
    (hvalues : Values .weekday items values) (hitems : items ≠ []) :
    (Shape.weekly items).Describes (.weekly (numbers values)) := by
  have hrange (n : Int) (hn : n ∈ values) : 0 ≤ n ∧ n ≤ 400 := by
    obtain ⟨hpos, hle⟩ := hvalues.domain hn
    omega
  have hmem (k : Nat) : k ∈ (numbers values).toList ↔ (k : Int) ∈ values := mem_numbers hrange
  refine ⟨?_, fun k => (hmem k).trans hvalues.mem_iff⟩
  obtain ⟨n, hn⟩ := List.exists_mem_of_ne_nil values (hvalues.ne_nil hitems)
  obtain ⟨hpos, _⟩ := hvalues.domain hn
  have hn' : (n.natAbs : Int) = n := by omega
  exact List.ne_nil_of_mem ((hmem _).mpr (hn'.symm ▸ hn))

private theorem describes_monthly {items : List (List Char)} {months : Option (List (List Char))} {values : List Int}
    {inMonths : NumberSet} (hvalues : Values .monthDay items values) (hitems : items ≠ [])
    (hmonths : ∀ k : Nat, k ∈ inMonths.toList ↔ ∃ item ∈ months.getD [], Denotes item k) :
    (Shape.monthly items months).Describes (.monthly (monthDays values) inMonths) := by
  have hdomain (n : Int) (hn : n ∈ values) : Field.monthDay.Domain n := hvalues.domain hn
  have hdays (k : Nat) : k ∈ (monthDays values).days.toList ↔ (k : Int) ∈ values :=
    mem_days_monthDays hdomain
  have hfromEnd (k : Nat) : k ∈ (monthDays values).fromEnd.toList ↔ -(k : Int) ∈ values :=
    mem_fromEnd_monthDays hdomain
  refine ⟨?_, fun k => (hdays k).trans hvalues.mem_iff, fun k => (hfromEnd k).trans hvalues.mem_iff,
    hmonths⟩
  obtain ⟨n, hn⟩ := List.exists_mem_of_ne_nil values (hvalues.ne_nil hitems)
  by_cases hneg : n < 0
  · have hn' : -(n.natAbs : Int) = n := by omega
    exact .inr (List.ne_nil_of_mem ((hfromEnd _).mpr (hn'.symm ▸ hn)))
  · have hn' : (n.natAbs : Int) = n := by omega
    exact .inl (List.ne_nil_of_mem ((hdays _).mpr (hn'.symm ▸ hn)))

private theorem mem_months {months : List (List Char)} {values : List Int} (hvalues : Values .month months values)
    (k : Nat) : k ∈ (numbers values).toList ↔ ∃ item ∈ months, Denotes item k := by
  refine (mem_numbers fun n hn => ?_).trans hvalues.mem_iff
  obtain ⟨hpos, hle⟩ := hvalues.domain hn
  omega

end Shape

end Shapes

/-- What the grammar makes of a text. The text is trimmed and cut into tokens; if these have the shape
of a rule, the first item that does not fit its field decides, or else all items make up the rule. -/
inductive Verdict (text : String) : Except Error Rule → Prop
  | empty (htrimmed : Text.IsTrimmed text.toList []) : Verdict text (.error .empty)
  | unsupported {core : List Char} {tokens : List (List Char)}
      (htrimmed : Text.IsTrimmed text.toList core) (hcore : core ≠ [])
      (htokens : Text.IsSplit ' ' core tokens) (hshape : ∀ shape, ¬ HasShape tokens shape) :
      Verdict text (.error (.unsupported (String.ofList core)))
  | faulty {core : List Char} {tokens : List (List Char)} {shape : Shape} {cause : Error}
      (htrimmed : Text.IsTrimmed text.toList core) (hcore : core ≠ [])
      (htokens : Text.IsSplit ' ' core tokens) (hshape : HasShape tokens shape)
      (hfault : FirstFault shape.items cause) : Verdict text (.error cause)
  | rule {core : List Char} {tokens : List (List Char)} {shape : Shape} {rule : Rule}
      (htrimmed : Text.IsTrimmed text.toList core) (hcore : core ≠ [])
      (htokens : Text.IsSplit ' ' core tokens) (hshape : HasShape tokens shape)
      (hfits : ∀ e ∈ shape.items, Fits e.1 e.2) (hdescribed : shape.Describes rule) : Verdict text (.ok rule)

section Reading

variable {text : String} {core : List Char} {tokens : List (List Char)}

private theorem read_of_blank (htrimmed : Text.IsTrimmed text.toList []) : read text = .error .empty := by
  simp only [read, Text.trimChars_of_isTrimmed htrimmed, List.isEmpty_nil, if_true]

variable (htrimmed : Text.IsTrimmed text.toList core) (hcore : core ≠ [])
  (htokens : Text.IsSplit ' ' core tokens)

include htrimmed hcore htokens

/-- A text whose tokens have a shape is read item by item, into what the shape describes. -/
theorem reads_of_hasShape {shape : Shape} (hshape : HasShape tokens shape) :
    Reads (read text) shape.items shape.Describes := by
  have hnonempty : core.isEmpty = false := List.isEmpty_eq_false_iff.mpr hcore
  simp only [read, Text.trimChars_of_isTrimmed htrimmed, hnonempty, Bool.false_eq_true, if_false,
    Text.splitOn_eq_iff.mpr htokens]
  cases hshape with
  | annual => exact .pure trivial
  | interval item =>
    refine (reads_item .interval item).return fun n hn => ?_
    obtain ⟨hitem, hpos, hle⟩ := hn
    rw [Shape.Describes, word_eq_natAbs (by omega) (by omega), Int.natAbs_of_nonneg (by omega)]
    exact hitem
  | weekly hitems => exact (reads_list hitems).return fun _ hvalues => Shape.describes_weekly hvalues hitems.ne_nil
  | monthly hitems =>
    rw [Shape.items, Option.getD_none, List.map_nil, List.append_nil]
    refine (reads_list hitems).return fun _ hvalues => Shape.describes_monthly hvalues hitems.ne_nil fun k => ?_
    exact iff_of_false List.not_mem_nil (by simp)
  | monthlyIn hitems hmonths =>
    refine (reads_list hitems).bind fun _ hvalues => ?_
    exact (reads_list hmonths).return fun _ hinMonths =>
      Shape.describes_monthly hvalues hitems.ne_nil (Shape.mem_months hinMonths)

private theorem read_of_not_hasShape (hshape : ∀ shape, ¬ HasShape tokens shape) :
    read text = .error (.unsupported (String.ofList core)) := by
  have hnonempty : core.isEmpty = false := List.isEmpty_eq_false_iff.mpr hcore
  have hlist (list : List Char) : Text.IsSplit ',' list (list.splitOn ',') := Text.splitOn_eq_iff.mp rfl
  simp only [read, Text.trimChars_of_isTrimmed htrimmed, hnonempty, Bool.false_eq_true, if_false,
    Text.splitOn_eq_iff.mpr htokens]
  split
  · exact absurd .annual (hshape _)
  · exact absurd (.interval _) (hshape _)
  · exact absurd (.weekly (hlist _)) (hshape _)
  · exact absurd (.monthly (hlist _)) (hshape _)
  · exact absurd (.monthlyIn (hlist _) (hlist _)) (hshape _)
  · rfl

end Reading

/-- A text is read as the grammar says. -/
theorem read_of_verdict {text : String} {result : Except Error Rule} (hverdict : Verdict text result) :
    read text = result := by
  cases hverdict with
  | empty htrimmed => exact read_of_blank htrimmed
  | unsupported htrimmed hcore htokens hshape => exact read_of_not_hasShape htrimmed hcore htokens hshape
  | faulty htrimmed hcore htokens hshape hfault =>
    exact (reads_of_hasShape htrimmed hcore htokens hshape).error _ hfault
  | rule htrimmed hcore htokens hshape hfits hdescribed =>
    obtain ⟨found, hread, hfound⟩ := (reads_of_hasShape htrimmed hcore htokens hshape).ok hfits
    rw [hread, hfound.unique hdescribed]

/-- The grammar has a verdict on every text. -/
theorem exists_verdict (text : String) : ∃ result, Verdict text result := by
  have htrimmed := Text.isTrimmed_trimChars text.toList
  generalize Text.trimChars text.toList = core at htrimmed
  by_cases hcore : core = []
  · subst hcore
    exact ⟨_, .empty htrimmed⟩
  · have htokens : Text.IsSplit ' ' core (core.splitOn ' ') := Text.splitOn_eq_iff.mp rfl
    by_cases hshape : ∃ shape, HasShape (core.splitOn ' ') shape
    · obtain ⟨shape, hshape⟩ := hshape
      rcases fit_or_firstFault shape.items with hfits | ⟨cause, hfault⟩
      · obtain ⟨rule, _, hdescribed⟩ := (reads_of_hasShape htrimmed hcore htokens hshape).ok hfits
        exact ⟨_, .rule htrimmed hcore htokens hshape hfits hdescribed⟩
      · exact ⟨_, .faulty htrimmed hcore htokens hshape hfault⟩
    · exact ⟨_, .unsupported htrimmed hcore htokens (not_exists.mp hshape)⟩

/-- Reading gives the verdict on every text. -/
theorem verdict_read (text : String) : Verdict text (read text) := by
  obtain ⟨result, hverdict⟩ := exists_verdict text
  rwa [read_of_verdict hverdict]

/-- A text is read as a rule, or refused for a cause, exactly where the grammar says so. -/
theorem read_eq_iff_verdict (text : String) (result : Except Error Rule) :
    read text = result ↔ Verdict text result := by
  constructor
  · rintro rfl
    exact verdict_read text
  · exact read_of_verdict

-- The first wrong item counts, an item is given as it stands, and only single spaces part tokens.
example : read "m 1, 0,x 13" = .error (.unsupported "m 1, 0,x 13") := by decide +kernel

example : read " m 1,\t0,x 13" = .error (.outOfRange .monthDay 0) := by decide +kernel

example : read "w 7,,8" = .error (.invalidNumber .weekday "") := by decide +kernel

end Rule

end Daybook

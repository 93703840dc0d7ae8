import Daybook.Proofs.Calendar.Compact
import Daybook.Proofs.Store.Sound
import Mathlib.Data.List.Sort

namespace Daybook

/-- Whether a row stands before another by the bytes of their dates, or by the identifiers where these are the
same. -/
def Row.Precedes (row other : Row) : Prop :=
  Text.bytes row.date < Text.bytes other.date ∨ row.date = other.date ∧ row.id.value < other.id.value

/-- Whether a row is due on an earlier day than another, or on the same day under a smaller identifier. -/
def Row.IsDueBefore (row other : Row) : Prop :=
  ∃ day later, Date.read row.date = .ok day ∧ Date.read other.date = .ok later ∧
    (day < later ∨ day = later ∧ row.id.value < other.id.value)

/-- A text of blanks alone asks for every task. -/
theorem Search.ofText_of_allBlank {text : String} (hblank : Text.allBlank text = true) : ofText text = .all := by
  rw [ofText, Text.trimChars_of_isTrimmed (Text.isTrimmed_nil hblank)]
  rfl

namespace Store

private theorem comesBefore_iff {row other : Row} :
    comesBefore row other = true ↔
      row.date < other.date ∨ row.date = other.date ∧ row.id.value ≤ other.id.value := by
  simp only [comesBefore, Bool.or_eq_true, Bool.and_eq_true, decide_eq_true_eq, beq_iff_eq]

instance : Std.Total fun row other : Row => comesBefore row other = true where
  total row other := by
    simp only [comesBefore_iff]
    rcases lt_trichotomy row.date other.date with hlt | heq | hgt
    · exact .inl (.inl hlt)
    · rcases Int.le_total row.id.value other.id.value with hid | hid
      · exact .inl (.inr ⟨heq, hid⟩)
      · exact .inr (.inr ⟨heq.symm, hid⟩)
    · exact .inr (.inl hgt)

instance : IsTrans Row fun row other => comesBefore row other = true where
  trans row other last hfirst hsecond := by
    rw [comesBefore_iff] at *
    rcases hfirst with hlt | ⟨heq, hid⟩
    · rcases hsecond with hlt' | ⟨heq', _⟩
      · exact .inl (lt_trans hlt hlt')
      · exact .inl (heq' ▸ hlt)
    · rcases hsecond with hlt' | ⟨heq', hid'⟩
      · exact .inl (heq ▸ hlt')
      · exact .inr ⟨heq.trans heq', Int.le_trans hid hid'⟩

private theorem insertInOrder_eq (row : Row) (rows : List Row) :
    insertInOrder row rows = rows.orderedInsert (fun row other => comesBefore row other = true) row := by
  induction rows with
  | nil => rfl
  | cons other rows ih => rw [insertInOrder, List.orderedInsert_cons, ih]

private theorem inOrder_eq (rows : List Row) :
    inOrder rows = rows.insertionSort fun row other => comesBefore row other = true := by
  induction rows with
  | nil => rfl
  | cons row rows ih => rw [List.insertionSort_cons, ← ih, ← insertInOrder_eq, inOrder, inOrder, List.foldr_cons]

/-- Putting rows in order keeps each of them as often as it is there. -/
theorem perm_inOrder (rows : List Row) : (inOrder rows).Perm rows := by
  rw [inOrder_eq]
  exact List.perm_insertionSort _ rows

private theorem pairwise_inOrder (rows : List Row) :
    (inOrder rows).Pairwise fun row other => comesBefore row other = true := by
  rw [inOrder_eq]
  exact List.pairwise_insertionSort _ rows

private theorem precedes_of_comesBefore {row other : Row} (hbefore : comesBefore row other = true)
    (hid : row.id ≠ other.id) : row.Precedes other := by
  obtain hdate | ⟨hdate, hle⟩ := comesBefore_iff.mp hbefore
  · exact .inl (Text.bytes_lt_iff.mpr hdate)
  · exact .inr ⟨hdate, lt_of_le_of_ne hle fun hvalue => hid (congrArg TaskId.mk hvalue)⟩

/-- Identifiers tell the rows apart, so that no two of them are in the same place. -/
theorem pairwise_precedes {rows : List Row} (hunique : (rows.map Row.id).Nodup) :
    (inOrder rows).Pairwise Row.Precedes := by
  have hids : ((inOrder rows).map Row.id).Nodup := ((perm_inOrder rows).map Row.id).nodup_iff.mpr hunique
  apply ((pairwise_inOrder rows).and (List.pairwise_map.mp hids)).imp
  intro row other hboth
  exact precedes_of_comesBefore hboth.1 hboth.2

/-- Where both dates can be read, the order of their bytes is that in which the rows are due. -/
theorem isDueBefore_of_precedes {row other : Row} {day later : Date} (hrow : Date.read row.date = .ok day)
    (hother : Date.read other.date = .ok later) (hprecedes : row.Precedes other) : row.IsDueBefore other := by
  obtain ⟨hdayFits, hday⟩ := Date.read_eq_ok_iff.mp hrow
  obtain ⟨hlaterFits, hlater⟩ := Date.read_eq_ok_iff.mp hother
  refine ⟨day, later, hrow, hother, ?_⟩
  obtain hlt | ⟨heq, hid⟩ := hprecedes
  · rw [hday, hlater, Date.bytes_compact_lt_iff hdayFits hlaterFits] at hlt
    exact .inl hlt
  · rw [heq, hother] at hrow
    cases hrow
    exact .inr ⟨rfl, hid⟩

/-- The rows that a listing shows, and those that it leaves out: the ones that its text selects, in some order,
cut off at the limit, of which no more than 63 bits count. -/
structure Lists (store : Store) (before : Row → Row → Prop) (limit : Nat) (text : String)
    (shown left : List Row) : Prop where
  selected : (shown ++ left).Perm (store.rows.filter (selects (Search.ofText text)))
  length : shown.length = min (min limit (2 ^ 63 - 1)) (shown ++ left).length
  ordered : shown.Pairwise before
  earliest : ∀ row ∈ shown, ∀ other ∈ left, before row other

variable {store : Store} {limit : Nat} {text : String} {tasks : List Task}

/-- A listing succeeds exactly if its pattern is not too long, and then shows the first of the selected rows in
order. -/
theorem list_eq_ok_iff :
    store.list limit text = .ok tasks ↔
      ¬ store.exceedsPattern limit (Search.ofText text) = true ∧
        tasks = ((inOrder (store.rows.filter (selects (Search.ofText text)))).take
          (min limit maxLimit)).map Row.toTask := by
  unfold list
  dsimp only
  split <;> rename_i hexceeds <;> simp [hexceeds, eq_comm]

/-- A listing is a prefix of the selected rows in order, whose rest is what it leaves out. Identifiers alone tell
the rows apart, so nothing is required of their dates. -/
theorem Numbered.lists (hstore : store.Numbered) (hlist : store.list limit text = .ok tasks) :
    ∃ shown left, tasks = shown.map Row.toTask ∧ store.Lists Row.Precedes limit text shown left := by
  obtain ⟨_, rfl⟩ := list_eq_ok_iff.mp hlist
  have hrows : (store.rows.filter (selects (Search.ofText text))).Sublist store.rows := List.filter_sublist
  have hordered := pairwise_precedes (hstore.unique.sublist (hrows.map Row.id))
  have hsplit := List.take_append_drop (min limit maxLimit)
    (inOrder (store.rows.filter (selects (Search.ofText text))))
  rw [← hsplit] at hordered
  obtain ⟨hshown, _, hacross⟩ := List.pairwise_append.mp hordered
  refine ⟨_, _, rfl, ?_, ?_, hshown, hacross⟩
  · rw [hsplit]
    exact perm_inOrder _
  · rw [hsplit, List.length_take]
    rfl

namespace Lists

variable {before later : Row → Row → Prop} {shown left : List Row}

/-- All rows that a listing shows or leaves out are stored. -/
theorem mem (hlists : store.Lists before limit text shown left) {row : Row} (hrow : row ∈ shown ++ left) :
    row ∈ store.rows :=
  List.mem_of_mem_filter (hlists.selected.mem_iff.mp hrow)

/-- The order of a listing may be exchanged for one that follows from it for stored rows. -/
theorem imp_of_mem (hlists : store.Lists before limit text shown left)
    (himp : ∀ row ∈ store.rows, ∀ other ∈ store.rows, before row other → later row other) :
    store.Lists later limit text shown left where
  selected := hlists.selected
  length := hlists.length
  ordered := hlists.ordered.imp_of_mem fun hrow hother => himp _ (hlists.mem (List.mem_append_left left hrow)) _
    (hlists.mem (List.mem_append_left left hother))
  earliest row hrow other hother := himp row (hlists.mem (List.mem_append_left left hrow)) other
    (hlists.mem (List.mem_append_right shown hother)) (hlists.earliest row hrow other hother)

/-- A search text of blanks alone selects every row. -/
theorem perm_of_allBlank (hlists : store.Lists before limit text shown left)
    (hblank : Text.allBlank text = true) : (shown ++ left).Perm store.rows := by
  have hselected := hlists.selected
  rw [Search.ofText_of_allBlank hblank] at hselected
  exact hselected.trans (List.Perm.of_eq (List.filter_eq_self.mpr fun _ _ => rfl))

end Lists

/-- In a sound store every date can be read, so that the rows of a listing are in the order in which they are
due. -/
theorem Sound.lists (hstore : store.Sound) (hlist : store.list limit text = .ok tasks) :
    ∃ shown left, tasks = shown.map Row.toTask ∧ store.Lists Row.IsDueBefore limit text shown left := by
  obtain ⟨shown, left, htasks, hlists⟩ := hstore.toNumbered.lists hlist
  refine ⟨shown, left, htasks, hlists.imp_of_mem fun row hrow other hother hprecedes => ?_⟩
  obtain ⟨day, hday⟩ := (hstore.content row hrow).date
  obtain ⟨later, hlater⟩ := (hstore.content other hother).date
  exact isDueBefore_of_precedes hday hlater hprecedes

end Store

end Daybook

import Daybook.Proofs.Except
import Daybook.Store.Basic
import Mathlib.Data.List.Nodup

namespace Daybook.Store

/-- A store whose rows stand in the order of their identifiers, which it has handed out. -/
structure Numbered (store : Store) : Prop where
  ascending : store.rows.Pairwise fun row other => row.id.value < other.id.value
  positive : ∀ row ∈ store.rows, 0 < row.id.value
  issued : ∀ row ∈ store.rows, row.id.value ≤ store.lastId

variable {store changed : Store}

/-- Identifiers that ascend are different from each other. -/
theorem Numbered.unique (hstore : store.Numbered) : (store.rows.map Row.id).Nodup := by
  refine List.pairwise_map.mpr (hstore.ascending.imp fun hlt heq => ?_)
  rw [heq] at hlt
  omega

/-- A row is the only one with its identifier. -/
theorem Numbered.eq_of_id_eq (hstore : store.Numbered) {row other : Row} (hrow : row ∈ store.rows)
    (hother : other ∈ store.rows) (hid : row.id = other.id) : row = other :=
  List.inj_on_of_nodup_map hstore.unique hrow hother hid

/-- Rows whose identifiers one text gives are the same. -/
theorem Numbered.eq_of_read (hstore : store.Numbered) {row other : Row} (hrow : row ∈ store.rows)
    (hother : other ∈ store.rows) {text : String} (hid : TaskId.read text = .ok row.id)
    (hotherId : TaskId.read text = .ok other.id) : row = other :=
  hstore.eq_of_id_eq hrow hother (Except.ok.inj (hid.symm.trans hotherId))

/-- The empty store is numbered. -/
theorem numbered_empty : empty.Numbered where
  ascending := .nil
  positive _ hrow := absurd hrow List.not_mem_nil
  issued _ hrow := absurd hrow List.not_mem_nil

/-- A new task has the last row, whatever was deleted before. -/
theorem rows_add (store : Store) (content : Content) :
    (store.add content).1.rows = store.rows ++ [{ toContent := content, id := ⟨store.lastId + 1⟩ }] :=
  rfl

theorem mem_rows_add {content : Content} {row : Row} :
    row ∈ (store.add content).1.rows ↔
      row ∈ store.rows ∨ row = { toContent := content, id := ⟨store.lastId + 1⟩ } := by
  rw [rows_add, List.mem_append, List.mem_singleton]

/-- A store that takes a task in gives it an identifier above all that it has handed out. -/
theorem Numbered.add (hstore : store.Numbered) (content : Content) : (store.add content).1.Numbered where
  ascending := by
    rw [rows_add]
    refine List.pairwise_append.mpr ⟨hstore.ascending, List.pairwise_singleton _ _, ?_⟩
    intro row hrow other hother
    rw [List.mem_singleton.mp hother]
    have hissued := hstore.issued row hrow
    dsimp only
    omega
  positive row hrow := by
    rcases mem_rows_add.mp hrow with hold | rfl
    · exact hstore.positive row hold
    · dsimp only
      omega
  issued row hrow := by
    rcases mem_rows_add.mp hrow with hold | rfl
    · have hissued := hstore.issued row hold
      change row.id.value ≤ ((store.lastId + 1 : Nat) : Int)
      omega
    · exact Int.le_refl _

/-- What a change of the task with an identifier makes of a row. -/
def changeRow (id : TaskId) (change : Content → Content) (row : Row) : Row :=
  if row.id = id then { row with toContent := change row.toContent } else row

theorem changeRow_id (id : TaskId) (change : Content → Content) (row : Row) :
    (changeRow id change row).id = row.id := by
  unfold changeRow
  split <;> rfl

theorem changeRow_of_id_ne {id : TaskId} {change : Content → Content} {row : Row} (hid : row.id ≠ id) :
    changeRow id change row = row :=
  if_neg hid

theorem changeRow_of_id_eq {id : TaskId} {change : Content → Content} {row : Row} (hid : row.id = id) :
    changeRow id change row = { row with toContent := change row.toContent } :=
  if_pos hid

theorem find?_id_spec {rows : List Row} {row : Row} {id : TaskId}
    (hfound : rows.find? (fun row => row.id == id) = some row) : row ∈ rows ∧ row.id = id :=
  ⟨List.mem_of_find?_eq_some hfound, by simpa using List.find?_some hfound⟩

/-- A store has an identifier exactly if one of its rows does. -/
theorem has_iff {id : TaskId} : store.has id = true ↔ ∃ row ∈ store.rows, row.id = id := by
  simp only [has, List.any_eq_true, beq_iff_eq]

/-- A change succeeds exactly if the identifier is there, and then rewrites what is written under it. -/
theorem modify_eq_ok_iff {id : TaskId} {change : Content → Content} :
    store.modify id change = .ok changed ↔
      store.has id = true ∧ changed = { store with rows := store.rows.map (changeRow id change) } :=
  ite_eq_ok_iff

/-- A change fails only because the identifier is not there. -/
theorem modify_eq_error_iff {id : TaskId} {change : Content → Content} {error : Error} :
    store.modify id change = .error error ↔ ¬ store.has id = true ∧ error = .notFound id :=
  ite_eq_error_iff

/-- A deletion succeeds exactly if the identifier is there, and then takes out what is written under it. -/
theorem delete_eq_ok_iff {id : TaskId} :
    store.delete id = .ok changed ↔
      store.has id = true ∧ changed = { store with rows := store.rows.filter fun row => row.id != id } :=
  ite_eq_ok_iff

/-- A deletion fails only because the identifier is not there. -/
theorem delete_eq_error_iff {id : TaskId} {error : Error} :
    store.delete id = .error error ↔ ¬ store.has id = true ∧ error = .notFound id :=
  ite_eq_error_iff

/-- A task is written back under its own identifier, and cannot be without one. -/
theorem update_eq_ok_iff {task : Task} :
    store.update task = .ok changed ↔
      ∃ id, task.id = some id ∧ store.modify id (fun _ => task.toContent) = .ok changed := by
  cases hid : task.id <;> simp [update, hid]

/-- A store stays numbered when a task is changed, because the change leaves the identifier. -/
theorem Numbered.modify (hstore : store.Numbered) {id : TaskId} {change : Content → Content}
    (hmodify : store.modify id change = .ok changed) : changed.Numbered := by
  obtain ⟨_, rfl⟩ := modify_eq_ok_iff.mp hmodify
  refine ⟨?_, fun row hrow => ?_, fun row hrow => ?_⟩
  · refine List.pairwise_map.mpr (hstore.ascending.imp fun hlt => ?_)
    rwa [changeRow_id, changeRow_id]
  · obtain ⟨old, hold, rfl⟩ := List.mem_map.mp hrow
    rw [changeRow_id]
    exact hstore.positive old hold
  · obtain ⟨old, hold, rfl⟩ := List.mem_map.mp hrow
    rw [changeRow_id]
    exact hstore.issued old hold

/-- A store stays numbered when a task is deleted, because the counter stays. -/
theorem Numbered.delete (hstore : store.Numbered) {id : TaskId} (hdelete : store.delete id = .ok changed) :
    changed.Numbered := by
  obtain ⟨_, rfl⟩ := delete_eq_ok_iff.mp hdelete
  exact {
    ascending := hstore.ascending.sublist List.filter_sublist
    positive := fun row hrow => hstore.positive row (List.mem_of_mem_filter hrow)
    issued := fun row hrow => hstore.issued row (List.mem_of_mem_filter hrow) }

/-- The store with a row in place of the one with its identifier. -/
def withRow (store : Store) (row : Row) : Store :=
  { store with rows := store.rows.map fun other => if other.id = row.id then row else other }

/-- The row that takes the place of another is there. -/
theorem mem_withRow {row : Row} (hrow : row ∈ store.rows) (new : Row) (hid : new.id = row.id) :
    new ∈ (store.withRow new).rows :=
  List.mem_map.mpr ⟨row, hrow, if_pos hid.symm⟩

/-- The store without the row that has an identifier. -/
def without (store : Store) (id : TaskId) : Store :=
  { store with rows := store.rows.filter fun row => row.id != id }

/-- What is left without an identifier has no row under it. -/
theorem id_ne_of_mem_without {row : Row} {id : TaskId} (hrow : row ∈ (store.without id).rows) : row.id ≠ id :=
  bne_iff_ne.mp (List.mem_filter.mp hrow).2

/-- A store with a row of some identifier is not what another leaves without it. -/
theorem ne_without {row : Row} (hrow : row ∈ changed.rows) : changed ≠ store.without row.id := by
  rintro rfl
  exact id_ne_of_mem_without hrow rfl

/-- A task that is found is that of a row with the identifier. -/
theorem exists_row_of_get {id : TaskId} {task : Task} (hget : store.get id = .ok task) :
    ∃ row ∈ store.rows, row.id = id ∧ row.toTask = task := by
  unfold get at hget
  split at hget
  · rename_i row hfound
    obtain ⟨hrow, hid⟩ := find?_id_spec hfound
    cases hget
    exact ⟨row, hrow, hid, rfl⟩
  · cases hget

/-- A row is known by its identifier, so that a change of what is written under that changes one row. -/
theorem eq_withRow_of_modify (hstore : store.Numbered) {row : Row} (hrow : row ∈ store.rows)
    {change : Content → Content} (hmodify : store.modify row.id change = .ok changed) :
    changed = store.withRow { row with toContent := change row.toContent } := by
  obtain ⟨_, rfl⟩ := modify_eq_ok_iff.mp hmodify
  have hrows : store.rows.map (changeRow row.id change) =
      (store.withRow { row with toContent := change row.toContent }).rows := by
    refine List.map_congr_left fun other hother => ?_
    by_cases hid : other.id = row.id
    · rw [hstore.eq_of_id_eq hother hrow hid, changeRow_of_id_eq rfl, if_pos rfl]
    · rw [changeRow_of_id_ne hid, if_neg hid]
  rw [hrows]
  rfl

/-- A deletion leaves the store without the identifier. -/
theorem eq_without_of_delete {id : TaskId} (hdelete : store.delete id = .ok changed) :
    changed = store.without id :=
  (delete_eq_ok_iff.mp hdelete).2

/-- A task that is deleted was that of a row with the identifier. -/
theorem exists_row_of_delete {id : TaskId} (hdelete : store.delete id = .ok changed) :
    ∃ row ∈ store.rows, row.id = id ∧ changed = store.without id := by
  obtain ⟨row, hrow, hid⟩ := has_iff.mp (delete_eq_ok_iff.mp hdelete).1
  exact ⟨row, hrow, hid, eq_without_of_delete hdelete⟩

end Daybook.Store

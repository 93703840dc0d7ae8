import Daybook.Proofs.Store.Numbered
import Daybook.Proofs.Task.Settled

namespace Daybook.Store

/-- A store whose rows are told apart by identifiers that it has handed out, and all say what has a
property. -/
structure Holds (P : Content → Prop) (store : Store) : Prop extends Numbered store where
  content : ∀ row ∈ store.rows, P row.toContent

/-- A store of tasks that can be made sense of. -/
abbrev Sound (store : Store) : Prop :=
  store.Holds Content.Sound

variable {P : Content → Prop} {store changed : Store}

/-- Every property holds all over the empty store. -/
theorem holds_empty : empty.Holds P where
  toNumbered := numbered_empty
  content _ hrow := absurd hrow List.not_mem_nil

namespace Holds

theorem add (hstore : store.Holds P) {content : Content} (hcontent : P content) :
    (store.add content).1.Holds P where
  toNumbered := hstore.toNumbered.add content
  content row hrow := by
    rcases mem_rows_add.mp hrow with hold | rfl
    · exact hstore.content row hold
    · exact hcontent

/-- A property holds on after a change that keeps it for every row. -/
theorem modify (hstore : store.Holds P) {id : TaskId} {change : Content → Content}
    (hchange : ∀ row ∈ store.rows, P (change row.toContent))
    (hmodify : store.modify id change = .ok changed) : changed.Holds P where
  toNumbered := hstore.toNumbered.modify hmodify
  content row hrow := by
    obtain ⟨_, rfl⟩ := modify_eq_ok_iff.mp hmodify
    obtain ⟨old, hold, rfl⟩ := List.mem_map.mp hrow
    by_cases hid : old.id = id
    · rw [changeRow_of_id_eq hid]
      exact hchange old hold
    · rw [changeRow_of_id_ne hid]
      exact hstore.content old hold

/-- A property holds on after a task that has it is written back. -/
theorem update (hstore : store.Holds P) {task : Task} (htask : P task.toContent)
    (hupdate : store.update task = .ok changed) : changed.Holds P := by
  obtain ⟨id, _, hmodify⟩ := update_eq_ok_iff.mp hupdate
  exact hstore.modify (fun _ _ => htask) hmodify

/-- A property holds on after a task is moved, if no content loses it by being given the date. -/
theorem updateDate (hstore : store.Holds P) {id : TaskId} {date : String}
    (hdate : ∀ content : Content, P content → P { content with date := date })
    (hupdate : store.updateDate id date = .ok changed) : changed.Holds P :=
  hstore.modify (fun row hrow => hdate _ (hstore.content row hrow)) hupdate

theorem delete (hstore : store.Holds P) {id : TaskId} (hdelete : store.delete id = .ok changed) :
    changed.Holds P where
  toNumbered := hstore.toNumbered.delete hdelete
  content row hrow := by
    obtain ⟨_, rfl⟩ := delete_eq_ok_iff.mp hdelete
    exact hstore.content row (List.mem_of_mem_filter hrow)

end Holds

end Daybook.Store

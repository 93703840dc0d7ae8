import Daybook.Proofs.Store.Numbered
import Daybook.Store.Step
import Mathlib.Logic.Function.Basic

namespace Daybook

open Store (Operation Answer)

/-- What is known under each identifier, and the last identifier handed out. -/
structure Registry where
  content? : TaskId → Option Content
  lastId : Nat

namespace Registry

def empty : Registry where
  content? _ := none
  lastId := 0

/-- The registry with something else known under an identifier, or nothing. -/
def set (registry : Registry) (id : TaskId) (content? : Option Content) : Registry :=
  { registry with content? := Function.update registry.content? id content? }

/-- The registry after one more identifier is handed out. -/
def add (registry : Registry) (content : Content) : Registry :=
  { registry.set ⟨registry.lastId + 1⟩ (some content) with lastId := registry.lastId + 1 }

/-- Registries with one counter are the same if they know the same. -/
theorem ext_of_known {registry other : Registry} (hlast : registry.lastId = other.lastId)
    (hknown : ∀ id content, registry.content? id = some content ↔ other.content? id = some content) :
    registry = other := by
  obtain ⟨known, last⟩ := registry
  obtain ⟨otherKnown, otherLast⟩ := other
  cases hlast
  congr
  funext id
  exact Option.ext (hknown id)

@[simp]
theorem lastId_set (registry : Registry) (id : TaskId) (content? : Option Content) :
    (registry.set id content?).lastId = registry.lastId :=
  rfl

@[simp]
theorem lastId_add (registry : Registry) (content : Content) :
    (registry.add content).lastId = registry.lastId + 1 :=
  rfl

/-- Something else is known under the one identifier that was set, and what was known under all others. -/
theorem content?_set (registry : Registry) (id other : TaskId) (content? : Option Content) :
    (registry.set id content?).content? other = if other = id then content? else registry.content? other :=
  Function.update_apply _ _ _ _

/-- A new content is known under the identifier after the last one handed out. -/
theorem content?_add (registry : Registry) (content : Content) (id : TaskId) :
    (registry.add content).content? id =
      if id = ⟨registry.lastId + 1⟩ then some content else registry.content? id :=
  Function.update_apply _ _ _ _

/-- What operations answer and make of a registry. -/
inductive Step (registry : Registry) : Operation → Answer → Registry → Prop
  | add (task : Task) :
      Step registry (.add task) (.added ⟨registry.lastId + 1⟩) (registry.add task.toContent)
  | get {id : TaskId} {content : Content} (hknown : registry.content? id = some content) :
      Step registry (.get id) (.found { toContent := content, id := some id }) registry
  | getUnknown {id : TaskId} (hunknown : registry.content? id = none) :
      Step registry (.get id) (.refused (.notFound id)) registry
  | update {task : Task} {id : TaskId} (hid : task.id = some id) (hknown : registry.content? id ≠ none) :
      Step registry (.update task) .done (registry.set id (some task.toContent))
  | updateUnknown {task : Task} {id : TaskId} (hid : task.id = some id)
      (hunknown : registry.content? id = none) :
      Step registry (.update task) (.refused (.notFound id)) registry
  | updateUnnamed {task : Task} (hid : task.id = none) :
      Step registry (.update task) (.refused .missingId) registry
  | updateDate {id : TaskId} {content : Content} (date : String)
      (hknown : registry.content? id = some content) :
      Step registry (.updateDate id date) .done (registry.set id (some { content with date := date }))
  | updateDateUnknown {id : TaskId} (date : String) (hunknown : registry.content? id = none) :
      Step registry (.updateDate id date) (.refused (.notFound id)) registry
  | delete {id : TaskId} (hknown : registry.content? id ≠ none) :
      Step registry (.delete id) .done (registry.set id none)
  | deleteUnknown {id : TaskId} (hunknown : registry.content? id = none) :
      Step registry (.delete id) (.refused (.notFound id)) registry
  | list (limit : Nat) (search : String) (tasks : List Task) :
      Step registry (.list limit search) (.listed tasks) registry
  | listRefused (limit : Nat) (search : String) (cause : Store.Error) :
      Step registry (.list limit search) (.refused cause) registry
  | path (inFile : Bool) : Step registry .path (.location inFile) registry
  | reopen : Step registry .reopen .done registry

/-- What sequences of operations answer and make of a registry. -/
inductive Run : Registry → List Operation → List Answer → Registry → Prop
  | nil (registry : Registry) : Run registry [] [] registry
  | cons {registry next last : Registry} {operation : Operation} {answer : Answer}
      {operations : List Operation} {answers : List Answer}
      (hstep : Step registry operation answer next) (hrest : Run next operations answers last) :
      Run registry (operation :: operations) (answer :: answers) last

end Registry

namespace Store

/-- The registry that a store keeps. -/
def registry (store : Store) : Registry where
  content? id := (store.rows.find? fun row => row.id == id).map Row.toContent
  lastId := store.lastId

variable {store changed : Store}

/-- What is known under an identifier is what its row says. -/
theorem content?_eq_some_iff (hstore : store.Numbered) {id : TaskId} {content : Content} :
    store.registry.content? id = some content ↔ { toContent := content, id := id } ∈ store.rows := by
  rw [registry, Option.map_eq_some_iff]
  constructor
  · rintro ⟨row, hfound, rfl⟩
    obtain ⟨hrow, rfl⟩ := find?_id_spec hfound
    exact hrow
  · intro hrow
    cases hfound : store.rows.find? fun row => row.id == id with
    | none => simpa using List.find?_eq_none.mp hfound _ hrow
    | some row =>
      obtain ⟨hfoundRow, hid⟩ := find?_id_spec hfound
      exact ⟨row, rfl, by rw [hstore.eq_of_id_eq hfoundRow hrow hid]⟩

/-- Nothing is known under an identifier exactly if the store does not have it. -/
theorem content?_eq_none_iff {id : TaskId} :
    store.registry.content? id = none ↔ ¬ store.has id = true := by
  rw [registry, Option.map_eq_none_iff, List.find?_eq_none, has, List.any_eq_true, not_exists]
  simp only [not_and]

/-- Getting a task answers with what is known under its identifier. -/
theorem get_eq (store : Store) (id : TaskId) :
    store.get id = match store.registry.content? id with
      | some content => .ok { toContent := content, id := some id }
      | none => .error (.notFound id) := by
  unfold get registry
  dsimp only
  cases hfound : store.rows.find? fun row => row.id == id with
  | none => rfl
  | some row =>
    obtain ⟨_, rfl⟩ := find?_id_spec hfound
    rfl

private theorem content?_eq_none_of_lt (hstore : store.Numbered) {id : TaskId} (hid : store.lastId < id.value) :
    store.registry.content? id = none := by
  rw [content?_eq_none_iff, has_iff]
  rintro ⟨row, hrow, rfl⟩
  have hissued := hstore.issued row hrow
  omega

private theorem registry_add (hstore : store.Numbered) (content : Content) :
    (store.add content).1.registry = store.registry.add content := by
  refine Registry.ext_of_known rfl fun id other => ?_
  rw [content?_eq_some_iff (hstore.add content), mem_rows_add, ← content?_eq_some_iff hstore,
    Registry.content?_add]
  split
  · rename_i hid
    have hlt : store.lastId < id.value := by
      rw [hid]
      exact Int.lt_succ _
    rw [content?_eq_none_of_lt hstore hlt]
    constructor
    · rintro (hknown | hrow)
      · cases hknown
      · cases hrow
        rfl
    · intro hsame
      cases hsame
      exact .inr (by rw [hid]; rfl)
  · rename_i hid
    constructor
    · rintro (hknown | hrow)
      · exact hknown
      · cases hrow
        exact absurd rfl hid
    · exact .inl

private theorem registry_modify (hstore : store.Numbered) {id : TaskId} {content : Content}
    {change : Content → Content} (hknown : store.registry.content? id = some content)
    (hmodify : store.modify id change = .ok changed) :
    changed.registry = store.registry.set id (some (change content)) := by
  have hchanged := hstore.modify hmodify
  have hrow := (content?_eq_some_iff hstore).mp hknown
  obtain ⟨_, rfl⟩ := modify_eq_ok_iff.mp hmodify
  refine Registry.ext_of_known rfl fun other said => ?_
  rw [content?_eq_some_iff hchanged, List.mem_map, Registry.content?_set]
  split
  · rename_i hother
    subst hother
    constructor
    · rintro ⟨old, hold, heq⟩
      have hid : old.id = other := (changeRow_id other change old).symm.trans (congrArg Row.id heq)
      cases hstore.eq_of_id_eq hold hrow hid
      rw [changeRow_of_id_eq hid] at heq
      cases heq
      rfl
    · intro hsame
      cases hsame
      exact ⟨_, hrow, changeRow_of_id_eq rfl⟩
  · rename_i hother
    rw [content?_eq_some_iff hstore]
    constructor
    · rintro ⟨old, hold, heq⟩
      have hid : old.id = other := (changeRow_id id change old).symm.trans (congrArg Row.id heq)
      rw [changeRow_of_id_ne (hid ▸ hother)] at heq
      exact heq ▸ hold
    · intro hold
      exact ⟨_, hold, changeRow_of_id_ne hother⟩

private theorem registry_delete (hstore : store.Numbered) {id : TaskId} (hdelete : store.delete id = .ok changed) :
    changed.registry = store.registry.set id none := by
  have hchanged := hstore.delete hdelete
  obtain ⟨_, rfl⟩ := delete_eq_ok_iff.mp hdelete
  refine Registry.ext_of_known rfl fun other said => ?_
  rw [content?_eq_some_iff hchanged, List.mem_filter, Registry.content?_set, ← content?_eq_some_iff hstore,
    bne_iff_ne]
  split
  · rename_i hother
    exact iff_of_false (fun h => h.2 hother) nofun
  · rename_i hother
    exact and_iff_left hother

private theorem has_of_content? {id : TaskId} (hknown : store.registry.content? id ≠ none) : store.has id = true := by
  by_contra hhas
  exact hknown (content?_eq_none_iff.mpr hhas)

/-- What is known can be changed, and only that. -/
theorem modify_spec (hstore : store.Numbered) (id : TaskId) (change : Content → Content) :
    (∃ content changed, store.registry.content? id = some content ∧ store.modify id change = .ok changed ∧
      changed.registry = store.registry.set id (some (change content))) ∨
    (store.registry.content? id = none ∧ store.modify id change = .error (.notFound id)) := by
  cases hknown : store.registry.content? id with
  | none => exact .inr ⟨rfl, modify_eq_error_iff.mpr ⟨content?_eq_none_iff.mp hknown, rfl⟩⟩
  | some content =>
    have hhas := has_of_content? (Option.ne_none_iff_exists'.mpr ⟨content, hknown⟩)
    have hmodify : store.modify id change = .ok _ := modify_eq_ok_iff.mpr ⟨hhas, rfl⟩
    exact .inl ⟨content, _, rfl, hmodify, registry_modify hstore hknown hmodify⟩

/-- A deletion of what is known forgets it, and any other is refused. -/
theorem delete_spec (hstore : store.Numbered) (id : TaskId) :
    (∃ changed, store.registry.content? id ≠ none ∧ store.delete id = .ok changed ∧
      changed.registry = store.registry.set id none) ∨
    (store.registry.content? id = none ∧ store.delete id = .error (.notFound id)) := by
  by_cases hknown : store.registry.content? id = none
  · exact .inr ⟨hknown, delete_eq_error_iff.mpr ⟨content?_eq_none_iff.mp hknown, rfl⟩⟩
  · have hdelete : store.delete id = .ok _ := delete_eq_ok_iff.mpr ⟨has_of_content? hknown, rfl⟩
    exact .inl ⟨_, hknown, hdelete, registry_delete hstore hdelete⟩

end Store

namespace Shelf

variable {shelf : Shelf} {operation : Operation}

/-- Whether a store outlives what is done with it: it is in a file, or never closed. -/
def Keeps (shelf : Shelf) (operations : List Operation) : Prop :=
  shelf.inFile = true ∨ Operation.reopen ∉ operations

/-- An operation on a store answers what it answers on its registry, and does the same to it. -/
theorem step_registry (hshelf : shelf.store.Numbered) (hkept : shelf.Keeps [operation]) :
    Registry.Step shelf.store.registry operation (shelf.step operation).2
      (shelf.step operation).1.store.registry := by
  cases operation with
  | add task =>
    have hstep : Registry.Step shelf.store.registry _ _ _ := .add task
    rwa [← Store.registry_add hshelf] at hstep
  | get id =>
    simp only [step, Store.get_eq]
    cases hknown : shelf.store.registry.content? id with
    | none => exact .getUnknown hknown
    | some content => exact .get hknown
  | update task =>
    cases hid : task.id with
    | none =>
      simp only [step, Store.update, hid]
      exact .updateUnnamed hid
    | some id =>
      simp only [step, Store.update, hid]
      rcases Store.modify_spec hshelf id fun _ => task.toContent with
        ⟨content, changed, hknown, hmodify, hchanged⟩ | ⟨hunknown, hmodify⟩
      · rw [hmodify, change, hchanged]
        exact .update hid (Option.ne_none_iff_exists'.mpr ⟨content, hknown⟩)
      · rw [hmodify]
        exact .updateUnknown hid hunknown
  | updateDate id date =>
    simp only [step, Store.updateDate]
    rcases Store.modify_spec hshelf id fun content => { content with date := date } with
      ⟨content, changed, hknown, hmodify, hchanged⟩ | ⟨hunknown, hmodify⟩
    · rw [hmodify, change, hchanged]
      exact .updateDate date hknown
    · rw [hmodify]
      exact .updateDateUnknown date hunknown
  | delete id =>
    simp only [step]
    rcases Store.delete_spec hshelf id with ⟨changed, hknown, hdelete, hchanged⟩ | ⟨hunknown, hdelete⟩
    · rw [hdelete, change, hchanged]
      exact .delete hknown
    · rw [hdelete]
      exact .deleteUnknown hunknown
  | list limit search =>
    simp only [step]
    split
    · exact .list limit search _
    · exact .listRefused limit search _
  | path => exact .path _
  | reopen =>
    have hinFile : shelf.inFile = true := hkept.resolve_right fun h => h (List.mem_singleton_self _)
    simp only [step, hinFile, if_true]
    exact .reopen

/-- What an operation leaves of a shelf: it stands where it stood, and its rows are numbered. -/
theorem numbered_step (hshelf : shelf.store.Numbered) (operation : Operation) :
    (shelf.step operation).1.inFile = shelf.inFile ∧ (shelf.step operation).1.store.Numbered := by
  have hchange (result : Except Store.Error Store)
      (hresult : ∀ changed, result = .ok changed → changed.Numbered) :
      (shelf.change result).1.inFile = shelf.inFile ∧ (shelf.change result).1.store.Numbered := by
    cases result with
    | ok changed => exact ⟨rfl, hresult changed rfl⟩
    | error cause => exact ⟨rfl, hshelf⟩
  cases operation with
  | add task => exact ⟨rfl, hshelf.add task.toContent⟩
  | update task =>
    refine hchange _ fun changed hupdate => ?_
    obtain ⟨id, _, hmodify⟩ := Store.update_eq_ok_iff.mp hupdate
    exact hshelf.modify hmodify
  | updateDate id date => exact hchange _ fun changed hupdate => hshelf.modify hupdate
  | delete id => exact hchange _ fun changed hdelete => hshelf.delete hdelete
  | get id =>
    simp only [step]
    split <;> exact ⟨rfl, hshelf⟩
  | list limit search =>
    simp only [step]
    split <;> exact ⟨rfl, hshelf⟩
  | path => exact ⟨rfl, hshelf⟩
  | reopen =>
    simp only [step]
    split
    · exact ⟨rfl, hshelf⟩
    · exact ⟨rfl, Store.numbered_empty⟩

/-- An operation that is refused leaves the store as it was, whatever the reason. -/
theorem step_of_refused {cause : Store.Error} (hrefused : (shelf.step operation).2 = .refused cause) :
    (shelf.step operation).1 = shelf := by
  have hchange (result : Except Store.Error Store) (hresult : (shelf.change result).2 = .refused cause) :
      (shelf.change result).1 = shelf := by
    cases result with
    | ok changed => cases hresult
    | error cause => rfl
  cases operation with
  | add => cases hrefused
  | get id =>
    simp only [step]
    split <;> rfl
  | update task => exact hchange _ hrefused
  | updateDate id date => exact hchange _ hrefused
  | delete id => exact hchange _ hrefused
  | list limit search =>
    simp only [step]
    split <;> rfl
  | path => rfl
  | reopen => cases hrefused

/-- Operations on a store answer what they answer on its registry, and do the same to it. -/
theorem run_registry {operations : List Operation} (hshelf : shelf.store.Numbered)
    (hkept : shelf.Keeps operations) :
    Registry.Run shelf.store.registry operations (shelf.run operations).2
        (shelf.run operations).1.store.registry ∧
      (shelf.run operations).1.store.Numbered := by
  induction operations generalizing shelf with
  | nil => exact ⟨.nil _, hshelf⟩
  | cons operation operations ih =>
    obtain ⟨hplace, hnext⟩ := numbered_step hshelf operation
    have hstep : shelf.Keeps [operation] := hkept.imp_right fun h hmem =>
      h (List.mem_cons.mpr (.inl (List.mem_singleton.mp hmem)))
    have hrest : (shelf.step operation).1.Keeps operations := by
      rw [Keeps, hplace]
      exact hkept.imp_right fun h hmem => h (List.mem_cons_of_mem _ hmem)
    obtain ⟨hrun, hlast⟩ := ih hnext hrest
    exact ⟨.cons (step_registry hshelf hstep) hrun, hlast⟩

end Shelf

end Daybook

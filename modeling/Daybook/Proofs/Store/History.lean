import Daybook.Proofs.Store.Registry

namespace Daybook

namespace Store

/-- The identifiers that were handed out, in order. -/
def issued (answers : List Answer) : List TaskId :=
  answers.filterMap fun answer =>
    match answer with
    | .added id => some id
    | _ => none

/-- What is written under an identifier after one operation. -/
def rewritten (id : TaskId) (content? : Option Content) : Operation × Answer → Option Content
  | (.add task, .added new) => if id = new then some task.toContent else content?
  | (.update task, .done) => if task.id = some id then some task.toContent else content?
  | (.updateDate other date, .done) =>
    if id = other then content?.map fun content => { content with date := date } else content?
  | (.delete other, .done) => if id = other then none else content?
  | _ => content?

/-- What was last written under an identifier, unless it was deleted since. -/
def lastWritten (id : TaskId) (history : List (Operation × Answer)) : Option Content :=
  history.foldl (rewritten id) none

private theorem issued_cons (answer : Answer) (answers : List Answer) :
    issued (answer :: answers) = issued [answer] ++ issued answers := by
  cases answer <;> rfl

end Store

namespace Registry

open Store (Operation Answer issued rewritten)

variable {registry next last : Registry} {operation : Operation} {answer : Answer}
  {operations : List Operation} {answers : List Answer}

/-- A registry that knows only identifiers which it has handed out. -/
def Bounded (registry : Registry) : Prop :=
  ∀ id, registry.content? id ≠ none → id.value ≤ registry.lastId

/-- An operation changes what is known under an identifier only as its own answer tells. -/
theorem Step.content?_eq (hstep : Step registry operation answer next) (id : TaskId) :
    next.content? id = rewritten id (registry.content? id) (operation, answer) := by
  cases hstep with
  | add task => exact content?_add registry task.toContent id
  | update hid => simp only [rewritten, content?_set, hid, Option.some_inj, eq_comm]
  | updateDate date hknown =>
    rw [content?_set, rewritten]
    split
    · rename_i hid
      rw [hid, hknown]
      rfl
    · rfl
  | delete => exact content?_set registry _ id none
  | _ => rfl

/-- No operation takes back an identifier that was handed out. -/
theorem Step.lastId_le (hstep : Step registry operation answer next) :
    registry.lastId ≤ next.lastId := by
  cases hstep <;> simp

private theorem Step.value_of_issued (hstep : Step registry operation answer next) :
    ∀ id ∈ issued [answer], id.value = registry.lastId + 1 ∧ id.value = next.lastId := by
  cases hstep <;> simp [issued]

private theorem Bounded.set (hbounded : registry.Bounded) {id : TaskId} (hid : registry.content? id ≠ none)
    (content? : Option Content) : (registry.set id content?).Bounded := by
  intro other hother
  rw [content?_set] at hother
  split at hother
  · rename_i heq
    exact hbounded other (heq ▸ hid)
  · exact hbounded other hother

private theorem Bounded.add (hbounded : registry.Bounded) (content : Content) : (registry.add content).Bounded := by
  intro id hid
  rw [content?_add] at hid
  split at hid
  · rename_i heq
    rw [heq]
    exact Int.le_refl _
  · have hold := hbounded id hid
    rw [lastId_add]
    omega

private theorem Step.bounded (hstep : Step registry operation answer next) (hbounded : registry.Bounded) :
    next.Bounded := by
  cases hstep with
  | add task => exact hbounded.add task.toContent
  | update _ hknown => exact hbounded.set hknown _
  | updateDate _ hknown => exact hbounded.set (by simp [hknown]) _
  | delete hknown => exact hbounded.set hknown _
  | _ => exact hbounded

/-- What a registry knows after a run is what the run leaves written. -/
theorem Run.content?_eq (hrun : Run registry operations answers last) (id : TaskId) :
    last.content? id = (operations.zip answers).foldl (rewritten id) (registry.content? id) := by
  induction hrun with
  | nil => rfl
  | cons hstep _ ih => rw [ih, hstep.content?_eq, List.zip_cons_cons, List.foldl_cons]

/-- The identifiers that a run hands out ascend from the last one handed out before. -/
theorem Run.issued_ascending (hrun : Run registry operations answers last) :
    (issued answers).Pairwise (fun id later => id.value < later.value) ∧
      ∀ id ∈ issued answers, registry.lastId < id.value := by
  induction hrun with
  | nil => exact ⟨.nil, fun _ hid => absurd hid List.not_mem_nil⟩
  | @cons registry next last operation answer operations answers hstep _ ih =>
    obtain ⟨hascending, hlater⟩ := ih
    have hfirst := hstep.value_of_issued
    have hlast := hstep.lastId_le
    rw [Store.issued_cons]
    refine ⟨List.pairwise_append.mpr ⟨?_, hascending, fun id hid later hmem => ?_⟩, fun id hid => ?_⟩
    · cases answer <;> simp [issued]
    · have hvalue := hfirst id hid
      have hgreater := hlater later hmem
      omega
    · rcases List.mem_append.mp hid with hid | hid
      · have hvalue := hfirst id hid
        omega
      · have hgreater := hlater id hid
        omega

/-- Nothing is known of an identifier after a run if it was unknown before and not handed out, or if it
was deleted; for none is handed out again. -/
theorem Run.content?_eq_none_iff (hrun : Run registry operations answers last)
    (hbounded : registry.Bounded) (id : TaskId) :
    last.content? id = none ↔
      (registry.content? id = none ∧ id ∉ issued answers) ∨
        (Operation.delete id, Answer.done) ∈ operations.zip answers := by
  induction hrun with
  | nil => simp [issued]
  | @cons registry next last operation answer operations answers hstep hrest ih =>
    rw [ih (hstep.bounded hbounded), List.zip_cons_cons, List.mem_cons, Store.issued_cons,
      List.mem_append]
    cases hstep with
    | add task =>
      by_cases hid : id = ⟨registry.lastId + 1⟩ <;> simp [content?_add, issued, hid]
    | @update task other hother hknown =>
      by_cases hid : id = other <;> simp [content?_set, issued, hid, hknown]
    | @updateDate other content date hknown =>
      by_cases hid : id = other <;> simp [content?_set, issued, hid, hknown]
    | @delete other hknown =>
      by_cases hid : id = other
      · -- A deleted identifier lies below all that are handed out later.
        have hretired : id ∉ issued answers := fun hmem => by
          have hgreater := hrest.issued_ascending.2 id hmem
          have hold := hbounded id (hid ▸ hknown)
          rw [lastId_set] at hgreater
          omega
        simp [content?_set, hid, hid ▸ hretired]
      · simp [content?_set, issued, hid]
    | _ => simp [issued]

end Registry

namespace Shelf

open Store (Operation Answer issued lastWritten)

/-- What a store has become by operations that gave answers. -/
structure Refines (operations : List Operation) (answers : List Answer) (shelf : Shelf) : Prop where
  /-- It did as a registry does, and goes on to. -/
  run : Registry.Run .empty operations answers shelf.store.registry
  step : ∀ operation, shelf.Keeps [operation] →
    Registry.Step shelf.store.registry operation (shelf.step operation).2
      (shelf.step operation).1.store.registry
  /-- Its rows are the entries of the registry. -/
  unique : (shelf.store.rows.map Row.id).Nodup
  rows : ∀ id content, shelf.store.registry.content? id = some content ↔
    { toContent := content, id := id } ∈ shelf.store.rows
  /-- Identifiers were handed out in ascending order. -/
  ascending : (issued answers).Pairwise fun id later => id.value < later.value
  /-- Under an identifier it holds what was last written there. -/
  get : ∀ id, shelf.store.get id = match lastWritten id (operations.zip answers) with
    | some content => .ok { toContent := content, id := some id }
    | none => .error (.notFound id)
  unknown : ∀ id, lastWritten id (operations.zip answers) = none ↔
    id ∉ issued answers ∨ (Operation.delete id, Answer.done) ∈ operations.zip answers
  /-- A refused operation changes nothing. -/
  refused : ∀ operation cause, (shelf.step operation).2 = .refused cause → (shelf.step operation).1 = shelf

/-- However an empty store is worked with, in memory or in a file that is closed and opened in between, it
becomes what its history makes of it. -/
theorem refines_of_run {inFile : Bool} {operations : List Operation} {answers : List Answer} {shelf : Shelf}
    (hkept : Keeps { inFile := inFile } operations)
    (hrun : run { inFile := inFile } operations = (shelf, answers)) : Refines operations answers shelf := by
  have hempty : ({ inFile := inFile } : Shelf).store.Numbered := Store.numbered_empty
  obtain ⟨hregistry, hnumbered⟩ := run_registry hempty hkept
  rw [hrun] at hregistry hnumbered
  have hbounded : Registry.empty.Bounded := fun id hknown => absurd rfl hknown
  exact {
    run := hregistry
    step := fun operation hkept => step_registry hnumbered hkept
    unique := hnumbered.unique
    rows := fun id content => Store.content?_eq_some_iff hnumbered
    ascending := hregistry.issued_ascending.1
    get := fun id => by
      rw [Store.get_eq, hregistry.content?_eq]
      rfl
    unknown := fun id => by
      have hnone := hregistry.content?_eq_none_iff hbounded id
      rw [hregistry.content?_eq] at hnone
      exact hnone.trans (or_congr (and_iff_right rfl) Iff.rfl)
    refused := fun operation cause hrefused => step_of_refused hrefused }

/-- An identifier that was deleted is not handed out again after the store is closed, and one that a task brings
along counts for nothing. -/
theorem refines_of_run_reopened : ∃ answers shelf,
    run { inFile := true } [.add { id := some ⟨7⟩, title := "first" }, .add { title := "second" },
      .delete ⟨2⟩, .reopen, .add { title := "third" }, .updateDate ⟨1⟩ "20240101"] = (shelf, answers) ∧
    issued answers = [⟨1⟩, ⟨2⟩, ⟨3⟩] ∧
    Refines [.add { id := some ⟨7⟩, title := "first" }, .add { title := "second" },
      .delete ⟨2⟩, .reopen, .add { title := "third" }, .updateDate ⟨1⟩ "20240101"] answers shelf :=
  ⟨_, _, rfl, by decide, refines_of_run (.inl rfl) rfl⟩

end Shelf

end Daybook

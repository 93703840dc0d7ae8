import Daybook.Proofs.Except
import Daybook.Proofs.Lookup
import Daybook.Workspace.Database

namespace Daybook

namespace Location

private theorem isAnchor_of_beside_eq {location : Location} {ending : String} (hending : Segment.ofText ending ≠ [])
    (hsame : location.beside ending = location) : location.isAnchor = true := by
  cases hlast : location.getLast? with
  | none =>
    rw [List.getLast?_eq_none_iff.mp hlast]
    rfl
  | some name =>
    obtain ⟨above, rfl⟩ := List.getLast?_eq_some_iff.mp hlast
    simp [beside, hending] at hsame

end Location

namespace Database

/-- The places of the files that opening a database may do away with. -/
def IsLeftover (file place : Location) : Prop :=
  place = journal file ∨ place = log file ∨ place = logIndex file

/-- Whether a location is beside a database, if there is one, in the place of a leftover file. -/
def IsBeside (file? : Option Location) (location : Location) : Prop :=
  ∃ file, file? = some file ∧ location ≠ file ∧ IsLeftover file location

/-- No database is beside itself. -/
theorem not_isBeside_of_eq {file? : Option Location} {location : Location}
    (hlocation : file? = some location) : ¬ IsBeside file? location := by
  rintro ⟨file, hfile, hne, _⟩
  rw [hlocation] at hfile
  cases hfile
  exact hne rfl

/-- No database is a leftover file of itself, unless it is a folder. -/
theorem isAnchor_of_isLeftover_self {file : Location} (hself : IsLeftover file file) :
    file.isAnchor = true := by
  rcases hself with hself | hself | hself <;>
    exact Location.isAnchor_of_beside_eq (by decide) hself.symm

end Database

namespace Workspace

open Database (IsLeftover IsBeside)

variable {w w' w'' : Workspace} {location other : Location} {entry : Entry} {store : Store}

/-- The tasks at a location. There are none where there is no store. -/
def tasks (w : Workspace) (location : Location) : Store :=
  (w.store? location).getD .empty

section Entries

/-- Anchors are folders. -/
theorem entry?_of_isAnchor (hanchor : location.isAnchor = true) : w.entry? location = some .folder :=
  if_pos hanchor

private theorem entry?_of_not_anchor (hanchor : location.isAnchor = false) :
    w.entry? location = w.entries.lookup location := by
  unfold entry?
  rw [hanchor]
  rfl

private theorem entry?_put_of_ne (hne : other ≠ location) :
    entry? (w.put location entry) other = w.entry? other := by
  unfold entry? put
  dsimp only
  rw [lookup_cons, if_neg hne, lookup_filter (fun place => place != location), if_pos (bne_iff_ne.mpr hne)]

private theorem entry?_put_self (hanchor : location.isAnchor = false) :
    entry? (w.put location entry) location = some entry := by
  rw [entry?_of_not_anchor hanchor]
  exact List.lookup_cons_self

private theorem entry?_remove_of_ne (hne : other ≠ location) :
    entry? (w.remove location) other = w.entry? other := by
  unfold entry? remove
  dsimp only
  rw [lookup_filter (fun place => place != location), if_pos (bne_iff_ne.mpr hne)]

private theorem entry?_remove_self (hanchor : location.isAnchor = false) :
    entry? (w.remove location) location = none := by
  rw [entry?_of_not_anchor hanchor]
  exact (lookup_filter (fun place => place != location) location w.entries).trans (if_neg (by simp))

private theorem store?_eq_some_iff :
    w.store? location = some store ↔ w.entry? location = some (.tasks store) := by
  unfold store?
  split
  · rename_i hentry
    rw [hentry]
    simp
  · rename_i hother
    refine iff_of_false nofun fun hentry => hother store hentry

/-- A workspace without files has no stores. -/
theorem store?_of_nothing (location : Location) : store? {} location = none := by
  unfold store? entry?
  by_cases hanchor : location.isAnchor = true <;> simp [hanchor]

/-- A file with a text is no store. -/
theorem store?_put_text (hnone : w.store? location = none) {place : Location} {content : String} :
    (w.put place (.text content)).store? location = none := by
  refine Option.eq_none_iff_forall_ne_some.mpr fun store hstore => ?_
  rw [store?_eq_some_iff] at hstore
  by_cases hplace : location = place
  · subst hplace
    cases hanchor : location.isAnchor with
    | true =>
      rw [entry?_of_isAnchor hanchor] at hstore
      cases hstore
    | false =>
      rw [entry?_put_self hanchor] at hstore
      cases hstore
  · rw [entry?_put_of_ne hplace, ← store?_eq_some_iff, hnone] at hstore
    cases hstore

private theorem tasks_eq_of_entry (hentry : w.entry? location = some (.tasks store)) : w.tasks location = store := by
  rw [tasks, store?_eq_some_iff.mpr hentry, Option.getD_some]

/-- Where there is anything but a store, there are no tasks. -/
theorem tasks_eq_empty (hentry : ∀ store, w.entry? location ≠ some (.tasks store)) :
    w.tasks location = .empty := by
  have hnone : w.store? location = none := by
    refine Option.eq_none_iff_forall_ne_some.mpr ?_
    intro store hstore
    exact hentry store (store?_eq_some_iff.mp hstore)
  rw [tasks, hnone, Option.getD_none]

private theorem tasks_congr (hentry : w'.entry? location = w.entry? location) :
    w'.tasks location = w.tasks location := by
  simp only [tasks, store?, hentry]

/-- There are no tasks at anchors. -/
theorem tasks_of_isAnchor (hanchor : location.isAnchor = true) : w.tasks location = .empty := by
  apply tasks_eq_empty
  intro store hentry
  rw [entry?_of_isAnchor hanchor] at hentry
  cases hentry

/-- Putting an entry somewhere leaves the tasks everywhere else. -/
theorem tasks_put_of_ne (hne : other ≠ location) :
    (w.put location entry).tasks other = w.tasks other :=
  tasks_congr (entry?_put_of_ne hne)

private theorem tasks_remove_self : (w.remove location).tasks location = .empty := by
  cases hanchor : location.isAnchor with
  | true => exact tasks_of_isAnchor hanchor
  | false =>
    apply tasks_eq_empty
    rw [entry?_remove_self hanchor]
    exact nofun

/-- An entry other than a store of tasks leaves none in its place. -/
theorem tasks_put_self (hentry : ∀ store, entry = .tasks store → store = .empty) :
    (w.put location entry).tasks location = .empty := by
  cases hanchor : location.isAnchor with
  | true => exact tasks_of_isAnchor hanchor
  | false =>
    have hput : entry? (w.put location entry) location = some entry := entry?_put_self hanchor
    cases entry with
    | tasks store => rw [tasks_eq_of_entry hput, hentry store rfl]
    | _ =>
      apply tasks_eq_empty
      rw [hput]
      exact nofun

end Entries

/-- Whether tasks are kept but in some places, where they may be lost. -/
def Keeps (lost : Location → Prop) (w w' : Workspace) : Prop :=
  ∀ location, w'.tasks location = w.tasks location ∨ (lost location ∧ w'.tasks location = .empty)

namespace Keeps

variable {lost : Location → Prop} {file? : Option Location} {file : Location}

/-- A workspace that stays as it is keeps its tasks, wherever some may be lost. -/
theorem refl : Keeps lost w w :=
  fun _ => .inl rfl

private theorem trans (hfirst : Keeps lost w w') (hsecond : Keeps lost w' w'') : Keeps lost w w'' := by
  intro location
  rcases hsecond location with hkept | hlost
  · rw [hkept]
    exact hfirst location
  · exact .inr hlost

theorem tasks_eq (hkeeps : Keeps lost w w') (hlocation : ¬ lost location) :
    w'.tasks location = w.tasks location :=
  (hkeeps location).resolve_right fun h => hlocation h.1

/-- Something else is put where there are no tasks. -/
theorem put (hfree : w.tasks location = .empty) (hentry : ∀ store, entry = .tasks store → store = .empty) :
    Keeps lost w (w.put location entry) := by
  intro other
  by_cases hsame : other = location
  · rw [hsame, hfree]
    exact .inl (tasks_put_self hentry)
  · exact .inl (tasks_put_of_ne hsame)

/-- A leftover file is done away with. -/
theorem clear (hfile : file? = some file) (hplace : IsLeftover file location)
    (hothers : ∀ other, other ≠ location → w'.tasks other = w.tasks other)
    (hcleared : w'.tasks location = .empty) : Keeps (IsBeside file?) w w' := by
  intro other
  by_cases hsame : other = location
  · subst hsame
    by_cases hself : other = file
    · subst hself
      have hanchor := Database.isAnchor_of_isLeftover_self hplace
      rw [tasks_of_isAnchor hanchor, tasks_of_isAnchor hanchor]
      exact .inl rfl
    · exact .inr ⟨⟨file, hfile, hself, hplace⟩, hcleared⟩
  · exact .inl (hothers other hsame)

/-- Taking away a leftover file of a database loses nothing but what stands in its place. -/
theorem remove (hfile : file? = some file) (hplace : IsLeftover file location) :
    Keeps (IsBeside file?) w (w.remove location) :=
  clear hfile hplace (fun _ hne => tasks_congr (entry?_remove_of_ne hne)) tasks_remove_self

end Keeps

section Folders

variable {lost : Location → Prop}

private theorem keeps_makeFolder {segments : List Segment} (hmade : w.makeFolder segments = .ok w') :
    Keeps lost w w' := by
  obtain ⟨location, _, hput⟩ := bind_eq_ok_iff.mp hmade
  split at hput <;> cases hput
  rename_i hfree
  refine .put (tasks_eq_empty fun store hentry => hfree ?_) nofun
  rw [hentry]
  rfl

private theorem keeps_ensureFolder {segments : List Segment} (hmade : w.ensureFolder segments = .ok w') :
    Keeps lost w w' := by
  unfold ensureFolder at hmade
  split at hmade
  · rename_i hfolder
    cases hmade
    exact keeps_makeFolder hfolder
  · split at hmade <;> cases hmade
    exact .refl

/-- Making the folders of a path keeps all tasks, also where it fails in the end. -/
theorem keeps_ensureFolders (w : Workspace) (segments : List Segment) :
    Keeps lost w (w.ensureFolders segments).1 := by
  induction segments with
  | nil => exact .refl
  | cons segment above ih =>
    unfold ensureFolders
    split
    · rename_i made hmade
      exact keeps_ensureFolder hmade
    · split
      · rename_i hfolders
        rw [hfolders] at ih
        exact ih
      · rename_i hfolders
        rw [hfolders] at ih
        split
        · rename_i made hmade
          exact ih.trans (keeps_ensureFolder hmade)
        · exact ih
    · exact .refl

end Folders

section Leftovers

variable {address : Address} {file? : Option Location} {file : Location}

private theorem keeps_dropJournal (hfile : file? = some file) :
    Keeps (IsBeside file?) w (w.dropJournal address file) := by
  unfold dropJournal
  split
  · exact .remove hfile (.inl rfl)
  · exact .refl

private theorem keeps_settleJournal (hfile : file? = some file) {isEmpty : Bool}
    (hsettled : w.settleJournal address file isEmpty = .ok w') : Keeps (IsBeside file?) w w' := by
  unfold settleJournal at hsettled
  dsimp only at hsettled
  split at hsettled
  · cases hsettled
    exact .refl
  · split at hsettled
    · cases hsettled
      exact .refl
    · split at hsettled <;> cases hsettled
      exact .refl
    · cases hsettled
      split
      · exact keeps_dropJournal hfile
      · exact .refl
    · split at hsettled
      · cases hsettled
        exact keeps_dropJournal hfile
      · split at hsettled <;> cases hsettled
        exact .remove hfile (.inl rfl)

private theorem keeps_enterLog (hfile : file? = some file) {access : Database.Access}
    (hentered : w.enterLog address file = .ok (w', access)) : Keeps (IsBeside file?) w w' := by
  unfold enterLog at hentered
  dsimp only at hentered
  split at hentered
  · cases hentered
  · cases hentered
    exact .remove hfile (.inr (.inl rfl))
  · split at hentered <;> cases hentered
    · exact .trans (.remove hfile (.inr (.inl rfl))) (.remove hfile (.inr (.inr rfl)))
    · exact .clear hfile (.inr (.inr rfl)) (fun _ hne => tasks_put_of_ne hne) (tasks_put_self nofun)
  · split at hentered <;> cases hentered
    exact .refl

private theorem keeps_settleLog (hfile : file? = some file) {isEmpty : Bool} {access : Database.Access}
    (hsettled : w.settleLog address file isEmpty = .ok (w', access)) : Keeps (IsBeside file?) w w' := by
  unfold settleLog at hsettled
  dsimp only at hsettled
  split at hsettled
  · cases hsettled
    exact .refl
  · cases hsettled
  · split at hsettled
    · cases hsettled
      exact .remove hfile (.inr (.inl rfl))
    · split at hsettled
      · cases hsettled
      · exact keeps_enterLog hfile hsettled

/-- Doing away with leftover files loses tasks only where they stand in the place of one. -/
theorem keeps_settle (hfile : file? = some file) {isEmpty : Bool} :
    Keeps (IsBeside file?) w (w.settle address file isEmpty).1 := by
  unfold settle
  split
  · exact .refl
  · split
    · exact .refl
    · rename_i hjournal
      have hsettled := keeps_settleJournal hfile hjournal
      split
      · exact hsettled
      · rename_i hlog
        exact hsettled.trans (keeps_settleLog hfile hlog)

end Leftovers

section Opening

variable {address : Address} {file? : Option Location} {file : Location}

/-- Where the database at an address is. A store that is kept in memory is nowhere. -/
def addressed? (w : Workspace) (address : Address) : Option Location :=
  if address.isNameless || address.system == .memory then none else w.locateDatabase address.path

/-- Where the database at a path is, once the folders that lead to it are made. -/
def databaseAt? (w : Workspace) (text : String) : Option Location :=
  let path := Path.ofText text
  match w.ensureFolders (Path.parent path.segments).reverse, path.nulAt?, Address.read text with
  | (w, .ok _), none, .ok address => w.addressed? address
  | _, _, _ => none

/-- Whether an open database is one in a file, with the tasks that are there, or one in memory, without
any. -/
def IsOpen (w : Workspace) (file? : Option Location) (database : Database) : Prop :=
  match database.place with
  | .memory => file? = none ∧ database.store = .empty
  | .file file => file? = some file ∧ file.isAnchor = false ∧ w.tasks file = database.store

/-- What opening a database comes to. Tasks are kept but beside the database, and what is open is what
is at its place. -/
structure Opens (w : Workspace) (file? : Option Location)
    (opened : Workspace × Except Database.Error Database) : Prop where
  keeps : Keeps (IsBeside file?) w opened.1
  isOpen : ∀ database, opened.2 = .ok database → opened.1.IsOpen file? database

namespace Opens

variable {opened : Workspace × Except Database.Error Database}

private theorem error {cause : Database.Error} (hkeeps : Keeps (IsBeside file?) w w') :
    Opens w file? (w', .error cause) where
  keeps := hkeeps
  isOpen _ hopened := nomatch hopened

private theorem after (hkeeps : Keeps (IsBeside file?) w w') (hopened : Opens w' file? opened) :
    Opens w file? opened where
  keeps := hkeeps.trans hopened.keeps
  isOpen := hopened.isOpen

end Opens

/-- Keeping a store in a file puts it there, and keeps the tasks elsewhere but beside the file. -/
theorem tasks_keep (hfile : file? = some file) (hanchor : file.isAnchor = false)
    (access : Database.Access) (store : Store) :
    (w.keep (.file file) access store).tasks file = store ∧
      ∀ other, other ≠ file → (w.keep (.file file) access store).tasks other = w.tasks other ∨
        (IsBeside file? other ∧ (w.keep (.file file) access store).tasks other = .empty) := by
  unfold keep
  dsimp only
  generalize hcleared : (if access = .journaled then _ else _) = cleared
  have hkeeps : Keeps (IsBeside file?) w cleared := by
    rw [← hcleared]
    split
    · exact .remove hfile (.inl rfl)
    · exact .refl
  refine ⟨tasks_eq_of_entry (entry?_put_self hanchor), fun other hne => ?_⟩
  rw [tasks_put_of_ne hne]
  exact hkeeps other

namespace IsOpen

variable {database : Database} (hopen : w.IsOpen file? database)

include hopen

theorem tasks_eq (hlocation : file? = some location) : w.tasks location = database.store := by
  unfold IsOpen at hopen
  split at hopen
  · cases hopen.1.symm.trans hlocation
  · cases hopen.1.symm.trans hlocation
    exact hopen.2.2

theorem store_eq : database.store = (file?.map w.tasks).getD .empty := by
  cases file? with
  | none =>
    unfold IsOpen at hopen
    split at hopen
    · exact hopen.2
    · cases hopen.1
  | some location =>
    rw [Option.map_some, Option.getD_some]
    exact (hopen.tasks_eq rfl).symm

/-- Keeping a store where a database is open puts it at its place, if there is one. -/
theorem tasks_keep_self (hlocation : file? = some location) (store : Store) :
    (w.keep database.place database.access store).tasks location = store := by
  unfold IsOpen at hopen
  split at hopen
  · cases hopen.1.symm.trans hlocation
  · rename_i hplace
    cases hopen.1.symm.trans hlocation
    rw [hplace]
    exact (tasks_keep hlocation hopen.2.1 _ store).1

/-- Keeping a store changes no tasks at other places, except that those in the place of a leftover file may go. -/
theorem tasks_keep_of_ne (hlocation : file? ≠ some location) (store : Store) :
    (w.keep database.place database.access store).tasks location = w.tasks location ∨
      (IsBeside file? location ∧ (w.keep database.place database.access store).tasks location = .empty) := by
  unfold IsOpen at hopen
  split at hopen
  · rename_i hplace
    rw [hplace]
    exact .inl rfl
  · rename_i file hplace
    have hne : location ≠ file := fun hsame => hlocation (hsame ▸ hopen.1)
    rw [hplace]
    exact (tasks_keep hopen.1 hopen.2.1 _ store).2 location hne

end IsOpen

private theorem opens_beginFile (hfile : file? = some file) (hanchor : file.isAnchor = false)
    (hfree : w.tasks file = .empty) {access : Database.Access} :
    Opens w file? (w.beginFile access file) := by
  unfold beginFile
  split
  · exact .error .refl
  · obtain ⟨hbegun, hothers⟩ := tasks_keep (w := w) hfile hanchor access .empty
    refine ⟨fun other => ?_, fun database hopened => ?_⟩
    · by_cases hsame : other = file
      · rw [hsame, hfree]
        exact .inl hbegun
      · exact hothers other hsame
    · cases hopened
      exact ⟨hfile, hanchor, hbegun⟩

private theorem opens_beginInMemory : Opens w none (w, beginInMemory address) := by
  refine ⟨.refl, fun database hopened => ?_⟩
  change beginInMemory address = _ at hopened
  unfold beginInMemory at hopened
  split at hopened <;> cases hopened
  exact ⟨rfl, rfl⟩

/-- Opening the file of a database finds its store, begins one in an empty file, or fails; the tasks stay in each
case. -/
theorem opens_openFile (hfile : file? = some file) (hanchor : file.isAnchor = false) :
    Opens w file? (w.openFile address file) := by
  unfold openFile
  dsimp only
  generalize hprepared : (if address.isImmutable = true then _ else _) = prepared
  have hsettled : Keeps (IsBeside file?) w prepared.1 := by
    rw [← hprepared]
    split
    · exact .refl
    · exact keeps_settle hfile
  apply Opens.after hsettled
  split
  · exact .error .refl
  · rename_i hentry
    refine ⟨.refl, fun database hopened => ?_⟩
    cases hopened
    exact ⟨hfile, hanchor, tasks_eq_of_entry hentry⟩
  · rename_i hother
    split
    · apply opens_beginFile hfile hanchor
      apply tasks_eq_empty
      intro store hentry
      exact hother store hentry
    · exact .error .refl

private theorem opens_openAt (hfile : file? = some file) {path : String} :
    Opens w file? (w.openAt path address file) := by
  unfold openAt
  split
  · exact .error .refl
  · split
    · exact .error .refl
    · rename_i entry hnotFolder hentry
      refine opens_openFile hfile (Bool.eq_false_iff.mpr fun hanchor => ?_)
      rw [entry?_of_isAnchor hanchor] at hentry
      cases hentry
      exact hnotFolder rfl
    · rename_i hnone
      have hanchor : file.isAnchor = false := by
        refine Bool.eq_false_iff.mpr fun hanchor => ?_
        rw [entry?_of_isAnchor hanchor] at hnone
        cases hnone
      split
      · have hfree : w.tasks file = .empty := by
          apply tasks_eq_empty
          rw [hnone]
          exact nofun
        refine .after (.put hfree ?_) (opens_openFile hfile hanchor)
        intro store htasks
        cases htasks
      · exact .error .refl

private theorem opens_openAddress {path : String} :
    Opens w (w.addressed? address) (w.openAddress path address) := by
  unfold openAddress addressed?
  cases address.isNameless with
  | true => exact opens_beginInMemory
  | false =>
    cases address.system == .memory with
    | true =>
      simp only [Bool.false_eq_true, Bool.or_true, if_true, if_false]
      split
      · exact opens_beginInMemory
      · exact .error .refl
    | false =>
      simp only [Bool.false_eq_true, Bool.or_false, if_false]
      cases hlocated : w.locateDatabase address.path with
      | none => exact .error .refl
      | some file => exact opens_openAt rfl

/-- Opening a database keeps all tasks but those in the place of a leftover file, and opens those at its
place, or a store without any. -/
theorem opens_openDatabase (w : Workspace) (text : String) :
    Opens w (w.databaseAt? text) (w.openDatabase text) := by
  unfold openDatabase databaseAt?
  dsimp only
  have hfolders {lost : Location → Prop} :
      Keeps lost w (w.ensureFolders (Path.parent (Path.ofText text).segments).reverse).1 :=
    keeps_ensureFolders w _
  generalize w.ensureFolders (Path.parent (Path.ofText text).segments).reverse = made at hfolders
  obtain ⟨made, result⟩ := made
  cases result with
  | error fault => exact .error hfolders
  | ok =>
    cases (Path.ofText text).nulAt? with
    | some position => exact .error hfolders
    | none =>
      cases Address.read text with
      | error cause => exact .error hfolders
      | ok address => exact .after hfolders opens_openAddress

end Opening

end Workspace

end Daybook

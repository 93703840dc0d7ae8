import Daybook.Proofs.Store.Dotted
import Daybook.Proofs.Store.Order
import Daybook.Proofs.Store.Pattern
import Daybook.Store.Step

namespace Daybook

/-- Whether a row is selected by what stands between the blanks of a search text. -/
inductive Search.Picks (core : List Char) (row : Row) : Prop
  | all (hblank : core = [])
  | dated {d : Date} (hdotted : IsDotted core d) (hdate : row.date = d.compact)
  | containing (hsome : core ≠ []) (hundated : ∀ d, ¬ IsDotted core d)
      (hfound : Pattern.Contains row.title.toList core ∨ Pattern.Contains row.comment.toList core)

namespace Search

variable {text : String} {core : List Char} {row : Row} {d : Date}

private theorem ofText_of_isTrimmed (hcore : Text.IsTrimmed text.toList core) :
    ofText text = if core.isEmpty then .all else ((readDate? core).map .dated).getD (.containing core) := by
  unfold ofText
  rw [Text.trimChars_of_isTrimmed hcore]
  dsimp only
  cases readDate? core <;> rfl

theorem IsDotted.ne_nil (hdotted : IsDotted core d) : core ≠ [] := by
  obtain ⟨day, month, year, rfl, _⟩ := hdotted
  exact List.append_ne_nil_of_right_ne_nil _ (List.cons_ne_nil _ _)

private theorem ofText_of_isDotted (hcore : Text.IsTrimmed text.toList core) (hdotted : IsDotted core d) :
    ofText text = .dated d := by
  rw [ofText_of_isTrimmed hcore, List.isEmpty_eq_false_iff.mpr hdotted.ne_nil,
    readDate?_eq_some_iff.mpr hdotted]
  rfl

/-- A text with something between its blanks that is no date is looked for in titles and comments. -/
theorem ofText_of_not_isDotted (hcore : Text.IsTrimmed text.toList core) (hsome : core ≠ [])
    (hundated : ∀ d, ¬ IsDotted core d) : ofText text = .containing core := by
  have hnone : readDate? core = none := by
    rw [Option.eq_none_iff_forall_ne_some]
    intro d hread
    exact hundated d (readDate?_eq_some_iff.mp hread)
  rw [ofText_of_isTrimmed hcore, List.isEmpty_eq_false_iff.mpr hsome, hnone]
  rfl

private theorem picks_nil : Picks [] row :=
  .all rfl

private theorem picks_iff_of_isDotted (hdotted : IsDotted core d) : Picks core row ↔ row.date = d.compact := by
  constructor
  · intro hpicks
    cases hpicks with
    | all hblank => exact absurd hblank hdotted.ne_nil
    | dated hother hdate =>
      rw [← readDate?_eq_some_iff] at hdotted hother
      rw [hdotted] at hother
      cases hother
      exact hdate
    | containing _ hundated => exact absurd hdotted (hundated d)
  · intro hdate
    exact .dated hdotted hdate

private theorem picks_iff_of_not_isDotted (hsome : core ≠ []) (hundated : ∀ d, ¬ IsDotted core d) :
    Picks core row ↔ Pattern.Contains row.title.toList core ∨ Pattern.Contains row.comment.toList core := by
  constructor
  · intro hpicks
    cases hpicks with
    | all hblank => exact absurd hblank hsome
    | dated hdotted => exact absurd hdotted (hundated _)
    | containing _ _ hfound => exact hfound
  · intro hfound
    exact .containing hsome hundated hfound

end Search

namespace Store

/-- A store whose rows are told apart by their identifiers, and no more of them than 64 bits can count. -/
structure IsTable (store : Store) : Prop where
  unique : (store.rows.map Row.id).Nodup
  length_le : store.rows.length ≤ maxLimit

/-- Texts that patterns are compared with to their ends. -/
structure IsNulFree (store : Store) : Prop where
  title : ∀ row ∈ store.rows, '\x00' ∉ row.title.toList
  comment : ∀ row ∈ store.rows, '\x00' ∉ row.comment.toList

/-- The rows of a store that have a property, each once, in order. -/
structure Selection (store : Store) (P : Row → Prop) (rows : List Row) : Prop where
  mem_iff : ∀ row, row ∈ rows ↔ row ∈ store.rows ∧ P row
  ordered : rows.Pairwise Row.Precedes

/-- Whether a search text lists the rows that have a property, the first of them where there is a limit. -/
def Shows (store : Store) (text : String) (P : Row → Prop) : Prop :=
  ∃ selected, store.Selection P selected ∧
    ∀ limit, store.list limit text = .ok ((selected.take limit).map Row.toTask)

variable {store : Store} {text : String} {core : List Char} {P : Row → Prop}

private theorem length_le_of_ascending {rows : List Row} {low high : Int} (hle : low ≤ high)
    (hascending : rows.Pairwise fun row other => row.id.value < other.id.value)
    (hbounds : ∀ row ∈ rows, low < row.id.value ∧ row.id.value ≤ high) : (rows.length : Int) ≤ high - low := by
  induction rows generalizing low with
  | nil =>
    rw [List.length_nil]
    omega
  | cons row rows ih =>
    obtain ⟨hfirst, hascending⟩ := List.pairwise_cons.mp hascending
    obtain ⟨hrow, hbounds⟩ := List.forall_mem_cons.mp hbounds
    have hrest := ih hrow.2 hascending fun other hother => ⟨hfirst other hother, (hbounds other hother).2⟩
    rw [List.length_cons]
    omega

/-- As long as identifiers have 64 bits, a store that counts them is a table. -/
theorem Numbered.isTable (hstore : store.Numbered) (hlast : store.lastId ≤ maxLimit) : store.IsTable where
  unique := hstore.unique
  length_le := by
    have hlength := length_le_of_ascending (Int.natCast_nonneg store.lastId) hstore.ascending
      fun row hrow => ⟨hstore.positive row hrow, hstore.issued row hrow⟩
    omega

private theorem selection_inOrder (hstore : store.IsTable) {search : Search}
    (hselects : ∀ row ∈ store.rows, selects search row = true ↔ P row) :
    store.Selection P (inOrder (store.rows.filter (selects search))) := by
  constructor
  · intro row
    rw [(perm_inOrder _).mem_iff, List.mem_filter]
    exact and_congr_right fun hrow => hselects row hrow
  · apply pairwise_precedes
    exact hstore.unique.sublist (List.filter_sublist.map Row.id)

/-- No table has more rows than a listing can be limited to. -/
theorem list_of_selection (hstore : store.IsTable) {limit : Nat}
    (hfits : ¬ store.exceedsPattern limit (Search.ofText text) = true) :
    store.list limit text =
      .ok (((inOrder (store.rows.filter (selects (Search.ofText text)))).take limit).map Row.toTask) := by
  have hlength : (inOrder (store.rows.filter (selects (Search.ofText text)))).length ≤ maxLimit := by
    rw [(perm_inOrder _).length_eq]
    exact Nat.le_trans (List.length_filter_le _ _) hstore.length_le
  refine list_eq_ok_iff.mpr ⟨hfits, ?_⟩
  congr 1
  rw [List.take_eq_take_iff]
  omega

/-- A property that tells the selected rows apart is what a search text shows, unless its pattern is too long. -/
theorem shows_of_selects (hstore : store.IsTable)
    (hfits : ∀ limit, ¬ store.exceedsPattern limit (Search.ofText text) = true)
    (hselects : ∀ row ∈ store.rows, selects (Search.ofText text) row = true ↔ P row) : store.Shows text P :=
  ⟨_, selection_inOrder hstore hselects, fun limit => list_of_selection hstore (hfits limit)⟩

/-- A listing is not refused where the pattern has no more bytes than are allowed, whatever the limit is. -/
theorem not_exceedsPattern (hcore : Text.IsTrimmed text.toList core)
    (hbytes : Pattern.byteCount (Pattern.containing core) ≤ Pattern.maxBytes) (limit : Nat) :
    ¬ store.exceedsPattern limit (Search.ofText text) = true := by
  rw [Search.ofText_of_isTrimmed hcore]
  split
  · exact Bool.false_ne_true
  · cases Search.readDate? core with
    | some d => exact Bool.false_ne_true
    | none => simp [exceedsPattern, Nat.not_lt.mpr hbytes]

private theorem selects_ofText_iff (hcore : Text.IsTrimmed text.toList core) (hnul : '\x00' ∉ core) {row : Row}
    (htitle : '\x00' ∉ row.title.toList) (hcomment : '\x00' ∉ row.comment.toList) :
    selects (Search.ofText text) row = true ↔ Search.Picks core row := by
  by_cases hsome : core = []
  · subst hsome
    rw [Search.ofText_of_isTrimmed hcore]
    exact iff_of_true rfl Search.picks_nil
  · by_cases hdated : ∃ d, Search.IsDotted core d
    · obtain ⟨d, hdotted⟩ := hdated
      rw [Search.picks_iff_of_isDotted hdotted, Search.ofText_of_isDotted hcore hdotted]
      exact beq_iff_eq
    · rw [not_exists] at hdated
      rw [Search.picks_iff_of_not_isDotted hsome hdated, Search.ofText_of_not_isDotted hcore hsome hdated,
        ← Pattern.acceptsText_containing hnul htitle, ← Pattern.acceptsText_containing hnul hcomment]
      exact Bool.or_eq_true_iff

/-- A text that denotes a date between its blanks lists the rows of that date. -/
theorem shows_of_isDotted (hstore : store.IsTable) {d : Date} (hcore : Text.IsTrimmed text.toList core)
    (hdotted : Search.IsDotted core d) : store.Shows text fun row => row.date = d.compact := by
  have hsearch := Search.ofText_of_isDotted hcore hdotted
  apply shows_of_selects hstore
  · intro limit
    rw [hsearch]
    exact Bool.false_ne_true
  · intro row _
    rw [hsearch]
    exact beq_iff_eq

/-- Where a smaller limit is allowed as well as a larger one, this one only lists more after it. -/
theorem list_prefix {limit more : Nat} (hle : limit ≤ more) {tasks further : List Task}
    (hlist : store.list limit text = .ok tasks) (hmore : store.list more text = .ok further) :
    tasks <+: further := by
  obtain ⟨_, rfl⟩ := list_eq_ok_iff.mp hlist
  obtain ⟨_, rfl⟩ := list_eq_ok_iff.mp hmore
  apply List.IsPrefix.map
  exact List.take_prefix_take_left (by omega)

private theorem step_list (shelf : Shelf) (limit : Nat) (text : String) : (shelf.step (.list limit text)).1 = shelf := by
  unfold Shelf.step
  dsimp only
  split <;> rfl

/-- What a store lists. A text without NULs, unless it is too long, lists the rows that are picked by what
stands between its blanks: each of them once, in the order of the bytes of their dates and then of their
identifiers, the first of them where there is a limit. The dotted form of a date lists the rows of that date. No
listing changes the store, and a larger limit lists the same tasks first. -/
theorem list_selection (hstore : store.IsTable) :
    (store.IsNulFree → ∀ text core, Text.IsTrimmed text.toList core → '\x00' ∉ core →
      Pattern.byteCount (Pattern.containing core) ≤ Pattern.maxBytes → store.Shows text (Search.Picks core)) ∧
    (∀ (d : Date) (before after : List Char), (∀ c ∈ before, Text.isBlank c = true) →
      (∀ c ∈ after, Text.isBlank c = true) →
      store.Shows (String.ofList (before ++ d.dotted.toList ++ after)) fun row => row.date = d.compact) ∧
    (∀ inFile limit text, (Shelf.step ⟨inFile, store⟩ (.list limit text)).1 = ⟨inFile, store⟩) ∧
    ∀ text limit more tasks further, limit ≤ more → store.list limit text = .ok tasks →
      store.list more text = .ok further → tasks <+: further := by
  refine ⟨?_, ?_, ?_, ?_⟩
  · intro hfree text core hcore hnul hbytes
    apply shows_of_selects hstore (not_exceedsPattern hcore hbytes)
    intro row hrow
    exact selects_ofText_iff hcore hnul (hfree.title row hrow) (hfree.comment row hrow)
  · intro d before after hbefore hafter
    have hword := Date.isWord_dotted d
    refine shows_of_isDotted hstore ?_ (Date.isDotted_dotted d)
    rw [String.toList_ofList]
    exact { hword.isTrimmed with framed := ⟨before, after, rfl, hbefore, hafter⟩ }
  · intro inFile limit text
    exact step_list _ limit text
  · intro text limit more tasks further hle hlist hmore
    exact list_prefix hle hlist hmore

/-- A word in the title of one task and, in capitals, in the comment of another lists both, the earlier of them
first. -/
theorem list_selection_milk :
    ∃ store : Store, store.IsTable ∧ store.IsNulFree ∧ store.Shows " milk" (Search.Picks "milk".toList) ∧
      (store.Shows "\t02.01.2024 " fun row => row.date = "20240102") ∧
      store.list 1 " milk" = .ok [{ date := "20240101", title := "Buy milk", id := some ⟨2⟩ }] := by
  have hstore : ((empty.add { date := "20240102", title := "Gym", comment := "MILK shake" }).1.add
      { date := "20240101", title := "Buy milk" }).1.IsTable :=
    ((numbered_empty.add _).add _).isTable (by decide)
  have hfree : ((empty.add { date := "20240102", title := "Gym", comment := "MILK shake" }).1.add
      { date := "20240101", title := "Buy milk" }).1.IsNulFree :=
    ⟨by decide +kernel, by decide +kernel⟩
  have hcore : Text.IsTrimmed " milk".toList "milk".toList := by
    have htrimmed := Text.isTrimmed_trimChars " milk".toList
    rwa [show Text.trimChars " milk".toList = "milk".toList by decide +kernel] at htrimmed
  have htext : String.ofList (['\t'] ++ (Date.dotted ⟨2024, 1, 2, by decide⟩).toList ++ [' ']) =
      "\t02.01.2024 " := by decide +kernel
  have hdate : Date.compact ⟨2024, 1, 2, by decide⟩ = "20240102" := by decide +kernel
  obtain ⟨hshows, hdotted, _⟩ := list_selection hstore
  have hday := hdotted ⟨2024, 1, 2, by decide⟩ ['\t'] [' '] (List.forall_mem_singleton.mpr rfl)
    (List.forall_mem_singleton.mpr rfl)
  rw [htext, hdate] at hday
  exact ⟨_, hstore, hfree, hshows hfree _ _ hcore (by decide +kernel) (by decide +kernel), hday, by decide +kernel⟩

end Store

end Daybook

import Daybook.Proofs.Store.Selection

namespace Daybook

/-- Whether the title or the comment of a row has a text in it, before its first NUL. -/
def Row.Mentions (row : Row) (part : List Char) : Prop :=
  Pattern.Contains (Pattern.upToNul row.title.toList) part ∨
    Pattern.Contains (Pattern.upToNul row.comment.toList) part

namespace Search

/-- A date in full: two digits of the day, two of the month and four of the year. -/
def IsFullDate (cs : List Char) (d : Date) : Prop :=
  ∃ day month year, cs = day ++ '.' :: (month ++ '.' :: year) ∧
    (day.length = 2 ∧ month.length = 2 ∧ year.length = 4) ∧
    Text.AreDigits day d.day ∧ Text.AreDigits month d.month ∧ ∃ n : Nat, Text.AreDigits year n ∧ d.year = n

theorem IsFullDate.length_eq {cs : List Char} {d : Date} (hfull : IsFullDate cs d) : cs.length = 10 := by
  obtain ⟨day, month, year, rfl, ⟨hday, hmonth, hyear⟩, _⟩ := hfull
  simp only [List.length_append, List.length_cons, hday, hmonth, hyear]

private theorem IsFullDate.isDotted {cs : List Char} {d : Date} (hfull : IsFullDate cs d) : IsDotted cs d := by
  obtain ⟨day, month, year, rfl, ⟨hdayLength, hmonthLength, hyearLength⟩, hday, hmonth, n, hyear, hvalue⟩ := hfull
  refine ⟨day, month, year, rfl, ⟨[], day, rfl, nofun, hday, hdayLength.le⟩,
    ⟨[], month, rfl, nofun, hmonth, hmonthLength.le⟩, [], year, rfl, nofun, ?_, fun _ => hyearLength.le⟩
  rw [hvalue]
  exact .unsigned hyear

end Search

namespace Store

variable {store : Store} {text : String} {core : List Char}

/-- A listing tells which rows it is of. -/
theorem Shows.iff {P Q : Row → Prop} (hP : store.Shows text P) (hQ : store.Shows text Q) {row : Row}
    (hrow : row ∈ store.rows) : P row ↔ Q row := by
  obtain ⟨rows, hrows, hlistP⟩ := hP
  obtain ⟨others, hothers, hlistQ⟩ := hQ
  have hinjective : Function.Injective Row.toTask := by
    rintro ⟨content, id⟩ ⟨otherContent, otherId⟩ heq
    cases heq
    rfl
  have hsame : rows = others := by
    -- With a limit that neither reaches, both are listed whole.
    have hlist := (hlistP (max rows.length others.length)).symm.trans (hlistQ _)
    rw [List.take_of_length_le (Nat.le_max_left _ _), List.take_of_length_le (Nat.le_max_right _ _),
      Except.ok.injEq] at hlist
    exact List.map_injective_iff.mpr hinjective hlist
  subst hsame
  have hiff := (hrows.mem_iff row).symm.trans (hothers.mem_iff row)
  simpa only [hrow, true_and] using hiff

private theorem Shows.list_eq_nil {P : Row → Prop} (hshows : store.Shows text P) (hnone : ∀ row ∈ store.rows, ¬ P row)
    (limit : Nat) : store.list limit text = .ok [] := by
  obtain ⟨rows, hrows, hlist⟩ := hshows
  have hempty : rows = [] := by
    rw [List.eq_nil_iff_forall_not_mem]
    intro row hrow
    obtain ⟨hmem, hrow⟩ := (hrows.mem_iff row).mp hrow
    exact hnone row hmem hrow
  rw [hlist, hempty, List.take_nil, List.map_nil]

/-- A text that denotes no date lists the rows that mention it. -/
theorem shows_of_not_isDotted (hstore : store.IsTable) (hcore : Text.IsTrimmed text.toList core) (hsome : core ≠ [])
    (hnul : '\x00' ∉ core) (hbytes : Pattern.byteCount (Pattern.containing core) ≤ Pattern.maxBytes)
    (hundated : ∀ d, ¬ Search.IsDotted core d) : store.Shows text fun row => row.Mentions core := by
  apply shows_of_selects hstore (not_exceedsPattern hcore hbytes)
  intro row _
  rw [Search.ofText_of_not_isDotted hcore hsome hundated, Row.Mentions,
    ← Pattern.acceptsText_containing_iff hnul, ← Pattern.acceptsText_containing_iff hnul]
  exact Bool.or_eq_true_iff

/-- Where a text denotes a date, a row without one is not listed, though the text be its title. -/
theorem not_shows_mentions (hcore : Text.IsTrimmed text.toList core) (hnul : '\x00' ∉ core) {d : Date}
    (hdotted : Search.IsDotted core d) :
    ∃ store : Store, store.IsTable ∧ ¬ store.Shows text fun row => row.Mentions core := by
  have hstore : (empty.add { title := String.ofList core }).1.IsTable :=
    (numbered_empty.add _).isTable (show 1 ≤ maxLimit by decide)
  refine ⟨_, hstore, fun hshows => ?_⟩
  have hmentions : Row.Mentions { title := String.ofList core, id := ⟨1⟩ } core := by
    refine .inl ⟨[], core, [], ?_, List.forall₂_same.mpr fun _ _ => .inl rfl⟩
    rw [String.toList_ofList, Pattern.upToNul_eq_self hnul, List.nil_append, List.append_nil]
  have hdate := ((shows_of_isDotted hstore hcore hdotted).iff hshows (List.mem_singleton.mpr rfl)).mpr hmentions
  have hblank := Date.allBlank_compact d
  rw [← hdate] at hblank
  cases hblank

/-- Which texts are looked for in titles and comments. A text of at most 20000 bytes without NULs lists the rows
that mention it exactly if it denotes no date, and the rows of the date that it denotes otherwise, which it does
when it is a date in full, but not only then. Rows without NULs mention what their title or comment contains. -/
theorem shows_mentions_iff (hcore : Text.IsTrimmed text.toList core) (hsome : core ≠ []) (hnul : '\x00' ∉ core)
    (hbytes : Pattern.byteCount core ≤ 20000) :
    ((∀ store : Store, store.IsTable → store.Shows text fun row => row.Mentions core) ↔
      ∀ d, ¬ Search.IsDotted core d) ∧
    (∀ d, Search.IsDotted core d → ∀ store : Store, store.IsTable →
      store.Shows text fun row => row.date = d.compact) ∧
    (∀ d, Search.IsFullDate core d → Search.IsDotted core d) ∧
    ∀ row : Row, '\x00' ∉ row.title.toList → '\x00' ∉ row.comment.toList →
      (row.Mentions core ↔ Pattern.Contains row.title.toList core ∨ Pattern.Contains row.comment.toList core) := by
  refine ⟨⟨?_, ?_⟩, ?_, fun d => Search.IsFullDate.isDotted, ?_⟩
  · intro hshows d hdotted
    obtain ⟨store, hstore, hother⟩ := not_shows_mentions hcore hnul hdotted
    exact hother (hshows store hstore)
  · intro hundated store hstore
    have hpattern : Pattern.byteCount (Pattern.containing core) ≤ Pattern.maxBytes := by
      have hle := Pattern.byteCount_containing_le core
      have hmax : Pattern.maxBytes = 50000 := rfl
      omega
    exact shows_of_not_isDotted hstore hcore hsome hnul hpattern hundated
  · intro d hdotted store hstore
    exact shows_of_isDotted hstore hcore hdotted
  · intro row htitle hcomment
    rw [Row.Mentions, Pattern.upToNul_eq_self htitle, Pattern.upToNul_eq_self hcomment]

/-- A task about section 1.2.3 is not found by that number, which is no date in full: it denotes February 1 of the
year 3. -/
theorem section_not_shown :
    ∃ store : Store, store.IsTable ∧ store.IsNulFree ∧ Text.IsTrimmed "1.2.3".toList "1.2.3".toList ∧
      '\x00' ∉ "1.2.3".toList ∧ Pattern.byteCount "1.2.3".toList ≤ 20000 ∧
      (¬ ∃ d, Search.IsFullDate "1.2.3".toList d) ∧
      (∃ row ∈ store.rows, Pattern.Contains row.title.toList "1.2.3".toList) ∧
      ∀ limit, store.list limit "1.2.3" = .ok [] := by
  have hstore : (empty.add { date := "20240101", title := "Read section 1.2.3" }).1.IsTable :=
    (numbered_empty.add _).isTable (by decide)
  have hcore : Text.IsTrimmed "1.2.3".toList "1.2.3".toList := by
    have htrimmed := Text.isTrimmed_trimChars "1.2.3".toList
    rwa [show Text.trimChars "1.2.3".toList = "1.2.3".toList by decide +kernel] at htrimmed
  have hdotted : Search.IsDotted "1.2.3".toList ⟨3, 2, 1, by decide⟩ :=
    Search.readDate?_eq_some_iff.mp (by decide +kernel)
  have hcontains : Pattern.Contains "Read section 1.2.3".toList "1.2.3".toList :=
    ⟨"Read section ".toList, "1.2.3".toList, [], by decide +kernel, List.forall₂_same.mpr fun _ _ => .inl rfl⟩
  refine ⟨_, hstore, ⟨by decide +kernel, by decide +kernel⟩, hcore, by decide +kernel, by decide +kernel, ?_,
    ⟨_, List.mem_singleton.mpr rfl, hcontains⟩, ?_⟩
  · rintro ⟨d, hfull⟩
    exact absurd hfull.length_eq (by decide +kernel)
  · intro limit
    apply (shows_of_isDotted hstore hcore hdotted).list_eq_nil
    exact List.forall_mem_singleton.mpr (by decide +kernel)

/-- One more number makes the text one that denotes no date. -/
theorem shows_mentions_iff_section :
    (∀ d, ¬ Search.IsDotted "1.2.3.4".toList d) ∧
      ∀ store : Store, store.IsTable → store.Shows " 1.2.3.4" fun row => row.Mentions "1.2.3.4".toList := by
  have hcore : Text.IsTrimmed " 1.2.3.4".toList "1.2.3.4".toList := by
    have htrimmed := Text.isTrimmed_trimChars " 1.2.3.4".toList
    rwa [show Text.trimChars " 1.2.3.4".toList = "1.2.3.4".toList by decide +kernel] at htrimmed
  have hundated : ∀ d, ¬ Search.IsDotted "1.2.3.4".toList d := by
    intro d hdotted
    have hread := Search.readDate?_eq_some_iff.mpr hdotted
    rw [show Search.readDate? "1.2.3.4".toList = none by decide +kernel] at hread
    cases hread
  have hlisted := shows_mentions_iff hcore (by decide +kernel) (by decide +kernel) (by decide +kernel)
  exact ⟨hundated, hlisted.1.mpr hundated⟩

end Store

end Daybook

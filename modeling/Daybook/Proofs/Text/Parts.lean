import Daybook.Text.Blank
import Mathlib.Data.List.DropRight
import Mathlib.Data.List.TakeWhile

namespace Daybook.Text

/-- A core with blanks before and after it makes up the text, and begins and ends with none. -/
structure IsTrimmed (text core : List Char) : Prop where
  framed : ∃ before after, text = before ++ core ++ after ∧
    (∀ c ∈ before, isBlank c = true) ∧ ∀ c ∈ after, isBlank c = true
  starts : ∀ c ∈ core.head?, isBlank c = false
  ends : ∀ c ∈ core.getLast?, isBlank c = false

theorem dropWhile_eq_self_of_head? {cs : List Char} (hstarts : ∀ c ∈ cs.head?, isBlank c = false) :
    cs.dropWhile isBlank = cs := by
  cases cs with
  | nil => rfl
  | cons c cs =>
    rw [List.dropWhile_cons_of_neg]
    simp [hstarts c rfl]

/-- Dropping the blanks at both ends leaves the core of a text. -/
theorem isTrimmed_trimChars (text : List Char) : IsTrimmed text (trimChars text) := by
  have hfront := List.takeWhile_append_dropWhile (p := isBlank) (l := text)
  have hback := List.rdropWhile_append_rtakeWhile (p := isBlank) (l := text.dropWhile isBlank)
  refine ⟨⟨text.takeWhile isBlank, (text.dropWhile isBlank).rtakeWhile isBlank, ?_, ?_, ?_⟩, ?_, ?_⟩
  · rw [List.append_assoc]
    change text = _ ++ (List.rdropWhile isBlank (text.dropWhile isBlank) ++ _)
    rw [hback, hfront]
  · intro c hc
    exact List.mem_takeWhile_imp hc
  · intro c hc
    exact List.mem_rtakeWhile_imp hc
  · intro c hc
    have hhead : (text.dropWhile isBlank).head? = some c := by
      change (List.rdropWhile isBlank (text.dropWhile isBlank)).head? = some c at hc
      rw [← hback, List.head?_append, hc]
      rfl
    have hne : text.dropWhile isBlank ≠ [] := by
      intro hnil
      rw [hnil] at hhead
      cases hhead
    rw [List.head?_eq_some_head hne, Option.some_inj] at hhead
    rw [← hhead]
    exact List.head_dropWhile_not isBlank hne
  · intro c hc
    have hne : trimChars text ≠ [] := by
      intro hnil
      rw [hnil] at hc
      cases hc
    rw [List.getLast?_eq_some_getLast hne, Option.mem_def, Option.some_inj] at hc
    rw [← hc, ← Bool.not_eq_true]
    exact List.rdropWhile_last_not isBlank (text.dropWhile isBlank) hne

/-- A text has one core, the one that is left without the blanks. -/
theorem trimChars_of_isTrimmed {text core : List Char} (htrimmed : IsTrimmed text core) :
    trimChars text = core := by
  obtain ⟨⟨before, after, rfl, hbefore, hafter⟩, hstarts, hends⟩ := htrimmed
  have hends' : ∀ c ∈ core.reverse.head?, isBlank c = false := by
    simpa only [List.head?_reverse] using hends
  rw [trimChars, List.append_assoc, List.dropWhile_append_of_pos hbefore]
  cases core with
  | nil =>
    rw [List.nil_append, List.dropWhile_eq_nil_iff.mpr hafter]
    rfl
  | cons c core =>
    rw [List.cons_append, List.dropWhile_cons_of_neg (by simp [hstarts c rfl]), ← List.cons_append,
      List.reverse_append, List.dropWhile_append_of_pos (by simpa using hafter),
      dropWhile_eq_self_of_head? hends', List.reverse_reverse]

/-- A text with something left between its blanks is not blank. -/
theorem allBlank_of_isTrimmed {text : String} {core : List Char}
    (htrimmed : IsTrimmed text.toList core) (hcore : core ≠ []) : allBlank text = false := by
  obtain ⟨c, rest, rfl⟩ := List.exists_cons_of_ne_nil hcore
  obtain ⟨before, after, htext, _⟩ := htrimmed.framed
  rw [allBlank, List.all_eq_false]
  refine ⟨c, ?_, by simp [htrimmed.starts c rfl]⟩
  rw [htext]
  simp

/-- Nothing is left of a text that has only blanks. -/
theorem isTrimmed_nil {text : String} (hblank : allBlank text = true) : IsTrimmed text.toList [] where
  framed := ⟨text.toList, [], by simp, List.all_eq_true.mp hblank, nofun⟩
  starts := nofun
  ends := nofun

private theorem isTrimmed_self {cs : List Char} (hstarts : ∀ c ∈ cs.head?, isBlank c = false)
    (hends : ∀ c ∈ cs.getLast?, isBlank c = false) : IsTrimmed cs cs where
  framed := ⟨[], [], by simp, by simp, by simp⟩
  starts := hstarts
  ends := hends

/-- A word is not empty and has no blank in it. -/
structure IsWord (cs : List Char) : Prop where
  ne_nil : cs ≠ []
  solid : ∀ c ∈ cs, isBlank c = false

/-- A word is its own core. -/
theorem IsWord.isTrimmed {cs : List Char} (hword : IsWord cs) : IsTrimmed cs cs :=
  isTrimmed_self (fun c hc => hword.solid c (List.mem_of_mem_head? hc))
    fun c hc => hword.solid c (List.mem_of_getLast? hc)

theorem intercalate_ne_nil {separator : List Char} {words : List (List Char)} (hne : words ≠ [])
    (hwords : ∀ word ∈ words, IsWord word) : separator.intercalate words ≠ [] := by
  obtain ⟨word, words, rfl⟩ := List.exists_cons_of_ne_nil hne
  have hword := (hwords word List.mem_cons_self).ne_nil
  cases words <;> simp [hword]

/-- Words with something between each two are trimmed as a whole. -/
theorem isTrimmed_intercalate {separator : List Char} {words : List (List Char)}
    (hwords : ∀ word ∈ words, IsWord word) :
    IsTrimmed (separator.intercalate words) (separator.intercalate words) := by
  induction words with
  | nil => exact isTrimmed_self nofun nofun
  | cons word words ih =>
    obtain ⟨hword, hrest⟩ := List.forall_mem_cons.mp hwords
    cases words with
    | nil =>
      rw [List.intercalate_singleton]
      exact hword.isTrimmed
    | cons next words =>
      rw [List.intercalate_cons_cons]
      refine isTrimmed_self (fun c hc => ?_) fun c hc => ?_
      · rw [List.append_assoc, List.head?_append_of_ne_nil _ hword.ne_nil] at hc
        exact hword.isTrimmed.starts c hc
      · rw [List.getLast?_append_of_ne_nil _ (intercalate_ne_nil (List.cons_ne_nil _ _) hrest)] at hc
        exact (ih hrest).ends c hc

/-- Words with something other than blanks between each two are one word. -/
theorem isWord_intercalate {separator : List Char} {words : List (List Char)} (hne : words ≠ [])
    (hseparator : ∀ c ∈ separator, isBlank c = false) (hwords : ∀ word ∈ words, IsWord word) :
    IsWord (separator.intercalate words) where
  ne_nil := intercalate_ne_nil hne hwords
  solid := by
    clear hne
    induction words with
    | nil => exact nofun
    | cons word words ih =>
      obtain ⟨hword, hrest⟩ := List.forall_mem_cons.mp hwords
      cases words with
      | nil =>
        rw [List.intercalate_singleton]
        exact hword.solid
      | cons next words =>
        rw [List.intercalate_cons_cons]
        exact List.forall_mem_append.mpr
          ⟨List.forall_mem_append.mpr ⟨hword.solid, hseparator⟩, ih hrest⟩

/-- Parts without separators in them make up the text with a separator between each two. -/
structure IsSplit (separator : Char) (text : List Char) (parts : List (List Char)) : Prop where
  ne_nil : parts ≠ []
  free : ∀ part ∈ parts, separator ∉ part
  joined : [separator].intercalate parts = text

private theorem not_mem_of_mem_splitOn {separator : Char} {text part : List Char}
    (hpart : part ∈ text.splitOn separator) : separator ∉ part := by
  induction text generalizing part with
  | nil =>
    rw [List.mem_singleton.mp hpart]
    exact List.not_mem_nil
  | cons c text ih =>
    obtain ⟨first, others, hsplit⟩ := List.exists_cons_of_ne_nil (List.splitOn_ne_nil separator text)
    rw [hsplit] at ih
    rw [List.splitOn_cons_eq_if_modifyHead, hsplit] at hpart
    split at hpart
    · rcases List.mem_cons.mp hpart with rfl | hpart
      · exact List.not_mem_nil
      · exact ih hpart
    · rename_i hc
      rcases List.mem_cons.mp hpart with rfl | hpart
      · rw [List.mem_cons, not_or]
        exact ⟨fun h => hc (beq_iff_eq.mpr h.symm), ih List.mem_cons_self⟩
      · exact ih (List.mem_cons_of_mem first hpart)

/-- Splitting a text gives its parts and nothing else. -/
theorem splitOn_eq_iff {separator : Char} {text : List Char} {parts : List (List Char)} :
    text.splitOn separator = parts ↔ IsSplit separator text parts := by
  constructor
  · rintro rfl
    exact ⟨List.splitOn_ne_nil separator text, fun _ => not_mem_of_mem_splitOn,
      List.intercalate_splitOn separator⟩
  · rintro ⟨hne, hfree, rfl⟩
    exact List.splitOn_intercalate separator hfree hne

end Daybook.Text

import Daybook.Store.Pattern
import Mathlib.Data.List.Forall2
import Mathlib.Data.List.TakeWhile
import Mathlib.Tactic.Common

namespace Daybook.Pattern

section Characters

variable {c d : Char}

/-- The replacement character and the two noncharacters that are taken for it. -/
def IsReplacement (c : Char) : Prop :=
  c = '\uFFFD' ∨ c = '\uFFFE' ∨ c = '\uFFFF'

/-- Characters that are told apart by nothing but the case of an ASCII letter. -/
def Alike (c d : Char) : Prop :=
  c.toLower = d.toLower ∨ IsReplacement c ∧ IsReplacement d

/-- Nothing outside ASCII changes its case, or comes of a change of case. -/
theorem toLower_eq_iff (hc : 128 ≤ c.toNat) : d.toLower = c ↔ d = c := by
  unfold Char.toLower
  split
  · rename_i hupper
    have hlow : d.toNat ≤ 90 := UInt32.le_iff_toNat_le.mp hupper.2
    refine iff_of_false ?_ ?_
    · intro heq
      have hvalue : (d.val + ('a'.val - 'A'.val)).toNat = c.toNat := congrArg Char.toNat heq
      rw [UInt32.toNat_add] at hvalue
      change (d.toNat + 32) % 2 ^ 32 = c.toNat at hvalue
      omega
    · rintro rfl
      omega
  · exact Iff.rfl

private theorem IsReplacement.le_toNat (hc : IsReplacement c) : 128 ≤ c.toNat := by
  obtain rfl | rfl | rfl := hc <;> decide

private theorem fold_eq_replacement_iff : fold c = '\uFFFD' ↔ IsReplacement c := by
  unfold fold IsReplacement
  split
  · rename_i hother
    exact iff_of_true rfl (.inr hother)
  · rename_i hother
    rw [toLower_eq_iff (by decide)]
    simp only [hother, or_false]

private theorem fold_of_not_isReplacement (hc : ¬ IsReplacement c) : fold c = c.toLower :=
  if_neg fun hother => hc (.inr hother)

private theorem isReplacement_of_toLower_eq (hc : IsReplacement c) (heq : c.toLower = d.toLower) : IsReplacement d := by
  have hkept := (toLower_eq_iff hc.le_toNat).mpr rfl
  rw [hkept, eq_comm, toLower_eq_iff hc.le_toNat] at heq
  rwa [heq]

private theorem sameChar_iff : sameChar c d = true ↔ Alike c d := by
  rw [sameChar, beq_iff_eq]
  by_cases hc : IsReplacement c
  · rw [fold_eq_replacement_iff.mpr hc, eq_comm, fold_eq_replacement_iff]
    constructor
    · intro hd
      exact .inr ⟨hc, hd⟩
    · rintro (heq | ⟨_, hd⟩)
      · exact isReplacement_of_toLower_eq hc heq
      · exact hd
  · by_cases hd : IsReplacement d
    · rw [fold_eq_replacement_iff.mpr hd, fold_eq_replacement_iff]
      refine iff_of_false hc ?_
      rintro (heq | ⟨hc', _⟩)
      · exact hc (isReplacement_of_toLower_eq hd heq.symm)
      · exact hc hc'
    · rw [fold_of_not_isReplacement hc, fold_of_not_isReplacement hd, Alike]
      simp only [hc, false_and, or_false]

end Characters

/-- A text with a part in it that is like another text, character by character. -/
def Contains (text part : List Char) : Prop :=
  ∃ before middle after, text = before ++ middle ++ after ∧ List.Forall₂ Alike part middle

variable {pattern text part rest : List Char}

private theorem mem_suffixes : rest ∈ suffixes text ↔ rest <:+ text := by
  induction text with
  | nil => rw [suffixes, List.mem_singleton, List.suffix_nil]
  | cons c text ih => rw [suffixes, List.mem_cons, List.suffix_cons_iff, ih]

/-- What a pattern stands for, where `same` says which characters of it stand for which: `%` for any run of
characters, `_` for any one of them, and every other character for the same one. A character after a backslash is
no wildcard. -/
inductive Matches (same : Char → Char → Prop) : List Char → List Char → Prop
  | nil : Matches same [] []
  | skip {pattern text : List Char} (hrest : Matches same pattern text) : Matches same ('%' :: pattern) text
  | extend {c : Char} {pattern text : List Char} (hrest : Matches same ('%' :: pattern) text) :
      Matches same ('%' :: pattern) (c :: text)
  | any {c : Char} {pattern text : List Char} (hrest : Matches same pattern text) :
      Matches same ('_' :: pattern) (c :: text)
  | escaped {c d : Char} {pattern text : List Char} (hsame : same c d) (hrest : Matches same pattern text) :
      Matches same ('\\' :: c :: pattern) (d :: text)
  | plain {c d : Char} {pattern text : List Char} (hplain : ¬ (c = '%' ∨ c = '_' ∨ c = '\\')) (hsame : same c d)
      (hrest : Matches same pattern text) : Matches same (c :: pattern) (d :: text)

section Matching

variable {same other : Char → Char → Prop}

private theorem matches_nil : Matches same [] text ↔ text = [] := by
  constructor
  · rintro ⟨⟩
    rfl
  · rintro rfl
    exact .nil

/-- A percent sign passes over any beginning of the text. -/
theorem matches_percent :
    Matches same ('%' :: pattern) text ↔ ∃ rest, rest <:+ text ∧ Matches same pattern rest := by
  induction text with
  | nil =>
    constructor
    · intro hmatches
      cases hmatches with
      | skip hrest => exact ⟨[], List.suffix_rfl, hrest⟩
    · rintro ⟨rest, hsuffix, hrest⟩
      rw [List.suffix_nil.mp hsuffix] at hrest
      exact .skip hrest
  | cons c text ih =>
    constructor
    · intro hmatches
      cases hmatches with
      | skip hrest => exact ⟨_, List.suffix_rfl, hrest⟩
      | extend hrest =>
        obtain ⟨rest, hsuffix, hrest⟩ := ih.mp hrest
        exact ⟨rest, List.suffix_cons_iff.mpr (.inr hsuffix), hrest⟩
      | plain hplain => exact absurd (.inl rfl) hplain
    · rintro ⟨rest, hsuffix, hrest⟩
      obtain rfl | hsuffix := List.suffix_cons_iff.mp hsuffix
      · exact .skip hrest
      · exact .extend (ih.mpr ⟨rest, hsuffix, hrest⟩)

private theorem matches_underscore :
    Matches same ('_' :: pattern) text ↔ ∃ d rest, text = d :: rest ∧ Matches same pattern rest := by
  constructor
  · intro hmatches
    cases hmatches with
    | any hrest => exact ⟨_, _, rfl, hrest⟩
    | plain hplain => exact absurd (.inr (.inl rfl)) hplain
  · rintro ⟨d, rest, rfl, hrest⟩
    exact .any hrest

/-- A character after a backslash stands for itself, even a wildcard or a backslash. -/
theorem matches_backslash {c : Char} :
    Matches same ('\\' :: c :: pattern) text ↔
      ∃ d rest, text = d :: rest ∧ same c d ∧ Matches same pattern rest := by
  constructor
  · intro hmatches
    cases hmatches with
    | escaped hsame hrest => exact ⟨_, _, rfl, hsame, hrest⟩
    | plain hplain => exact absurd (.inr (.inr rfl)) hplain
  · rintro ⟨d, rest, rfl, hsame, hrest⟩
    exact .escaped hsame hrest

private theorem matches_plain {c : Char} (hplain : ¬ (c = '%' ∨ c = '_' ∨ c = '\\')) :
    Matches same (c :: pattern) text ↔
      ∃ d rest, text = d :: rest ∧ same c d ∧ Matches same pattern rest := by
  constructor
  · intro hmatches
    cases hmatches with
    | plain _ hsame hrest => exact ⟨_, _, rfl, hsame, hrest⟩
    | skip | extend | any | escaped => simp at hplain
  · rintro ⟨d, rest, rfl, hsame, hrest⟩
    exact .plain hplain hsame hrest

/-- A backslash at the end of a pattern stands for nothing. -/
theorem not_matches_backslash : ¬ Matches same ['\\'] text := by
  intro hmatches
  cases hmatches with
  | plain hplain => exact hplain (.inr (.inr rfl))

private theorem escape_cons (c : Char) (part : List Char) : escape (c :: part) = escape [c] ++ escape part := by
  simp only [escape, List.flatMap_cons, List.flatMap_nil, List.append_nil]

/-- Escaped, a character stands for itself: it has a backslash before it, or needs none. -/
theorem matches_escape_singleton {c : Char} :
    Matches same (escape [c] ++ pattern) text ↔
      ∃ d rest, text = d :: rest ∧ same c d ∧ Matches same pattern rest := by
  have hescape : escape [c] = if c = '%' ∨ c = '_' ∨ c = '\\' then ['\\', c] else [c] := List.append_nil _
  rw [hescape]
  split
  · exact matches_backslash
  · rename_i hplain
    exact matches_plain hplain

/-- Escaped, a text stands for itself, whatever comes after it in a pattern. -/
theorem matches_escape :
    Matches same (escape part ++ pattern) text ↔
      ∃ front rest, text = front ++ rest ∧ List.Forall₂ same part front ∧ Matches same pattern rest := by
  induction part generalizing text with
  | nil => simp [escape]
  | cons c part ih =>
    simp only [escape_cons c part, List.append_assoc, matches_escape_singleton, ih, List.forall₂_cons_left_iff]
    constructor
    · rintro ⟨d, _, rfl, hd, front, rest, rfl, hfront, hrest⟩
      exact ⟨d :: front, rest, rfl, ⟨d, front, hd, hfront, rfl⟩, hrest⟩
    · rintro ⟨_, rest, rfl, ⟨d, front, hd, hfront, rfl⟩, hrest⟩
      exact ⟨d, _, rfl, hd, front, rest, rfl, hfront, hrest⟩

/-- The pattern for a part matches exactly the texts in which the part stands somewhere, up to the sameness of
characters. -/
theorem matches_containing :
    Matches same (containing part) text ↔ ∃ middle, middle <:+: text ∧ List.Forall₂ same part middle := by
  have hend : ∀ rest, Matches same ['%'] rest := by
    intro rest
    exact matches_percent.mpr ⟨[], List.nil_suffix, .nil⟩
  rw [containing, List.cons_append, matches_percent]
  simp only [matches_escape, hend, and_true]
  constructor
  · rintro ⟨_, hsuffix, middle, after, rfl, hmiddle⟩
    exact ⟨middle, (List.prefix_append middle after).isInfix.trans hsuffix.isInfix, hmiddle⟩
  · rintro ⟨middle, ⟨before, after, rfl⟩, hmiddle⟩
    exact ⟨middle ++ after, ⟨before, (List.append_assoc _ _ _).symm⟩, middle, after, rfl, hmiddle⟩

/-- Only what the characters of the pattern stand for in the text matters. -/
theorem Matches.imp (hmatches : Matches same pattern text)
    (himp : ∀ c ∈ pattern, ∀ d ∈ text, same c d → other c d) : Matches other pattern text := by
  induction hmatches with
  | nil => exact .nil
  | skip _ ih => exact .skip (ih fun c hc => himp c (List.mem_cons_of_mem _ hc))
  | extend _ ih => exact .extend (ih fun c hc d hd => himp c hc d (List.mem_cons_of_mem _ hd))
  | any _ ih =>
    exact .any (ih fun c hc d hd => himp c (List.mem_cons_of_mem _ hc) d (List.mem_cons_of_mem _ hd))
  | escaped hsame _ ih =>
    refine .escaped (himp _ (by simp) _ List.mem_cons_self hsame) (ih fun c hc d hd => ?_)
    exact himp c (by simp [hc]) d (List.mem_cons_of_mem _ hd)
  | plain hplain hsame _ ih =>
    refine .plain hplain (himp _ List.mem_cons_self _ List.mem_cons_self hsame) (ih fun c hc d hd => ?_)
    exact himp c (List.mem_cons_of_mem _ hc) d (List.mem_cons_of_mem _ hd)

end Matching

private theorem not_wildcard {c : Char} (hpercent : c ≠ '%') (hunderscore : c ≠ '_') (hlast : c = '\\' → pattern ≠ [])
    (hescape : ∀ d rest, c = '\\' → pattern ≠ d :: rest) : ¬ (c = '%' ∨ c = '_' ∨ c = '\\') := by
  rintro (rfl | rfl | rfl)
  · exact hpercent rfl
  · exact hunderscore rfl
  · cases pattern with
    | nil => exact hlast rfl rfl
    | cons d rest => exact hescape d rest rfl rfl

/-- A pattern is tried on a text by what it stands for. -/
theorem accepts_iff_matches : accepts pattern text = true ↔ Matches Alike pattern text := by
  fun_induction accepts pattern text with
  | case1 text => rw [List.isEmpty_iff, matches_nil]
  | case2 pattern text ih => simp only [List.any_eq_true, mem_suffixes, ih, matches_percent]
  | case3 pattern => simp [matches_underscore]
  | case4 pattern d rest ih => simp [matches_underscore, ih]
  | case5 text => exact iff_of_false Bool.false_ne_true not_matches_backslash
  | case6 c pattern => simp [matches_backslash]
  | case7 c pattern d rest ih => simp [matches_backslash, sameChar_iff, ih]
  | case8 c pattern hpercent hunderscore hlast hescape =>
    simp [matches_plain (not_wildcard hpercent hunderscore hlast hescape)]
  | case9 c pattern hpercent hunderscore hlast hescape d rest ih =>
    simp [matches_plain (not_wildcard hpercent hunderscore hlast hescape), sameChar_iff, ih]

private theorem accepts_containing : accepts (containing part) text = true ↔ Contains text part := by
  rw [accepts_iff_matches, matches_containing]
  constructor
  · rintro ⟨middle, ⟨before, after, rfl⟩, hmiddle⟩
    exact ⟨before, middle, after, rfl, hmiddle⟩
  · rintro ⟨before, middle, after, rfl, hmiddle⟩
    exact ⟨middle, ⟨before, after, rfl⟩, hmiddle⟩

private theorem mem_escape {d : Char} (hd : d ∈ escape part) : d ∈ part ∨ d = '\\' := by
  obtain ⟨c, hc, hd⟩ := List.mem_flatMap.mp hd
  split at hd
  · obtain rfl | hd := List.mem_cons.mp hd
    · exact .inr rfl
    · rw [List.mem_singleton.mp hd]
      exact .inl hc
  · rw [List.mem_singleton.mp hd]
    exact .inl hc

private theorem not_mem_containing {d : Char} (hpercent : d ≠ '%') (hbackslash : d ≠ '\\') (hpart : d ∉ part) :
    d ∉ containing part := by
  intro hd
  simp only [containing, List.mem_append, List.mem_cons, List.not_mem_nil, or_false, hpercent, false_or] at hd
  exact (mem_escape hd).elim hpart hbackslash

private theorem foldl_utf8Size (cs : List Char) (n : Nat) :
    cs.foldl (fun bytes c => bytes + c.utf8Size) n = n + byteCount cs := by
  induction cs generalizing n with
  | nil => rfl
  | cons c cs ih =>
    rw [byteCount, List.foldl_cons, List.foldl_cons, ih, ih]
    omega

private theorem byteCount_cons (c : Char) (cs : List Char) : byteCount (c :: cs) = c.utf8Size + byteCount cs := by
  rw [byteCount, List.foldl_cons, foldl_utf8Size, Nat.zero_add]

private theorem byteCount_append (front rest : List Char) : byteCount (front ++ rest) = byteCount front + byteCount rest := by
  rw [byteCount, List.foldl_append, foldl_utf8Size, ← byteCount]

/-- Escaped, a character takes one byte more at most. -/
theorem byteCount_escape_singleton_le (c : Char) : byteCount (escape [c]) ≤ 2 * c.utf8Size := by
  have hpos := c.utf8Size_pos
  have hbackslash : '\\'.utf8Size = 1 := rfl
  have hnil : byteCount [] = 0 := rfl
  rw [escape, List.flatMap_singleton]
  split <;> simp only [byteCount_cons] <;> omega

private theorem byteCount_escape_le (part : List Char) : byteCount (escape part) ≤ 2 * byteCount part := by
  induction part with
  | nil => exact Nat.le_refl 0
  | cons c part ih =>
    have hone := byteCount_escape_singleton_le c
    rw [escape_cons, byteCount_append, byteCount_cons]
    omega

/-- A part of a text takes at most twice its bytes in a pattern, and two more. -/
theorem byteCount_containing_le (part : List Char) : byteCount (containing part) ≤ 2 * byteCount part + 2 := by
  have hpercent : '%'.utf8Size = 1 := rfl
  have hnil : byteCount [] = 0 := rfl
  have hescape := byteCount_escape_le part
  rw [containing, List.cons_append, byteCount_cons, byteCount_append, byteCount_cons]
  omega

theorem upToNul_eq_self (hfree : '\x00' ∉ text) : upToNul text = text := by
  refine List.takeWhile_eq_self_iff.mpr fun c hc => ?_
  rw [bne_iff_ne]
  rintro rfl
  exact hfree hc

/-- A text without NULs is found exactly where a text contains it before its first NUL. -/
theorem acceptsText_containing_iff {text : String} (hpart : '\x00' ∉ part) :
    acceptsText (containing part) text = true ↔ Contains (upToNul text.toList) part := by
  rw [acceptsText, upToNul_eq_self (not_mem_containing (by decide) (by decide) hpart), accepts_containing]

/-- Without NULs, a text is found exactly where it is contained. -/
theorem acceptsText_containing {text : String} (hpart : '\x00' ∉ part) (htext : '\x00' ∉ text.toList) :
    acceptsText (containing part) text = true ↔ Contains text.toList part := by
  rw [acceptsText_containing_iff hpart, upToNul_eq_self htext]

/-- Characters that are the same but for the case of an ASCII letter. -/
def SameLetter (c d : Char) : Prop :=
  c.toLower = d.toLower

instance : DecidableRel SameLetter :=
  fun _ _ => inferInstanceAs (Decidable (_ = _))

/-- A text without the noncharacters that are taken for the replacement character. -/
structure IsDistinct (cs : List Char) : Prop where
  lower : '\uFFFE' ∉ cs
  upper : '\uFFFF' ∉ cs

private theorem IsDistinct.containing (hpart : IsDistinct part) : IsDistinct (containing part) where
  lower := not_mem_containing (by decide) (by decide) hpart.lower
  upper := not_mem_containing (by decide) (by decide) hpart.upper

private theorem IsDistinct.eq_of_isReplacement (htext : IsDistinct text) {c : Char} (hc : c ∈ text)
    (hreplaced : IsReplacement c) : c = '\uFFFD' := by
  obtain rfl | rfl | rfl := hreplaced
  · rfl
  · exact absurd hc htext.lower
  · exact absurd hc htext.upper

/-- Without the noncharacters, only the case of ASCII letters is passed over. -/
theorem matches_alike_iff (hpattern : IsDistinct pattern) (htext : IsDistinct text) :
    Matches Alike pattern text ↔ Matches SameLetter pattern text := by
  constructor
  · intro hmatches
    refine hmatches.imp fun c hc d hd halike => ?_
    obtain hsame | ⟨hreplacedc, hreplacedd⟩ := halike
    · exact hsame
    · rw [hpattern.eq_of_isReplacement hc hreplacedc, htext.eq_of_isReplacement hd hreplacedd]
      rfl
  · intro hmatches
    exact hmatches.imp fun _ _ _ _ hsame => .inl hsame

/-- Texts are searched for literally. The pattern for the texts that contain a text stands for exactly these, the
case of ASCII letters aside, and wherever there are wildcards and backslashes in the text, none of them acts as
one, whatever comes after it in a pattern. Texts without NULs are tried by what patterns stand for, save that the
noncharacters U+FFFE and U+FFFF are taken for the replacement character. -/
theorem containing_literal :
    (∀ part text, Matches SameLetter (containing part) text ↔
      ∃ middle, middle <:+: text ∧ List.Forall₂ SameLetter part middle) ∧
    (∀ part pattern text, Matches SameLetter (escape part ++ pattern) text ↔
      ∃ front rest, text = front ++ rest ∧ List.Forall₂ SameLetter part front ∧
        Matches SameLetter pattern rest) ∧
    (∀ pattern (text : String), '\x00' ∉ pattern → '\x00' ∉ text.toList →
      (acceptsText pattern text = true ↔ Matches Alike pattern text.toList)) ∧
    ∀ part (text : String), '\x00' ∉ part → '\x00' ∉ text.toList → IsDistinct part → IsDistinct text.toList →
      (acceptsText (containing part) text = true ↔
        ∃ middle, middle <:+: text.toList ∧ List.Forall₂ SameLetter part middle) := by
  have haccepts : ∀ pattern (text : String), '\x00' ∉ pattern → '\x00' ∉ text.toList →
      (acceptsText pattern text = true ↔ Matches Alike pattern text.toList) := by
    intro pattern text hpattern htext
    rw [acceptsText, upToNul_eq_self hpattern, upToNul_eq_self htext, accepts_iff_matches]
  refine ⟨fun _ _ => matches_containing, fun _ _ _ => matches_escape, haccepts, ?_⟩
  intro part text hpart htext hdistinct hdistinctText
  rw [haccepts _ _ (not_mem_containing (by decide) (by decide) hpart) htext,
    matches_alike_iff hdistinct.containing hdistinctText, matches_containing]

/-- A percent sign and a backslash at the end are found where they stand, and the percent sign is not found where
there is nothing. -/
theorem containing_literal_percent :
    acceptsText (containing "off 50%\\".toList) "30 OFF 50%\\ now" = true ∧
      acceptsText (containing "off 50%\\".toList) "off 50" = false := by
  obtain ⟨_, _, _, hfound⟩ := containing_literal
  have hiff (text : String) (htext : '\x00' ∉ text.toList) (hdistinct : IsDistinct text.toList) :=
    hfound "off 50%\\".toList text (by decide +kernel) htext ⟨by decide +kernel, by decide +kernel⟩ hdistinct
  constructor
  · rw [hiff _ (by decide +kernel) ⟨by decide +kernel, by decide +kernel⟩]
    exact ⟨"OFF 50%\\".toList, by decide +kernel, by decide +kernel⟩
  · rw [← Bool.not_eq_true, hiff _ (by decide +kernel) ⟨by decide +kernel, by decide +kernel⟩]
    rintro ⟨middle, hinfix, hsame⟩
    exact absurd (hsame.length_eq.trans_le hinfix.length_le) (by decide +kernel)

end Daybook.Pattern

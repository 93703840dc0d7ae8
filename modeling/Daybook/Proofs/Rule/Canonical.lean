import Daybook.Proofs.Json.Strings
import Daybook.Proofs.Rule.WellFormed
import Daybook.Proofs.Text.Digits
import Daybook.Task.Written

namespace Daybook

namespace Text

private theorem comma_not_mem_intChars (n : Int) : ',' ∉ intChars n := by
  intro hcomma
  rcases mem_intChars hcomma with heq | hdigit
  · exact absurd heq (by decide)
  · exact absurd hdigit (by decide)

end Text

namespace Rule

open Text (intChars natChars)

section Lists

variable {field : Field} {values : List Int}

private theorem isSplit_listChars (hvalues : values ≠ []) :
    Text.IsSplit ',' (listChars values) (values.map intChars) where
  ne_nil := by simpa using hvalues
  free item hitem := by
    obtain ⟨n, _, rfl⟩ := List.mem_map.mp hitem
    exact Text.comma_not_mem_intChars n
  joined := rfl

private theorem isWord_listChars (hvalues : values ≠ []) : Text.IsWord (listChars values) := by
  refine Text.isWord_intercalate (by simpa using hvalues)
    (List.forall_mem_singleton.mpr rfl) fun item hitem => ?_
  obtain ⟨n, _, rfl⟩ := List.mem_map.mp hitem
  exact (Text.isLiteral_intChars n).isWord

/-- An integer of a domain is denoted by the text in which it is written. -/
theorem denotes_intChars {n : Int} (hdomain : field.Domain n) : Denotes (intChars n) n := by
  have hbounds := bounds_of_domain hdomain
  exact ⟨intChars n, (Text.isLiteral_intChars n).isWord.isTrimmed, Text.isLiteral_intChars n, by omega, by omega⟩

variable (hdomain : ∀ n ∈ values, field.Domain n)

include hdomain

private theorem fits_written : ∀ e ∈ (values.map intChars).map (field, ·), Fits e.1 e.2 := by
  intro e he
  obtain ⟨_, hitem, rfl⟩ := List.mem_map.mp he
  obtain ⟨n, hn, rfl⟩ := List.mem_map.mp hitem
  exact ⟨n, denotes_intChars (hdomain n hn), hdomain n hn⟩

/-- Written items denote the numbers that they are written of. -/
theorem exists_denotes_written {n : Int} :
    (∃ item ∈ values.map intChars, Denotes item n) ↔ n ∈ values := by
  constructor
  · rintro ⟨_, hitem, hn⟩
    obtain ⟨m, hm, rfl⟩ := List.mem_map.mp hitem
    rwa [hn.unique (denotes_intChars (hdomain m hm))]
  · intro hn
    exact ⟨intChars n, List.mem_map_of_mem hn, denotes_intChars (hdomain n hn)⟩

end Lists

section Tokens

/-- The tokens of the canonical text of a rule. -/
def tokens : Rule → List (List Char)
  | .annual => [['y']]
  | .interval days => [['d'], natChars days]
  | .weekly weekdays => [['w'], listChars (weekdays.toList.map Int.ofNat)]
  | .monthly days months =>
    ['m'] :: listChars days.entries ::
      if months.isEmpty then [] else [listChars (months.toList.map Int.ofNat)]

/-- The shape of the canonical text of a rule. -/
def shape : Rule → Shape
  | .annual => .annual
  | .interval days => .interval (natChars days)
  | .weekly weekdays => .weekly ((weekdays.toList.map Int.ofNat).map intChars)
  | .monthly days months =>
    .monthly (days.entries.map intChars)
      (if months.isEmpty then none else some ((months.toList.map Int.ofNat).map intChars))

private theorem natChars_eq_intChars (n : Nat) : natChars n = intChars n := by
  simp [intChars]

private theorem intercalate_tokens (rule : Rule) : [' '].intercalate rule.tokens = rule.chars := by
  cases rule with
  | monthly days months =>
    simp only [tokens, chars]
    split <;> simp
  | _ => simp [tokens, chars]

private theorem toList_ne_nil {s : NumberSet} (hs : ¬ s.isEmpty = true) : s.toList ≠ [] := by
  simpa [NumberSet.isEmpty] using hs

private theorem isWord_letter {c : Char} (hc : Text.isBlank c = false) : Text.IsWord [c] where
  ne_nil := List.cons_ne_nil c []
  solid := by simpa using hc

variable {rule : Rule} (hrule : rule.WellFormed)

include hrule

private theorem isWord_of_mem_tokens : ∀ token ∈ rule.tokens, Text.IsWord token := by
  cases rule with
  | annual => exact List.forall_mem_singleton.mpr (isWord_letter rfl)
  | interval days =>
    rw [tokens, natChars_eq_intChars]
    exact List.forall_mem_cons.mpr ⟨isWord_letter rfl,
      List.forall_mem_singleton.mpr (Text.isLiteral_intChars days).isWord⟩
  | weekly weekdays =>
    exact List.forall_mem_cons.mpr ⟨isWord_letter rfl,
      List.forall_mem_singleton.mpr (isWord_listChars (by simpa using hrule.1))⟩
  | monthly days months =>
    refine List.forall_mem_cons.mpr ⟨isWord_letter rfl, List.forall_mem_cons.mpr
      ⟨isWord_listChars hrule.1, ?_⟩⟩
    split
    · exact List.forall_mem_nil _
    · rename_i hmonths
      exact List.forall_mem_singleton.mpr (isWord_listChars (by simpa using toList_ne_nil hmonths))

/-- A written rule has its own tokens between single blanks, and no others. -/
theorem isSplit_chars : Text.IsSplit ' ' rule.chars rule.tokens where
  ne_nil := by cases rule <;> simp [tokens]
  free token htoken hspace := absurd ((isWord_of_mem_tokens hrule token htoken).solid ' ' hspace) (by decide)
  joined := intercalate_tokens rule

private theorem isTrimmed_text : Text.IsTrimmed rule.text.toList rule.chars := by
  rw [text, String.toList_ofList, ← intercalate_tokens]
  exact Text.isTrimmed_intercalate (isWord_of_mem_tokens hrule)

private theorem chars_ne_nil : rule.chars ≠ [] := by
  rw [← intercalate_tokens]
  exact Text.intercalate_ne_nil (isSplit_chars hrule).ne_nil (isWord_of_mem_tokens hrule)

/-- The tokens of a well-formed rule have the shape that is written. -/
theorem hasShape_tokens : HasShape rule.tokens rule.shape := by
  cases rule with
  | annual => exact .annual
  | interval days => exact .interval _
  | weekly weekdays => exact .weekly (isSplit_listChars (by simpa using hrule.1))
  | monthly days months =>
    have hdays := isSplit_listChars hrule.1
    simp only [tokens, shape]
    split
    · exact .monthly hdays
    · rename_i hmonths
      exact .monthlyIn hdays (isSplit_listChars (by simpa using toList_ne_nil hmonths))

end Tokens

section Members

private theorem mem_ofNats {s : NumberSet} {k : Nat} : (k : Int) ∈ s.toList.map Int.ofNat ↔ k ∈ s.toList :=
  List.mem_map_of_injective fun _ _ => Int.ofNat.inj

private theorem domain_ofNats {field : Field} {s : NumberSet}
    (hdomain : ∀ k ∈ s.toList, field.Domain (k : Int)) :
    ∀ n ∈ s.toList.map Int.ofNat, field.Domain n := by
  intro n hn
  obtain ⟨k, hk, rfl⟩ := List.mem_map.mp hn
  exact hdomain k hk

private theorem pairwise_ofNats (s : NumberSet) : (s.toList.map Int.ofNat).Pairwise (· < ·) := by
  rw [List.pairwise_map]
  exact s.ascending.imp fun hlt => Int.ofNat_lt.mpr hlt

/-- The entries of a monthly rule are its days from the start and, negated, those from the end. -/
theorem mem_entries {days : MonthDays} {n : Int} :
    n ∈ days.entries ↔
      (∃ k ∈ days.fromEnd.toList, -(k : Int) = n) ∨ ∃ k ∈ days.days.toList, (k : Int) = n := by
  simp [MonthDays.entries]

private theorem domain_interval {days : Nat} (hrule : (Rule.interval days).WellFormed) :
    Field.interval.Domain (days : Int) := by
  obtain ⟨hpos, hle⟩ := hrule
  have hmax : maxInterval = 400 := rfl
  simp only [Field.Domain]
  omega

private theorem domain_weekdays {weekdays : NumberSet} (hrule : (Rule.weekly weekdays).WellFormed) :
    ∀ n ∈ weekdays.toList.map Int.ofNat, Field.weekday.Domain n := by
  refine domain_ofNats fun k hk => ?_
  have hbounds := hrule.2 k hk
  simp only [Field.Domain]
  omega

variable {days : MonthDays} {months : NumberSet} (hrule : (Rule.monthly days months).WellFormed)

include hrule

private theorem domain_entries : ∀ n ∈ days.entries, Field.monthDay.Domain n := by
  obtain ⟨_, hdays, hfromEnd, _⟩ := hrule
  intro n hn
  simp only [Field.Domain]
  rcases mem_entries.mp hn with ⟨k, hk, rfl⟩ | ⟨k, hk, rfl⟩
  · have hbounds := hfromEnd k hk
    omega
  · have hbounds := hdays k hk
    omega

private theorem domain_months : ∀ n ∈ months.toList.map Int.ofNat, Field.month.Domain n := by
  obtain ⟨_, _, _, hmonths⟩ := hrule
  refine domain_ofNats fun k hk => ?_
  have hbounds := hmonths k hk
  simp only [Field.Domain]
  omega

private theorem natCast_mem_entries {k : Nat} : (k : Int) ∈ days.entries ↔ k ∈ days.days.toList := by
  obtain ⟨_, _, hfromEnd, _⟩ := hrule
  rw [mem_entries]
  constructor
  · rintro (⟨j, hj, heq⟩ | ⟨j, hj, heq⟩)
    · have hbounds := hfromEnd j hj
      omega
    · rwa [← Int.natCast_inj.mp heq]
  · intro hk
    exact .inr ⟨k, hk, rfl⟩

private theorem neg_natCast_mem_entries {k : Nat} : -(k : Int) ∈ days.entries ↔ k ∈ days.fromEnd.toList := by
  obtain ⟨_, hdays, _⟩ := hrule
  rw [mem_entries]
  constructor
  · rintro (⟨j, hj, heq⟩ | ⟨j, hj, heq⟩)
    · rwa [← Int.natCast_inj.mp (Int.neg_inj.mp heq)]
    · have hbounds := hdays j hj
      omega
  · intro hk
    exact .inl ⟨k, hk, rfl⟩

/-- The days from the end of the month come first, the last day last among them. -/
theorem pairwise_entries : days.entries.Pairwise (· < ·) := by
  obtain ⟨_, hdays, _⟩ := hrule
  refine List.pairwise_append.mpr ⟨?_, pairwise_ofNats days.days, fun n hn m hm => ?_⟩
  · rw [List.pairwise_map, List.pairwise_reverse]
    exact days.fromEnd.ascending.imp fun hlt => Int.neg_lt_neg (Int.ofNat_lt.mpr hlt)
  · obtain ⟨k, _, rfl⟩ := List.mem_map.mp hn
    obtain ⟨j, hj, rfl⟩ := List.mem_map.mp hm
    have hbounds := hdays j hj
    simp only [Int.ofNat_eq_natCast]
    omega

end Members

section Reread

variable {rule : Rule} (hrule : rule.WellFormed)

include hrule

private theorem fits_shape : ∀ e ∈ rule.shape.items, Fits e.1 e.2 := by
  cases rule with
  | annual => exact List.forall_mem_nil _
  | interval days =>
    rw [shape, natChars_eq_intChars]
    exact List.forall_mem_singleton.mpr ⟨days, denotes_intChars (domain_interval hrule), domain_interval hrule⟩
  | weekly weekdays => exact fits_written (domain_weekdays hrule)
  | monthly days months =>
    refine List.forall_mem_append.mpr ⟨fits_written (domain_entries hrule), ?_⟩
    split
    · exact List.forall_mem_nil _
    · exact fits_written (domain_months hrule)

/-- The shape that is written describes the rule it is written of. -/
theorem describes_shape : rule.shape.Describes rule := by
  cases rule with
  | annual => trivial
  | interval days =>
    rw [shape, natChars_eq_intChars]
    exact denotes_intChars (domain_interval hrule)
  | weekly weekdays =>
    refine ⟨hrule.1, fun k => ?_⟩
    rw [exists_denotes_written (domain_weekdays hrule), mem_ofNats]
  | monthly days months =>
    refine ⟨entries_ne_nil_iff.mp hrule.1, fun k => ?_, fun k => ?_, fun k => ?_⟩
    · rw [exists_denotes_written (domain_entries hrule), natCast_mem_entries hrule]
    · rw [exists_denotes_written (domain_entries hrule), neg_natCast_mem_entries hrule]
    · split
      · rename_i hmonths
        simp only [NumberSet.isEmpty, List.isEmpty_iff] at hmonths
        simp [hmonths]
      · rw [Option.getD_some, exists_denotes_written (domain_months hrule), mem_ofNats]

/-- A well-formed rule is read again from its canonical text. -/
theorem read_text : read rule.text = .ok rule :=
  read_of_verdict (.rule (isTrimmed_text hrule) (chars_ne_nil hrule) (isSplit_chars hrule)
    (hasShape_tokens hrule) (fits_shape hrule) (describes_shape hrule))

end Reread

section Sameness

/-- A text has a shape if its tokens have it. -/
def Shaped (text : String) (shape : Shape) : Prop :=
  ∃ core tokens, Text.IsTrimmed text.toList core ∧ core ≠ [] ∧ Text.IsSplit ' ' core tokens ∧
    HasShape tokens shape

/-- The tokens alone tell the shape, for any items in them. -/
theorem HasShape.unique {tokens : List (List Char)} {shape other : Shape} (hshape : HasShape tokens shape)
    (hother : HasShape tokens other) : shape = other := by
  have hsplit {list : List Char} {items others : List (List Char)} (hitems : Text.IsSplit ',' list items)
      (hothers : Text.IsSplit ',' list others) : items = others :=
    (Text.splitOn_eq_iff.mpr hitems).symm.trans (Text.splitOn_eq_iff.mpr hothers)
  cases hshape <;> cases hother <;> grind

/-- A text has one shape at most. -/
theorem Shaped.unique {text : String} {shape other : Shape} (hshape : Shaped text shape)
    (hother : Shaped text other) : shape = other := by
  obtain ⟨core, tokens, htrimmed, _, htokens, hshape⟩ := hshape
  obtain ⟨otherCore, otherTokens, hotherTrimmed, _, hotherTokens, hother⟩ := hother
  cases (Text.trimChars_of_isTrimmed htrimmed).symm.trans (Text.trimChars_of_isTrimmed hotherTrimmed)
  cases (Text.splitOn_eq_iff.mpr htokens).symm.trans (Text.splitOn_eq_iff.mpr hotherTokens)
  exact hshape.unique hother

/-- Lists of items denote the same numbers, in whatever order, form and number of times. -/
def SameNumbers (items others : List (List Char)) : Prop :=
  ∀ n, (∃ item ∈ items, Denotes item n) ↔ ∃ item ∈ others, Denotes item n

/-- Shapes of one kind whose lists denote the same numbers. -/
def Shape.Agrees : Shape → Shape → Prop
  | .annual, .annual => True
  | .interval item, .interval other => SameNumbers [item] [other]
  | .weekly items, .weekly others => SameNumbers items others
  | .monthly items months, .monthly others otherMonths =>
    SameNumbers items others ∧ SameNumbers (months.getD []) (otherMonths.getD [])
  | _, _ => False

/-- Lists that give one set of numbers from zero on, and nothing below zero, denote the same. -/
theorem sameNumbers_of_members {field : Field} {items others : List (List Char)} {s : NumberSet}
    (hpos : ∀ n, field.Domain n → 0 ≤ n)
    (hfits : ∀ e ∈ items.map (field, ·), Fits e.1 e.2) (hothers : ∀ e ∈ others.map (field, ·), Fits e.1 e.2)
    (hitems : ∀ k : Nat, k ∈ s.toList ↔ ∃ item ∈ items, Denotes item k)
    (hother : ∀ k : Nat, k ∈ s.toList ↔ ∃ item ∈ others, Denotes item k) : SameNumbers items others := by
  intro n
  by_cases hn : 0 ≤ n
  · obtain ⟨k, rfl⟩ := Int.eq_ofNat_of_zero_le hn
    exact (hitems k).symm.trans (hother k)
  · exact iff_of_false (fun h => hn (hpos n (domain_of_denotes hfits h)))
      fun h => hn (hpos n (domain_of_denotes hothers h))

variable {shape other : Shape} {rule otherRule : Rule}

/-- What a shape describes, every shape that agrees with it describes too. -/
theorem Shape.Agrees.describes (hagrees : shape.Agrees other) (hother : other.Describes rule) :
    shape.Describes rule := by
  cases shape <;> cases other <;> try exact hagrees.elim
  · exact hother
  · rename_i item other
    cases rule <;> try exact hother.elim
    rename_i days
    obtain ⟨found, hfound, hdays⟩ := (hagrees days).mpr ⟨other, List.mem_singleton_self other, hother⟩
    rwa [List.mem_singleton.mp hfound] at hdays
  · cases rule <;> try exact hother.elim
    exact ⟨hother.1, fun k => (hother.2 k).trans (hagrees k).symm⟩
  · cases rule <;> try exact hother.elim
    obtain ⟨hnonempty, hdays, hfromEnd, hmonths⟩ := hother
    obtain ⟨hsame, hsameMonths⟩ := hagrees
    exact ⟨hnonempty, fun k => (hdays k).trans (hsame k).symm, fun k => (hfromEnd k).trans (hsame _).symm,
      fun k => (hmonths k).trans (hsameMonths k).symm⟩

/-- Shapes that describe one rule agree, once all their items are within their domains. -/
theorem Shape.Describes.agrees (hshape : shape.Describes rule) (hother : other.Describes rule)
    (hfits : ∀ e ∈ shape.items, Fits e.1 e.2) (hothers : ∀ e ∈ other.items, Fits e.1 e.2) :
    shape.Agrees other := by
  cases shape <;> cases rule <;> (try exact hshape.elim) <;> cases other <;> try exact hother.elim
  · trivial
  · intro n
    simp only [List.mem_singleton, exists_eq_left]
    constructor
    · intro hn
      rwa [hn.unique hshape]
    · intro hn
      rwa [hn.unique hother]
  · exact sameNumbers_of_members (fun n hn => by simp only [Field.Domain] at hn; omega) hfits hothers
      hshape.2 hother.2
  · obtain ⟨_, hdays, hfromEnd, hmonths⟩ := hshape
    obtain ⟨_, hotherDays, hotherFromEnd, hotherMonths⟩ := hother
    obtain ⟨_, hmonthItems⟩ := List.forall_mem_append.mp hfits
    obtain ⟨_, hotherMonthItems⟩ := List.forall_mem_append.mp hothers
    refine ⟨fun n => ?_, sameNumbers_of_members (fun n hn => by simp only [Field.Domain] at hn; omega)
      hmonthItems hotherMonthItems hmonths hotherMonths⟩
    rcases Int.eq_nat_or_neg n with ⟨k, rfl | rfl⟩
    · exact (hdays k).symm.trans (hotherDays k)
    · exact (hfromEnd k).symm.trans (hotherFromEnd k)

end Sameness

section Codec

def Shape.lists : Shape → List (List (List Char))
  | .annual => []
  | .interval _ => []
  | .weekly items => [items]
  | .monthly items months => items :: months.toList

def Shape.monthList? : Shape → Option (List (List Char))
  | .monthly _ months => months
  | _ => none

/-- Items that are integers, as they are written, in ascending order without repetition. -/
def Ascending (items : List (List Char)) : Prop :=
  ∃ values : List Int, items = values.map intChars ∧ values.Pairwise (· < ·)

/-- A reader of rules and a writer of them that is canonical for it: what is read is read again from
what is written of it, which is then written the same, and two rules that are read are the same if
the same is written of them. -/
structure IsCodec {ε : Type} (read : String → Except ε Rule) (write : Rule → String) : Prop where
  reread : ∀ {text rule}, read text = .ok rule → read (write rule) = .ok rule
  rewritten : ∀ {text rule}, read text = .ok rule → (read (write rule)).map write = .ok (write rule)
  same_iff : ∀ {text other rule otherRule}, read text = .ok rule → read other = .ok otherRule →
    (rule = otherRule ↔ write rule = write otherRule)

private theorem IsCodec.of_reread {ε : Type} {read : String → Except ε Rule} {write : Rule → String}
    (hreread : ∀ {text rule}, read text = .ok rule → read (write rule) = .ok rule) : IsCodec read write where
  reread := hreread
  rewritten hread := by rw [hreread hread]; rfl
  same_iff hread hother := by
    refine ⟨fun heq => by rw [heq], fun heq => ?_⟩
    have hsame := (hreread hread).symm.trans (heq ▸ hreread hother)
    exact Except.ok.inj hsame

/-- The canonical text tells rules apart and is read back as the rule. -/
theorem isCodec_text : IsCodec read text :=
  .of_reread fun hread => read_text (wellFormed_of_read hread)

/-- A text is read from its JSON string as it is read by itself. -/
theorem ofJson_str (text : String) : ofJson (Json.str text).compact = (read text).mapError .refused := by
  have hstring := Json.string?_quotedChars text []
  rw [List.append_nil] at hstring
  have hspace : Json.skipSpace (Json.quotedChars text) = Json.quotedChars text := rfl
  simp only [ofJson, Json.compact, Json.chars, String.toList_ofList, hspace, hstring]
  change (do let rule ← (read text).mapError Json.Error.refused; .ok rule) = _
  cases read text <;> rfl

private theorem exists_read_of_ofJson {json : String} {rule : Rule} (hjson : ofJson json = .ok rule) :
    ∃ text, read text = .ok rule := by
  obtain ⟨⟨text, rest⟩, _, hrest⟩ := bind_eq_ok_iff.mp hjson
  obtain ⟨found, hread, hfound⟩ := bind_eq_ok_iff.mp hrest
  split at hfound
  · cases hfound
    exact ⟨text, mapError_eq_ok_iff.mp hread⟩
  · cases hfound

private theorem isCodec_json : IsCodec ofJson fun rule => rule.toJson.compact := by
  refine .of_reread fun hjson => ?_
  obtain ⟨text, hread⟩ := exists_read_of_ofJson hjson
  rw [toJson, ofJson_str, isCodec_text.reread hread]
  rfl

private theorem shaped_text {rule : Rule} (hrule : rule.WellFormed) : Shaped rule.text rule.shape :=
  ⟨rule.chars, rule.tokens, isTrimmed_text hrule, chars_ne_nil hrule, isSplit_chars hrule, hasShape_tokens hrule⟩

/-- All lists of a canonical text ascend, that of the months included. -/
theorem ascending_lists {rule : Rule} (hrule : rule.WellFormed) : ∀ list ∈ rule.shape.lists, Ascending list := by
  cases rule with
  | annual => exact List.forall_mem_nil _
  | interval days => exact List.forall_mem_nil _
  | weekly weekdays => exact List.forall_mem_singleton.mpr ⟨_, rfl, pairwise_ofNats weekdays⟩
  | monthly days months =>
    refine List.forall_mem_cons.mpr ⟨⟨_, rfl, pairwise_entries hrule⟩, ?_⟩
    split
    · exact List.forall_mem_nil _
    · exact List.forall_mem_singleton.mpr ⟨_, rfl, pairwise_ofNats months⟩

/-- Every text that is read as a rule has a shape, whose items are all within their domains. -/
theorem exists_shaped_of_read {text : String} {rule : Rule} (hread : read text = .ok rule) :
    ∃ shape, Shaped text shape ∧ (∀ e ∈ shape.items, Fits e.1 e.2) ∧ shape.Describes rule := by
  have hverdict := verdict_read text
  rw [hread] at hverdict
  cases hverdict with
  | rule htrimmed hcore htokens hshape hfits hdescribed =>
    exact ⟨_, ⟨_, _, htrimmed, hcore, htokens, hshape⟩, hfits, hdescribed⟩

private theorem monthList?_eq_none_iff {text : String} {shape : Shape} {rule : Rule} (hshape : Shaped text shape)
    (hfits : ∀ e ∈ shape.items, Fits e.1 e.2) (hdescribed : shape.Describes rule) :
    rule.shape.monthList? = none ↔ shape.monthList? = none := by
  obtain ⟨core, tokens, _, _, _, hshape⟩ := hshape
  cases rule with
  | monthly days inMonths =>
    cases hshape with
    | monthly hitems =>
      have hinMonths : inMonths.toList = [] := by
        simpa [List.eq_nil_iff_forall_not_mem] using hdescribed.2.2.2
      simp [Rule.shape, Shape.monthList?, NumberSet.isEmpty, hinMonths]
    | monthlyIn hitems hmonths =>
      obtain ⟨item, others, rfl⟩ := List.exists_cons_of_ne_nil hmonths.ne_nil
      obtain ⟨n, hn, hpos, hle⟩ := hfits (.month, item) (by simp [Shape.items])
      obtain ⟨k, rfl⟩ := Int.eq_ofNat_of_zero_le (by omega : 0 ≤ n)
      have hinMonths := List.ne_nil_of_mem ((hdescribed.2.2.2 k).mpr ⟨item, List.mem_cons_self, hn⟩)
      simp [Rule.shape, Shape.monthList?, NumberSet.isEmpty, hinMonths]
    | _ => exact hdescribed.elim
  | _ => cases hshape <;> first | exact Iff.rfl | exact hdescribed.elim

/-- The text of a rule is canonical: plain and as JSON, what is read is read again from it, and rules are
the same if their texts are. Texts of the same numbers, in whatever order, form and number of times, have
one canonical text, in which every list ascends and months are left out where none were given. -/
theorem text_canonical :
    IsCodec read text ∧ IsCodec ofJson (fun rule => rule.toJson.compact) ∧
      (∀ text, ofJson (Json.str text).compact = (read text).mapError .refused) ∧
      (∀ text other rule otherRule, read text = .ok rule → read other = .ok otherRule →
        ∃ shape otherShape, Shaped text shape ∧ Shaped other otherShape ∧
          (rule.text = otherRule.text ↔ shape.Agrees otherShape)) ∧
      ∀ text rule, read text = .ok rule → ∃ given canonical, Shaped text given ∧ Shaped rule.text canonical ∧
        (∀ list ∈ canonical.lists, Ascending list) ∧ (canonical.monthList? = none ↔ given.monthList? = none) := by
  refine ⟨isCodec_text, isCodec_json, ofJson_str, fun text other rule otherRule hread hother => ?_,
    fun text rule hread => ?_⟩
  · obtain ⟨shape, hshape, hfits, hdescribed⟩ := exists_shaped_of_read hread
    obtain ⟨otherShape, hotherShape, hothers, hotherDescribed⟩ := exists_shaped_of_read hother
    refine ⟨shape, otherShape, hshape, hotherShape, ?_⟩
    rw [← isCodec_text.same_iff hread hother]
    constructor
    · rintro rfl
      exact hdescribed.agrees hotherDescribed hfits hothers
    · intro hagrees
      exact hdescribed.unique (hagrees.describes hotherDescribed)
  · obtain ⟨given, hgiven, hfits, hdescribed⟩ := exists_shaped_of_read hread
    have hrule := wellFormed_of_read hread
    exact ⟨given, rule.shape, hgiven, shaped_text hrule, ascending_lists hrule,
      monthList?_eq_none_iff hgiven hfits hdescribed⟩

/-- Items that denote one day are written once, and days from the end of the month before those from its start. -/
theorem text_canonical_monthDays :
    ∃ rule, read "m 15,-1,+01,-2,1" = .ok rule ∧ rule.text = "m -2,-1,1,15" ∧ read rule.text = .ok rule := by
  have hread : read "m 15,-1,+01,-2,1" =
      .ok (.monthly ⟨⟨[1, 15], by decide⟩, ⟨[1, 2], by decide⟩⟩ ∅) := by decide +kernel
  exact ⟨_, hread, by decide +kernel, text_canonical.1.reread hread⟩

end Codec

end Rule

end Daybook

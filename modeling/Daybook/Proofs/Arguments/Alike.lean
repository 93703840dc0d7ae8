import Daybook.Arguments.Read
import Daybook.Proofs.Lookup
import Mathlib.Data.List.Forall2

namespace Daybook

open Arguments (Setting)

namespace Arguments

/-- Readings that stop for one reason or give related results, unless one of them is refused. -/
inductive Agree {α β : Type} (R : α → β → Prop) : Except Stop α → Except Stop β → Prop
  | refusedLeft (y : Except Stop β) : Agree R (.error .refused) y
  | refusedRight (x : Except Stop α) : Agree R x (.error .refused)
  | stopped (stop : Stop) : Agree R (.error stop) (.error stop)
  | read {a : α} {b : β} (hread : R a b) : Agree R (.ok a) (.ok b)

namespace Agree

variable {α β γ δ : Type} {R : α → β → Prop} {S : γ → δ → Prop} {x : Except Stop α} {y : Except Stop β}

/-- Readings that agree still agree after steps that do on all results so related. Nothing is required where one
of them is refused. -/
theorem bind {f : α → Except Stop γ} {g : β → Except Stop δ} (hxy : Agree R x y)
    (hfg : ∀ a b, R a b → Agree S (f a) (g b)) : Agree S (x >>= f) (y >>= g) := by
  cases hxy with
  | refusedLeft => exact .refusedLeft _
  | refusedRight => exact .refusedRight _
  | stopped stop => exact .stopped stop
  | read hread => exact hfg _ _ hread

end Agree

namespace Scan

/-- The option whose value is still to come. -/
def pending? (scan : Scan) : Option Setting :=
  match scan.held with
  | some (setting, none) => some setting
  | _ => none

/-- The options that have their values, settled or not. -/
def taken (scan : Scan) : List (Setting × String) :=
  match scan.held with
  | some (setting, some value) => (setting, value) :: scan.given
  | _ => scan.given

/-- The scan with all options settled that have their values. -/
def settled (scan : Scan) : Scan :=
  { scan with given := scan.taken, held := none }

/-- Scans that have read the same but for options that are free. -/
structure Alike (free : List Setting) (closed : Bool) (scan other : Scan) : Prop where
  level : scan.level = other.level
  operand : scan.operand = other.operand
  closed_left : scan.closed = closed
  closed_right : other.closed = closed
  pending : scan.pending? = other.pending?
  taken : (scan.taken.filter fun entry => entry.1 ∉ free) = other.taken.filter fun entry => entry.1 ∉ free

/-- Levels that were read to their ends and give the same but for options that are free. -/
structure Same (free : List Setting) (scan other : Scan) : Prop where
  level : scan.level = other.level
  operand : scan.operand = other.operand
  value : ∀ setting ∉ free, scan.value? setting = other.value? setting

variable {free : List Setting} {closed : Bool} {scan other : Scan} {setting : Setting}

/-- Every scan is alike itself, whichever options are free. -/
theorem Alike.refl (scan : Scan) : Alike free scan.closed scan scan :=
  ⟨rfl, rfl, rfl, rfl, rfl, rfl⟩

/-- Being alike goes both ways. -/
theorem Alike.symm (halike : Alike free closed scan other) : Alike free closed other scan :=
  ⟨halike.level.symm, halike.operand.symm, halike.closed_right, halike.closed_left, halike.pending.symm,
    halike.taken.symm⟩

/-- Being alike goes on through a third scan. -/
theorem Alike.trans {last : Scan} (hfirst : Alike free closed scan other)
    (hsecond : Alike free closed other last) : Alike free closed scan last :=
  ⟨hfirst.level.trans hsecond.level, hfirst.operand.trans hsecond.operand, hfirst.closed_left,
    hsecond.closed_right, hfirst.pending.trans hsecond.pending, hfirst.taken.trans hsecond.taken⟩

/-- Settling refuses the option that is held or takes it over, and does the latter only where none waits for its
value. -/
theorem settle_spec (scan : Scan) :
    scan.settle = .error .refused ∨ scan.pending? = none ∧ scan.settle = .ok scan.settled := by
  obtain ⟨level, given, held, operand, closed⟩ := scan
  match held with
  | none => exact .inr ⟨rfl, rfl⟩
  | some (_, none) => exact .inl rfl
  | some (setting, some value) =>
    unfold settle give
    dsimp only
    split
    · exact .inr ⟨rfl, rfl⟩
    · exact .inl rfl

/-- Giving an option refuses it or records it, and changes nothing else in a scan. -/
theorem give_spec (scan : Scan) (setting : Setting) (value : String) :
    scan.give setting value = .error .refused ∨
      scan.give setting value = .ok { scan with given := (setting, value) :: scan.given } := by
  unfold give
  split
  · exact .inr rfl
  · exact .inl rfl

/-- Scans that are alike stay so when what they hold is settled. -/
theorem Alike.settled (halike : Alike free closed scan other) :
    Alike free closed scan.settled other.settled :=
  ⟨halike.level, halike.operand, halike.closed_left, halike.closed_right, rfl, halike.taken⟩

/-- Where both scans settle what they hold, what follows decides. -/
theorem agree_settle {γ δ : Type} {S : γ → δ → Prop} {f : Scan → Except Stop γ} {g : Scan → Except Stop δ}
    (hfg : Agree S (f scan.settled) (g other.settled)) : Agree S (scan.settle >>= f) (other.settle >>= g) := by
  rcases scan.settle_spec with hrefused | ⟨_, hscan⟩
  · rw [hrefused]
    exact .refusedLeft _
  · rcases other.settle_spec with hrefused | ⟨_, hother⟩
    · rw [hrefused]
      exact .refusedRight _
    · rw [hscan, hother]
      exact hfg

section Words

variable (halike : Alike free closed scan other)

include halike

/-- Giving both scans one option keeps them alike unless one refuses it, whether the option is free or not. -/
theorem Alike.give (setting : Setting) (value : String) :
    Agree (Alike free closed) (scan.settled.give setting value) (other.settled.give setting value) := by
  rcases scan.settled.give_spec setting value with hrefused | hscan
  · rw [hrefused]
    exact .refusedLeft _
  · rcases other.settled.give_spec setting value with hrefused | hother
    · rw [hrefused]
      exact .refusedRight _
    · rw [hscan, hother]
      refine .read ⟨halike.level, halike.operand, halike.closed_left, halike.closed_right, rfl, ?_⟩
      have htaken := halike.taken
      simp only [Scan.taken, Scan.settled, List.filter_cons] at htaken ⊢
      rw [htaken]

private theorem Alike.readSwitch (setting : Setting) :
    Agree (Alike free closed) (scan.readSwitch setting) (other.readSwitch setting) := by
  apply agree_settle
  split
  · exact .stopped _
  · rw [show scan.settled.level = other.settled.level from halike.level]
    exact .stopped _
  · exact halike.give setting ""

private theorem Alike.readOption (setting : Setting) (value : Option String) :
    Agree (Alike free closed) (scan.readOption setting value) (other.readOption setting value) := by
  apply agree_settle
  cases value with
  | some value => exact halike.give setting value
  | none =>
    exact .read ⟨halike.level, halike.operand, halike.closed_left, halike.closed_right, rfl, halike.taken⟩

/-- An option that is read by its name keeps scans alike. -/
theorem Alike.readNamed (name : String) (value : Option String) :
    Agree (Alike free closed) (scan.readNamed name value) (other.readNamed name value) := by
  unfold Scan.readNamed
  rw [halike.level]
  split
  · exact .refusedLeft _
  · split
    · split
      · exact .refusedLeft _
      · exact halike.readSwitch _
    · exact halike.readOption _ value

private theorem Alike.readOperand (text : String) :
    Agree (Alike free closed) (scan.readOperand text) (other.readOperand text) := by
  apply agree_settle
  have hlevel : scan.settled.level = other.settled.level := halike.level
  have hoperand : scan.settled.operand = other.settled.operand := halike.operand
  rw [hlevel, hoperand]
  split
  · exact .read ⟨rfl, rfl, halike.closed_left, halike.closed_right, rfl, halike.taken⟩
  · exact .refusedLeft _

end Words

/-- Letters that follow one dash keep scans alike, however many options they stand for. -/
theorem Alike.readLetters (letters : List Char) (halike : Alike free closed scan other) :
    Agree (Alike free closed) (readLetters letters scan) (readLetters letters other) := by
  induction letters generalizing scan other with
  | nil => exact .read halike
  | cons letter letters ih =>
    unfold Scan.readLetters
    rw [halike.level]
    split
    · exact .refusedLeft _
    · split
      · exact (halike.readSwitch _).bind fun _ _ => ih
      · exact halike.readOption _ _

private theorem pending?_eq_some_iff : scan.pending? = some setting ↔ scan.held = some (setting, none) := by
  unfold pending?
  split <;> simp_all

/-- A word without dashes is the value that is still to come, or else an operand. -/
theorem Alike.readPlain (text : String) (halike : Alike free closed scan other) :
    Agree (Alike free closed)
      (match scan.held with
        | some (setting, none) => .ok { scan with held := some (setting, some text) }
        | _ => scan.readOperand text)
      (match other.held with
        | some (setting, none) => .ok { other with held := some (setting, some text) }
        | _ => other.readOperand text) := by
  cases hpending : scan.pending? with
  | some setting =>
    have hscan := pending?_eq_some_iff.mp hpending
    have hother := pending?_eq_some_iff.mp (halike.pending.symm.trans hpending)
    have htaken := halike.taken
    rw [hscan, hother]
    refine .read ⟨halike.level, halike.operand, halike.closed_left, halike.closed_right, rfl, ?_⟩
    simp only [Scan.taken, hscan, hother, List.filter_cons] at htaken ⊢
    rw [htaken]
  | none =>
    split
    · rename_i setting hscan
      rw [pending?_eq_some_iff.mpr hscan] at hpending
      cases hpending
    · split
      · rename_i setting hother
        rw [halike.pending, pending?_eq_some_iff.mpr hother] at hpending
        cases hpending
      · exact halike.readOperand text

private theorem ofText_eq_dashes_iff {text : String} : Word.ofText text = .dashes ↔ text = "--" := by
  constructor
  · intro hword
    unfold Word.ofText at hword
    split at hword <;> cases hword
    rename_i hchars
    exact String.toList_inj.mp hchars
  · rintro rfl
    rfl

/-- A word is read alike, and after two dashes it is no option. -/
theorem Alike.readWord (text : String) (halike : Alike free closed scan other) :
    Agree (Alike free (closed || text == "--")) (scan.readWord text) (other.readWord text) := by
  unfold Scan.readWord
  cases closed with
  | true =>
    rw [if_pos halike.closed_left, if_pos halike.closed_right]
    exact halike.readOperand text
  | false =>
    rw [if_neg (Bool.eq_false_iff.mp halike.closed_left), if_neg (Bool.eq_false_iff.mp halike.closed_right)]
    have hclosed (hword : Word.ofText text ≠ .dashes) : (false || text == "--") = false := by
      simpa using mt ofText_eq_dashes_iff.mpr hword
    cases hword : Word.ofText text with
    | dashes =>
      rw [ofText_eq_dashes_iff.mp hword]
      exact .read ⟨halike.level, halike.operand, rfl, rfl, halike.pending, halike.taken⟩
    | named name value =>
      rw [hclosed (by simp [hword])]
      exact halike.readNamed name value
    | lettered letters =>
      rw [hclosed (by simp [hword])]
      exact halike.readLetters letters
    | plain plain =>
      rw [hclosed (by simp [hword])]
      exact halike.readPlain plain

private theorem lookup_filter_of_not_mem (hsetting : setting ∉ free) (entries : List (Setting × String)) :
    (entries.filter fun entry => entry.1 ∉ free).lookup setting = entries.lookup setting := by
  rw [lookup_filter (fun other => decide (other ∉ free)), if_pos (decide_eq_true hsetting)]

/-- At the end of a level, scans that are alike have read the same but for options that are free. -/
theorem Alike.same (halike : Alike free closed scan other) : Same free scan.settled other.settled where
  level := halike.level
  operand := halike.operand
  value setting hsetting := by
    change scan.taken.lookup setting = other.taken.lookup setting
    rw [← lookup_filter_of_not_mem hsetting, halike.taken, lookup_filter_of_not_mem hsetting]

end Scan

section Levels

open Scan (Alike Same)

variable {free : List Setting} {closed : Bool} {scan other : Scan} {texts others : List String}

end Levels

section Reading

open Scan (Same)

variable {free : List Setting} {levels others : List Scan} {vars : Variables}

section Presentation

variable (hfree : free ⊆ [.format, .verbose])

include hfree

end Presentation

end Reading

end Arguments

end Daybook

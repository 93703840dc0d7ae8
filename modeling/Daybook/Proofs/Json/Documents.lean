import Daybook.Proofs.Json.Strings
import Daybook.Proofs.Lookup
import Daybook.Proofs.Text.Literal

namespace Daybook.Json

mutual

/-- The texts that stand for a value, without spaces between their parts. -/
inductive IsText : Json → List Char → Prop
  | null : IsText .null ['n', 'u', 'l', 'l']
  | true : IsText (.bool true) ['t', 'r', 'u', 'e']
  | false : IsText (.bool false) ['f', 'a', 'l', 's', 'e']
  | int (n : Int) : IsText (.int n) (Text.intChars n)
  | str {s : String} {text : List Char} (hstring : IsString s text) : IsText (.str s) text
  | arr {items : List Json} {text : List Char} (hitems : AreItems items text) :
      IsText (.arr items) ('[' :: text ++ [']'])
  | obj {members : List (String × Json)} {text : List Char} (hmembers : AreMembers members text) :
      IsText (.obj members) ('\x7b' :: text ++ ['\x7d'])

/-- The texts that stand for the items of an array, with commas between them. -/
inductive AreItems : List Json → List Char → Prop
  | none : AreItems [] []
  | one {item : Json} {text : List Char} (hitem : IsText item text) : AreItems [item] text
  | more {item next : Json} {items : List Json} {text rest : List Char} (hitem : IsText item text)
      (hitems : AreItems (next :: items) rest) : AreItems (item :: next :: items) (text ++ ',' :: rest)

/-- The texts that stand for the members of an object, with commas between them. -/
inductive AreMembers : List (String × Json) → List Char → Prop
  | none : AreMembers [] []
  | one {key : String} {value : Json} {name text : List Char} (hkey : IsString key name)
      (hvalue : IsText value text) : AreMembers [(key, value)] (name ++ ':' :: text)
  | more {key : String} {value : Json} {next : String × Json} {members : List (String × Json)}
      {name text rest : List Char} (hkey : IsString key name) (hvalue : IsText value text)
      (hmembers : AreMembers (next :: members) rest) :
      AreMembers ((key, value) :: next :: members) (name ++ ':' :: text ++ ',' :: rest)

end

section Members

variable {members : List (String × Json)} {text : List Char}

theorem AreMembers.exists_cons (hmembers : AreMembers members text) (hsome : members ≠ []) :
    ∃ tail, text = '"' :: tail := by
  cases hmembers with
  | none => exact absurd rfl hsome
  | one hkey _ =>
    obtain ⟨_⟩ := hkey
    exact ⟨_, rfl⟩
  | more hkey _ _ =>
    obtain ⟨_⟩ := hkey
    exact ⟨_, rfl⟩

/-- There are no more members than characters in their text. -/
theorem AreMembers.length_le (hmembers : AreMembers members text) : members.length ≤ text.length := by
  induction members generalizing text with
  | nil => exact Nat.zero_le _
  | cons member members ih =>
    cases hmembers with
    | one _ _ =>
      simp only [List.length_append, List.length_cons, List.length_nil]
      omega
    | more _ _ hmembers =>
      have hlength := ih hmembers
      simp only [List.length_append, List.length_cons] at hlength ⊢
      omega

end Members

section Written

mutual

/-- The compact form of a value is a text of it. -/
theorem isText_chars (value : Json) : IsText value value.chars := by
  cases value with
  | null => exact .null
  | bool b =>
    cases b with
    | true => exact .true
    | false => exact .false
  | int n => exact .int n
  | str s => exact .str (isString_quotedChars s)
  | arr items => exact .arr (areItems_chars items)
  | obj members => exact .obj (areMembers_chars members)

private theorem areItems_chars (items : List Json) : AreItems items (itemsChars items) := by
  match items with
  | [] => exact .none
  | [item] => exact .one (isText_chars item)
  | item :: next :: items => exact .more (isText_chars item) (areItems_chars (next :: items))

private theorem areMembers_chars (members : List (String × Json)) : AreMembers members (membersChars members) := by
  match members with
  | [] => exact .none
  | [(key, value)] => exact .one (isString_quotedChars key) (isText_chars value)
  | (key, value) :: next :: members =>
    exact .more (isString_quotedChars key) (isText_chars value) (areMembers_chars (next :: members))

end

end Written

section Control

variable {c : Char}

private theorem not_control_of_hexValue? {n : Nat} (hvalue : Text.hexValue? c = some n) : ¬ c.toNat < 0x20 := by
  have hle (d : Char) (hd : 0x20 ≤ d.toNat) (hdc : d ≤ c) : ¬ c.toNat < 0x20 := by
    have hdc : d.toNat ≤ c.toNat := hdc
    omega
  unfold Text.hexValue? at hvalue
  split at hvalue
  · rename_i hdigit
    exact hle '0' (by decide) hdigit.1
  · split at hvalue
    · rename_i hlower
      exact hle 'a' (by decide) hlower.1
    · split at hvalue
      · rename_i hupper
        exact hle 'A' (by decide) hupper.1
      · cases hvalue

private theorem not_control_of_hexNumber? {digits : List Char} {init n : Nat}
    (hnumber : digits.foldlM (fun n c => (Text.hexValue? c).map (16 * n + ·)) init = some n) :
    ∀ c ∈ digits, ¬ c.toNat < 0x20 := by
  induction digits generalizing init with
  | nil => exact List.forall_mem_nil _
  | cons digit digits ih =>
    rw [List.foldlM_cons] at hnumber
    obtain ⟨next, hnext, hnumber⟩ := Option.bind_eq_some_iff.mp hnumber
    obtain ⟨value, hvalue, _⟩ := Option.map_eq_some_iff.mp hnext
    exact List.forall_mem_cons.mpr ⟨not_control_of_hexValue? hvalue, ih hnumber⟩

private theorem not_control_of_unescape? {letter : Char} (hletter : unescape? letter = some c) :
    ¬ letter.toNat < 0x20 := by
  unfold unescape? at hletter
  split at hletter <;> first | decide | cases hletter

private theorem IsUnit.not_control {unit : List Char} (hunit : IsUnit c unit) : ∀ d ∈ unit, ¬ d.toNat < 0x20 := by
  cases hunit with
  | plain _ _ hcontrol => simpa using hcontrol
  | letter hletter => simpa using not_control_of_unescape? hletter
  | numbered _ hnumber => simpa using not_control_of_hexNumber? hnumber

/-- No text of a string has a control character in it, whatever characters the string has. -/
theorem IsString.not_control {s : String} {text : List Char} (hstring : IsString s text) :
    ∀ d ∈ text, ¬ d.toNat < 0x20 := by
  obtain ⟨hunits⟩ := hstring
  have hfree : ∀ {cs units : List Char}, AreUnits cs units → ∀ d ∈ units, ¬ d.toNat < 0x20 := by
    intro cs units hunits
    induction hunits with
    | nil => exact List.forall_mem_nil _
    | cons hunit _ ih => exact List.forall_mem_append.mpr ⟨hunit.not_control, ih⟩
  simpa [or_imp, forall_and] using hfree hunits

private theorem not_control_intChars (n : Int) : ∀ d ∈ Text.intChars n, ¬ d.toNat < 0x20 := by
  intro d hd
  rcases Text.mem_intChars hd with rfl | hdigit
  · decide
  · have hlow : 48 ≤ d.toNat := (Char.isDigit_iff_toNat.mp hdigit).1
    omega

mutual

/-- A text that stands for a value has no control characters, and so no line end. -/
theorem IsText.not_control {value : Json} {text : List Char} (htext : IsText value text) :
    ∀ d ∈ text, ¬ d.toNat < 0x20 := by
  cases htext with
  | null | true | false => simp
  | int n => exact not_control_intChars n
  | str hstring => exact hstring.not_control
  | arr hitems => simpa [or_imp, forall_and] using hitems.not_control
  | obj hmembers => simpa [or_imp, forall_and] using hmembers.not_control

private theorem AreItems.not_control {items : List Json} {text : List Char} (hitems : AreItems items text) :
    ∀ d ∈ text, ¬ d.toNat < 0x20 := by
  cases hitems with
  | none => exact List.forall_mem_nil _
  | one hitem => exact hitem.not_control
  | more hitem hitems =>
    have hfirst := hitem.not_control
    have hrest := hitems.not_control
    simpa [or_imp, forall_and] using And.intro hfirst hrest

private theorem AreMembers.not_control {members : List (String × Json)} {text : List Char}
    (hmembers : AreMembers members text) : ∀ d ∈ text, ¬ d.toNat < 0x20 := by
  cases hmembers with
  | none => exact List.forall_mem_nil _
  | one hkey hvalue =>
    have hname := hkey.not_control
    have htext := hvalue.not_control
    simpa [or_imp, forall_and] using And.intro hname htext
  | more hkey hvalue hmembers =>
    have hname := hkey.not_control
    have htext := hvalue.not_control
    have hrest := hmembers.not_control
    simpa [or_imp, forall_and, and_assoc] using And.intro (And.intro hname htext) hrest

end

end Control

section Sorted

/-- What stands under a key of an object. -/
def member? (key : String) : Json → Option Json
  | .obj members => members.lookup key
  | _ => none

variable (key other : String)

/-- Putting a member in its place changes what is under its own key alone. -/
theorem lookup_insertMember (value : Json) (members : List (String × Json)) :
    (insertMember key value members).lookup other =
      if other = key then some value else members.lookup other := by
  induction members with
  | nil => exact lookup_cons key other value []
  | cons member members ih =>
    obtain ⟨k, v⟩ := member
    unfold insertMember
    split
    · exact lookup_cons key other value _
    · split
      · rename_i hkey
        subst hkey
        simp only [lookup_cons]
        split <;> rfl
      · rename_i hne
        simp only [lookup_cons, ih]
        by_cases hother : other = k
        · simp [hother, Ne.symm hne]
        · simp [hother]

private theorem lookup_sortMembers (members : List (String × Json)) :
    (sortMembers members).lookup key = (members.lookup key).map sortKeys := by
  induction members with
  | nil => rfl
  | cons member members ih =>
    obtain ⟨k, value⟩ := member
    rw [sortMembers, lookup_insertMember, lookup_cons, ih, apply_ite (Option.map sortKeys), Option.map_some]

/-- The order of keys does not matter to what stands under them. -/
theorem member?_sortKeys (value : Json) : value.sortKeys.member? key = (value.member? key).map sortKeys := by
  cases value with
  | obj members =>
    rw [sortKeys]
    exact lookup_sortMembers key members
  | _ => rfl

variable {key}

/-- A member with a new key is put in its place, and nothing else changes. -/
theorem insertMember_perm {value : Json} {members : List (String × Json)} (hkey : key ∉ members.map Prod.fst) :
    (insertMember key value members).Perm ((key, value) :: members) := by
  induction members with
  | nil => exact .refl _
  | cons member members ih =>
    obtain ⟨k, v⟩ := member
    obtain ⟨hne, hkey⟩ : key ≠ k ∧ key ∉ members.map Prod.fst := by simpa using hkey
    rw [insertMember, if_neg hne]
    split
    · exact .refl _
    · exact ((ih hkey).cons (k, v)).trans (.swap (key, value) (k, v) members)

/-- Members whose keys differ stay the same ones in another order. -/
theorem sortMembers_perm {members : List (String × Json)} (hnodup : (members.map Prod.fst).Nodup) :
    (sortMembers members).Perm (members.map fun member => (member.1, member.2.sortKeys)) := by
  induction members with
  | nil => exact .refl _
  | cons member members ih =>
    obtain ⟨k, value⟩ := member
    obtain ⟨hfresh, hnodup⟩ := List.nodup_cons.mp hnodup
    have hperm := ih hnodup
    have hkey : k ∉ (sortMembers members).map Prod.fst := by
      rw [(hperm.map Prod.fst).mem_iff, List.map_map]
      exact hfresh
    exact (insertMember_perm hkey).trans (hperm.cons (k, value.sortKeys))

end Sorted

end Daybook.Json

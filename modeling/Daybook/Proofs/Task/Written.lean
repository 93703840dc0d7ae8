import Daybook.Proofs.Json.Documents
import Daybook.Proofs.Task.Id
import Daybook.Task.Written
import Mathlib.Data.List.Nodup
import Mathlib.Data.List.Perm.Basic
import Mathlib.Data.Set.List

namespace Daybook.Task

open Json (IsText IsString AreMembers)

namespace Field

/-- The key under which a field stands in an object. -/
def key : Field → String
  | .id => "id"
  | .date => "date"
  | .title => "title"
  | .comment => "comment"
  | .repeatRule => "repeat"

/-- What stands there for a task. Where there is no identifier it may be left out, or else be null. -/
def value (task : Task) : Field → Json
  | .id => (task.id.map fun id => .str id.text).getD .null
  | .date => .str task.date
  | .title => .str task.title
  | .comment => .str task.comment
  | .repeatRule => .str task.repeatRule

def member (task : Task) (field : Field) : String × Json :=
  (field.key, field.value task)

/-- A task with one field as in another. -/
def set (source : Task) (field : Field) (target : Task) : Task :=
  match field with
  | .id => { target with id := source.id }
  | .date => { target with date := source.date }
  | .title => { target with title := source.title }
  | .comment => { target with comment := source.comment }
  | .repeatRule => { target with repeatRule := source.repeatRule }

@[simp] private theorem ofKey?_key (field : Field) : ofKey? field.key = some field := by
  cases field <;> rfl

private theorem key_injective : Function.Injective key := by
  intro field other hkey
  rw [← Option.some_inj, ← ofKey?_key, hkey, ofKey?_key]

private theorem member_injective (task : Task) : Function.Injective (member task) := by
  intro field other hmember
  exact key_injective (congrArg Prod.fst hmember)

private theorem sortKeys_value (task : Task) (field : Field) : (field.value task).sortKeys = field.value task := by
  cases field with
  | id => cases hid : task.id <;> simp [value, hid, Json.sortKeys]
  | _ => simp [value, Json.sortKeys]

variable (source target : Task) (field other : Field)

private theorem set_set : field.set source (field.set source target) = field.set source target := by
  cases field <;> rfl

private theorem set_comm :
    field.set source (other.set source target) = other.set source (field.set source target) := by
  cases field <;> cases other <;> rfl

variable {source target}

/-- A task that has each of its fields as in another is that other one. -/
theorem eq_of_set_eq (hset : ∀ field, set source field target = target) : target = source := by
  have hid := hset .id
  have hdate := hset .date
  have htitle := hset .title
  have hcomment := hset .comment
  have hrule := hset .repeatRule
  obtain ⟨⟨date, title, comment, rule⟩, id⟩ := target
  simp only [set, mk.injEq, Content.mk.injEq] at hid hdate htitle hcomment hrule
  obtain ⟨⟨_, _, _, _⟩, _⟩ := source
  simp_all

end Field

section Copied

variable {source target : Task} {fields : List Field}

/-- A task with some fields as in another. -/
def copied (source : Task) (fields : List Field) (target : Task) : Task :=
  fields.foldl (fun target field => field.set source target) target

private theorem set_copied (field : Field) (hfield : field ∈ fields ∨ field.set source target = target) :
    field.set source (copied source fields target) = copied source fields target := by
  induction fields generalizing target with
  | nil => exact hfield.resolve_left List.not_mem_nil
  | cons first fields ih =>
    refine ih ?_
    rcases hfield with hmem | hset
    · rcases List.mem_cons.mp hmem with rfl | hmem
      · exact .inr (field.set_set source target)
      · exact .inl hmem
    · rw [Field.set_comm, hset]
      exact .inr rfl

/-- If the fields left out are as in the other task already, the whole of it is. -/
theorem copied_eq (hrest : ∀ field ∉ fields, field.set source target = target) :
    copied source fields target = source := by
  refine Field.eq_of_set_eq fun field => set_copied field ?_
  by_cases hmem : field ∈ fields
  · exact .inl hmem
  · exact .inr (hrest field hmem)

end Copied

section Read

variable {s : String} {text : List Char} {source : Task} {field : Field}

private theorem readText_of_isString (hstring : IsString s text) (rest : List Char) :
    readText (text ++ rest) = .ok (s, rest) := by
  rw [readText, Json.skipSpace_of_isString hstring, Json.string?_of_isString hstring]
  rfl

private theorem readId_null (rest : List Char) : readId (['n', 'u', 'l', 'l'] ++ rest) = .ok (none, rest) :=
  rfl

private theorem readId_quote (tail : List Char) : readId ('"' :: tail) = (do
    let (text, rest) ← Json.orMalformed (Json.string? ('"' :: tail))
    let id ← (TaskId.read text).mapError .refused
    return (some id, rest)) :=
  rfl

private theorem readId_of_isString {id : TaskId} (hid : id.IsPositive) (hstring : IsString id.text text) (rest : List Char) :
    readId (text ++ rest) = .ok (some id, rest) := by
  have hread := Json.string?_of_isString hstring rest
  obtain ⟨_⟩ := hstring
  rw [List.cons_append, List.cons_append] at hread
  rw [List.cons_append, List.cons_append, readId_quote, hread]
  simp only [Json.orMalformed, bind, Except.bind, TaskId.read_text hid]
  rfl

/-- What stands under the key of a field is read into that field. -/
theorem readField_of_isText (hid : ∀ id ∈ source.id, id.IsPositive) (htext : IsText (field.value source) text)
    (target : Task) (rest : List Char) :
    readField target field (text ++ rest) = .ok (field.set source target, rest) := by
  cases field with
  | id =>
    cases hsource : source.id with
    | none =>
      simp only [Field.value, hsource, Option.map_none, Option.getD_none] at htext
      cases htext
      simp only [readField, readId_null, Field.set, hsource]
      rfl
    | some id =>
      simp only [Field.value, hsource, Option.map_some, Option.getD_some] at htext
      cases htext with
      | str hstring =>
        simp only [readField, readId_of_isString (hid id hsource) hstring, Field.set, hsource]
        rfl
  | date | title | comment | repeatRule =>
    cases htext with
    | str hstring =>
      simp only [readField, readText_of_isString hstring]
      rfl

end Read

section Members

variable {text name : List Char} {source target : Task} {field : Field} {fields seen : List Field} {fuel : Nat}

/-- A member is read into its field, and the object goes on after a comma or ends with a brace. -/
theorem readMembers_member (hid : ∀ id ∈ source.id, id.IsPositive) (hkey : IsString field.key name)
    (hvalue : IsText (field.value source) text) (hseen : field ∉ seen) (rest : List Char) :
    readMembers (fuel + 1) seen target (name ++ ':' :: (text ++ ',' :: rest)) =
        readMembers fuel (field :: seen) (field.set source target) rest ∧
      readMembers (fuel + 1) seen target (name ++ ':' :: (text ++ '\x7d' :: rest)) =
        .ok (field.set source target, rest) := by
  have hcolon (cs : List Char) : Json.skipSpace (':' :: cs) = ':' :: cs := rfl
  have hcomma : Json.skipSpace (',' :: rest) = ',' :: rest := rfl
  have hbrace : Json.skipSpace ('\x7d' :: rest) = '\x7d' :: rest := rfl
  constructor
  all_goals
    rw [readMembers, readText_of_isString hkey]
    simp only [hcolon, Field.ofKey?_key, if_neg hseen, readField_of_isText hid hvalue, hcomma, hbrace, bind,
      Except.bind, pure, Except.pure]

private theorem readValue_quote (tail : List Char) :
    readValue ('\x7b' :: '"' :: tail) = readMembers ('"' :: tail).length [] {} ('"' :: tail) :=
  rfl

/-- Members of different fields are read into the task one after the other, with at least as much fuel as there
are members. -/
theorem readMembers_of_areMembers (hid : ∀ id ∈ source.id, id.IsPositive)
    (hmembers : AreMembers (fields.map (Field.member source)) text) (hsome : fields ≠ []) (hnodup : fields.Nodup)
    (hseen : ∀ field ∈ fields, field ∉ seen) (hfuel : fields.length ≤ fuel) (rest : List Char) :
    readMembers fuel seen target (text ++ '\x7d' :: rest) = .ok (copied source fields target, rest) := by
  induction fields generalizing fuel seen target text with
  | nil => exact absurd rfl hsome
  | cons field fields ih =>
    obtain ⟨hfresh, hnodup⟩ := List.nodup_cons.mp hnodup
    obtain ⟨fuel, rfl⟩ : ∃ n, fuel = n + 1 := Nat.exists_eq_add_one.mpr (Nat.zero_lt_of_lt hfuel)
    have hfield := hseen field (List.mem_cons_self ..)
    cases fields with
    | nil =>
      cases hmembers with
      | one hkey hvalue =>
        rw [List.append_assoc, List.cons_append]
        exact (readMembers_member hid hkey hvalue hfield rest).2
    | cons next fields =>
      cases hmembers with
      | more hkey hvalue hmembers =>
        rw [List.append_assoc, List.append_assoc, List.cons_append, List.cons_append,
          (readMembers_member hid hkey hvalue hfield _).1]
        refine ih hmembers (List.cons_ne_nil _ _) hnodup ?_ (Nat.le_of_succ_le_succ hfuel)
        intro other hother hmem
        rcases List.mem_cons.mp hmem with rfl | hmem
        · exact hfresh hother
        · exact hseen other (List.mem_cons_of_mem _ hother) hmem

/-- An object that has some fields of a task, each once, is read as the task if the rest are blank. -/
theorem readValue_of_isText (hid : ∀ id ∈ source.id, id.IsPositive)
    (htext : IsText (.obj (fields.map (Field.member source))) text) (hnodup : fields.Nodup)
    (hrest : ∀ field ∉ fields, field.set source {} = {}) (rest : List Char) :
    readValue (text ++ rest) = .ok (source, rest) := by
  cases htext with
  | @obj _ inner hmembers =>
    rcases eq_or_ne fields [] with rfl | hsome
    · cases hmembers
      rw [← copied_eq hrest]
      rfl
    · obtain ⟨tail, rfl⟩ := hmembers.exists_cons (mt List.map_eq_nil_iff.mp hsome)
      have hfuel : fields.length ≤ ('"' :: tail ++ '\x7d' :: rest).length := by
        have hlength := hmembers.length_le
        rw [List.length_map] at hlength
        rw [List.length_append]
        omega
      have hread : readMembers ('"' :: tail ++ '\x7d' :: rest).length [] {} ('"' :: tail ++ '\x7d' :: rest) =
          .ok (source, rest) := by
        rw [readMembers_of_areMembers hid hmembers hsome hnodup (fun _ _ => List.not_mem_nil) hfuel, copied_eq hrest]
      simpa only [List.cons_append, List.append_assoc, List.nil_append, readValue_quote] using hread

end Members

section Written

variable {task : Task} {members : List (String × Json)} {text : List Char}

/-- The fields that a task is written with. -/
def fields (task : Task) : List Field :=
  (if task.id.isSome then [.id] else []) ++ [.date, .title, .comment, .repeatRule]

private theorem members_eq (task : Task) : task.members = task.fields.map (Field.member task) := by
  cases hid : task.id <;> simp [members, fields, Field.member, Field.key, Field.value, hid]

private theorem nodup_fields (task : Task) : task.fields.Nodup := by
  unfold fields
  split <;> decide

private theorem set_of_not_mem_fields {field : Field} (hfield : field ∉ task.fields) : field.set task {} = {} := by
  cases field with
  | id =>
    have hnone : task.id = none := by simpa [fields] using hfield
    simp [Field.set, hnone]
  | _ => simp [fields] at hfield

private theorem nodup_keys (task : Task) : (task.members.map Prod.fst).Nodup := by
  rw [members_eq, List.map_map]
  exact List.Nodup.map Field.key_injective task.nodup_fields

private theorem exists_fields_of_perm (hperm : members.Perm task.members) :
    ∃ fields : List Field, members = fields.map (Field.member task) ∧ fields.Perm task.fields := by
  rw [members_eq] at hperm
  have hrange : members ∈ Set.range (List.map (Field.member task)) := by
    rw [Set.range_list_map]
    intro member hmember
    obtain ⟨field, _, hfield⟩ := List.mem_map.mp (hperm.mem_iff.mp hmember)
    exact ⟨field, hfield⟩
  obtain ⟨fields, rfl⟩ := hrange
  exact ⟨fields, rfl, (List.map_perm_map_iff (Field.member_injective task)).mp hperm⟩

/-- A task is read from the members it is written with, in whatever order they stand. -/
theorem readValue_of_perm (hid : ∀ id ∈ task.id, id.IsPositive) (hperm : members.Perm task.members)
    (htext : IsText (.obj members) text) (rest : List Char) : readValue (text ++ rest) = .ok (task, rest) := by
  obtain ⟨fields, rfl, hfields⟩ := exists_fields_of_perm hperm
  refine readValue_of_isText hid htext (hfields.nodup_iff.mpr task.nodup_fields) (fun field hfield => ?_) rest
  exact set_of_not_mem_fields (mt hfields.mem_iff.mpr hfield)

/-- Putting the members of a task in the order of their keys loses none, because no key is there twice. -/
theorem sortMembers_perm (task : Task) : (Json.sortMembers task.members).Perm task.members := by
  have hsame : task.members.map (fun member => (member.1, member.2.sortKeys)) = task.members := by
    simp [members_eq, Field.member, Function.comp_def, Field.sortKeys_value]
  have hperm := Json.sortMembers_perm task.nodup_keys
  rwa [hsame] at hperm

/-- A task is read back from its members in any order. -/
theorem ofJson_of_perm (hid : ∀ id ∈ task.id, id.IsPositive) (hperm : members.Perm task.members) :
    ofJson (Json.obj members).compact = .ok task := by
  have hread := readValue_of_perm hid hperm (Json.isText_chars (.obj members)) []
  rw [List.append_nil] at hread
  rw [ofJson, Json.compact, String.toList_ofList, hread]
  rfl

/-- A task whose identifier is absent or positive is read back from its JSON, be its members in their own order or in
the order of their keys, and from any other text of these members, whatever follows it. An identifier is read from a
text exactly where that is a positive number of 64 bits between blanks, and so from its own text. -/
theorem json_codec :
    (∀ task : Task, (∀ id ∈ task.id, id.IsPositive) →
      ofJson task.toJson.compact = .ok task ∧ ofJson task.toJson.sortKeys.compact = .ok task ∧
        ∀ members text rest, members.Perm task.members → IsText (.obj members) text →
          readValue (text ++ rest) = .ok (task, rest)) ∧
      (∀ text id, TaskId.read text = .ok id ↔
        ∃ core, Text.IsTrimmed text.toList core ∧ TaskId.IsNumeral core id ∧ id.IsPositive) ∧
      ∀ id : TaskId, id.IsPositive → TaskId.read id.text = .ok id := by
  refine ⟨fun task hid => ⟨?_, ?_, ?_⟩, fun _ _ => TaskId.read_eq_ok_iff, fun _ => TaskId.read_text⟩
  · exact ofJson_of_perm hid (.refl task.members)
  · rw [toJson, Json.sortKeys]
    exact ofJson_of_perm hid task.sortMembers_perm
  · exact fun members text rest hperm htext => readValue_of_perm hid hperm htext rest

/-- A title with a quote, a backslash, a control character and an accent, under the greatest identifier. -/
theorem json_codec_escapes :
    let task : Task :=
      { id := some ⟨9223372036854775807⟩, date := "20240229", title := "\"a\\\x01é", repeatRule := "y" }
    (∀ id ∈ task.id, id.IsPositive) ∧
      task.toJson.sortKeys.compact =
        "\x7b\"comment\":\"\",\"date\":\"20240229\",\"id\":\"9223372036854775807\"," ++
          "\"repeat\":\"y\",\"title\":\"\\\"a\\\\\\u0001é\"\x7d" ∧
      ofJson task.toJson.compact = .ok task ∧ ofJson task.toJson.sortKeys.compact = .ok task ∧
      TaskId.read (TaskId.text ⟨9223372036854775807⟩) = .ok ⟨9223372036854775807⟩ := by
  intro task
  have hgreatest : TaskId.IsPositive ⟨9223372036854775807⟩ := ⟨by decide, by decide⟩
  have hid : ∀ id ∈ task.id, id.IsPositive := by
    rintro id ⟨⟩
    exact hgreatest
  obtain ⟨hdirect, hsorted, _⟩ := json_codec.1 task hid
  exact ⟨hid, by decide +kernel, hdirect, hsorted, json_codec.2.2 _ hgreatest⟩

end Written

end Daybook.Task

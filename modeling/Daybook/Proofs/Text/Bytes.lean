import Daybook.Proofs.Text.Digits

namespace Daybook.Text

/-- The bytes of a text in UTF-8. -/
def bytes (s : String) : List UInt8 :=
  s.toUTF8.data.toList

private theorem bytes_ofList (cs : List Char) :
    bytes (String.ofList cs) = cs.flatMap String.utf8EncodeChar := by
  rw [bytes, String.toUTF8, String.toByteArray_ofList, List.utf8Encode, List.data_toByteArray]

private theorem bytes_eq_flatMap (text : String) : bytes text = text.toList.flatMap String.utf8EncodeChar := by
  rw [← bytes_ofList, String.ofList_toList]

private theorem length_bytes (text : String) : (bytes text).length = text.utf8ByteSize := by
  rw [bytes, Array.length_toList]
  rfl

/-- The first byte of the character with a number, and how many bytes come after it. -/
def lead (n : Nat) : Nat × Nat :=
  if n ≤ 127 then (n, 0)
  else if n ≤ 2047 then (n / 64 + 192, 1)
  else if n ≤ 65535 then (n / 4096 + 224, 2)
  else (n / 262144 + 240, 3)

/-- The last bytes of the character with a number, as many as asked for. -/
def trailing : Nat → Nat → List UInt8
  | 0, _ => []
  | count + 1, n => UInt8.ofNat (n / 64 ^ count % 64 + 128) :: trailing count n

private theorem ofNat_cons_lt_ofNat_cons_iff {m n : Nat} (hm : m < 256) (hn : n < 256) {cs ds : List UInt8} :
    UInt8.ofNat m :: cs < UInt8.ofNat n :: ds ↔ m < n ∨ m = n ∧ cs < ds := by
  rw [List.cons_lt_cons_iff, UInt8.lt_iff_toNat_lt, ← UInt8.toNat_inj, UInt8.toNat_ofNat_of_lt' hm,
    UInt8.toNat_ofNat_of_lt' hn]

private theorem trailing_append_lt {count m n : Nat} (hlt : m % 64 ^ count < n % 64 ^ count) (cs ds : List UInt8) :
    trailing count m ++ cs < trailing count n ++ ds := by
  induction count with
  | zero =>
    rw [Nat.pow_zero, Nat.mod_one, Nat.mod_one] at hlt
    exact absurd hlt (Nat.lt_irrefl 0)
  | succ count ih =>
    have hpos : 0 < 64 ^ count := Nat.pow_pos (by decide)
    rw [Nat.mod_pow_succ, Nat.mod_pow_succ, Nat.add_comm, Nat.add_comm (n % 64 ^ count),
      mul_add_lt_mul_add_iff (Nat.mod_lt m hpos) (Nat.mod_lt n hpos)] at hlt
    rw [trailing, trailing, List.cons_append, List.cons_append,
      ofNat_cons_lt_ofNat_cons_iff (by omega) (by omega)]
    obtain hfirst | ⟨hsame, hrest⟩ := hlt
    · exact .inl (by omega)
    · exact .inr ⟨by rw [hsame], ih hrest⟩

private theorem toNat_lt (c : Char) : c.toNat < 1114112 := by
  obtain hlow | ⟨_, hhigh⟩ := c.valid
  · exact Nat.lt_trans hlow (by decide)
  · exact hhigh

private theorem lead_lt {n : Nat} (hn : n < 1114112) : (lead n).1 < 256 := by
  unfold lead
  split_ifs <;> dsimp only <;> omega

/-- A character is encoded as its first byte and the ones that trail it. -/
theorem utf8EncodeChar_eq (c : Char) :
    String.utf8EncodeChar c = UInt8.ofNat (lead c.toNat).1 :: trailing (lead c.toNat).2 c.toNat := by
  have hbound := toNat_lt c
  unfold String.utf8EncodeChar lead
  unfold Char.toNat at *
  generalize c.val.toNat = n at hbound
  dsimp only
  split_ifs with hone htwo hthree
  · rfl
  · have hhigh : n / 64 < 32 := by omega
    rw [Nat.mod_eq_of_lt hhigh]
    simp only [trailing, Nat.pow_zero, Nat.div_one]
  · have hhigh : n / 4096 < 16 := by omega
    rw [Nat.mod_eq_of_lt hhigh]
    simp only [trailing, Nat.pow_zero, Nat.div_one, Nat.pow_one]
  · have hhigh : n / 262144 < 8 := by omega
    rw [Nat.mod_eq_of_lt hhigh]
    simp only [trailing, Nat.pow_zero, Nat.div_one, Nat.pow_one, Nat.reducePow]

/-- Characters with more bytes have a greater first byte. -/
theorem lead_lt_or_eq {m n : Nat} (hlt : m < n) :
    (lead m).1 < (lead n).1 ∨
      lead m = lead n ∧ m % 64 ^ (lead m).2 < n % 64 ^ (lead m).2 := by
  unfold lead
  split_ifs <;> simp only [Prod.mk.injEq, and_true, Nat.reducePow] <;> omega

private theorem utf8EncodeChar_append_lt {c d : Char} (hlt : c < d) (cs ds : List UInt8) :
    String.utf8EncodeChar c ++ cs < String.utf8EncodeChar d ++ ds := by
  have hvalue : c.toNat < d.toNat := UInt32.lt_iff_toNat_lt.mp hlt
  rw [utf8EncodeChar_eq, utf8EncodeChar_eq, List.cons_append, List.cons_append,
    ofNat_cons_lt_ofNat_cons_iff (lead_lt (toNat_lt c)) (lead_lt (toNat_lt d))]
  obtain hfirst | ⟨hsame, hrest⟩ := lead_lt_or_eq hvalue
  · exact .inl hfirst
  · rw [← hsame]
    exact .inr ⟨rfl, trailing_append_lt hrest cs ds⟩

private theorem flatMap_utf8EncodeChar_lt {cs ds : List Char} (hlt : cs < ds) :
    cs.flatMap String.utf8EncodeChar < ds.flatMap String.utf8EncodeChar := by
  induction cs generalizing ds with
  | nil =>
    cases ds with
    | nil => exact absurd hlt (List.lt_irrefl [])
    | cons d ds =>
      rw [List.flatMap_cons, utf8EncodeChar_eq]
      exact List.nil_lt_cons _ _
  | cons c cs ih =>
    cases ds with
    | nil => exact absurd hlt (List.not_lt_nil _)
    | cons d ds =>
      rw [List.flatMap_cons, List.flatMap_cons]
      -- The first characters that differ decide, whatever comes after them.
      obtain hfirst | ⟨rfl, hrest⟩ := List.cons_lt_cons_iff.mp hlt
      · exact utf8EncodeChar_append_lt hfirst _ _
      · exact List.append_left_lt (ih hrest)

section Digits

variable {c : Char} {text : String}

/-- Whether a byte is an ASCII digit. -/
def IsDigitByte (b : UInt8) : Prop :=
  '0'.toNat ≤ b.toNat ∧ b.toNat ≤ '9'.toNat

/-- A digit has one byte, which is its number. -/
theorem utf8EncodeChar_of_isDigit (hc : c.isDigit = true) : String.utf8EncodeChar c = [UInt8.ofNat c.toNat] := by
  have hrange := toNat_of_isDigit hc
  have hlead : lead c.toNat = (c.toNat, 0) := if_pos (by omega)
  rw [utf8EncodeChar_eq, hlead]
  rfl

/-- A character is a digit exactly if its bytes are. -/
theorem isDigit_iff_bytes : c.isDigit = true ↔ ∀ b ∈ String.utf8EncodeChar c, IsDigitByte b := by
  constructor
  · intro hc
    have hrange := toNat_of_isDigit hc
    rw [utf8EncodeChar_of_isDigit hc, List.forall_mem_singleton, IsDigitByte,
      UInt8.toNat_ofNat_of_lt' (by change c.toNat < 256; omega)]
    exact hrange
  · intro hbytes
    rw [utf8EncodeChar_eq] at hbytes
    have hfirst := hbytes _ List.mem_cons_self
    rw [IsDigitByte, UInt8.toNat_ofNat_of_lt' (lead_lt (toNat_lt c))] at hfirst
    change 48 ≤ _ ∧ _ ≤ 57 at hfirst
    rw [Char.isDigit_iff_toNat]
    change 48 ≤ _ ∧ _ ≤ 57
    unfold lead at hfirst
    split_ifs at hfirst <;> dsimp only at hfirst <;> omega

/-- A text is made of digits exactly if its bytes are those of digits. -/
theorem forall_isDigitByte_iff : (∀ b ∈ bytes text, IsDigitByte b) ↔ ∀ c ∈ text.toList, c.isDigit = true := by
  rw [bytes_eq_flatMap, List.forall_mem_flatMap]
  simp only [isDigit_iff_bytes]

/-- A text of digits has as many bytes as characters. -/
theorem length_bytes_of_digits (hdigits : ∀ c ∈ text.toList, c.isDigit = true) :
    (bytes text).length = text.toList.length := by
  have hone : text.toList.map (fun c => (String.utf8EncodeChar c).length) = text.toList.map fun _ => 1 := by
    apply List.map_congr_left
    intro c hc
    rw [utf8EncodeChar_of_isDigit (hdigits c hc), List.length_singleton]
  rw [bytes_eq_flatMap, List.length_flatMap, hone, List.map_const', List.sum_replicate_nat, Nat.mul_one]

/-- Between digits a text may be cut anywhere. -/
theorem isValid_of_digits (hdigits : ∀ c ∈ text.toList, c.isDigit = true) {n : Nat} (hn : n ≤ text.toList.length) :
    String.Pos.Raw.IsValid text ⟨n⟩ := by
  have hfront : ∀ c ∈ (String.ofList (text.toList.take n)).toList, c.isDigit = true := by
    rw [String.toList_ofList]
    intro c hc
    exact hdigits c (List.mem_of_mem_take hc)
  rw [String.Pos.Raw.isValid_iff_exists_take_toList]
  refine ⟨n, ?_⟩
  rw [← length_bytes, length_bytes_of_digits hfront, String.toList_ofList, List.length_take, Nat.min_eq_left hn]

end Digits

/-- Texts are in the order of their bytes. -/
theorem bytes_lt_iff {s t : String} : bytes s < bytes t ↔ s < t := by
  have hmono : ∀ {s t : String}, s < t → bytes s < bytes t := by
    intro s t hlt
    rw [bytes_eq_flatMap, bytes_eq_flatMap]
    exact flatMap_utf8EncodeChar_lt (String.lt_iff_toList_lt.mp hlt)
  refine ⟨fun hbytes => ?_, hmono⟩
  obtain hlt | rfl | hgt := lt_trichotomy s t
  · exact hlt
  · exact absurd hbytes (List.lt_irrefl _)
  · exact absurd (hmono hgt) (List.lt_asymm hbytes)

end Daybook.Text

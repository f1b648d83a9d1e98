import TaintSummary.Api.FormEncoding
import TaintSummary.Proofs.Api.Target

/-!
# Reading form-encoded values

The reader of what `FormEncoding.encode` writes: a plus sign is a space, a percent sign with two digits is a byte, every other
character is itself, and the bytes are UTF-8. Every text is read back from its encoding (`decode?_encode`), which holds only
characters that may stand in a query (`isQueryChar_of_mem_encode`).
-/

namespace TaintSummary.Api.FormEncoding

/-- The byte of two hexadecimal digits. -/
def hexByte? (a b : Char) : Option UInt8 :=
  (Text.hexValue? a).bind fun x => (Text.hexValue? b).map fun y => UInt8.ofNat (x * 16 + y)

/-- The bytes that a written value stands for; `none` when two digits are missing after a percent sign. -/
def bytes? : Text → Option (List UInt8)
  | [] => some []
  | c :: rest =>
    if c = '%' then
      match rest with
      | a :: b :: rest => (hexByte? a b).bind fun x => (bytes? rest).map (x :: ·)
      | _ => none
    else (bytes? rest).map ((if c = '+' then [32] else String.utf8EncodeChar c) ++ ·)

/-- The text that a written value stands for; `none` when its bytes are no UTF-8. -/
def decode? (t : Text) : Option Text := (bytes? t).bind fun bs => bs.toByteArray.utf8Decode?.map Array.toList

/-- A character that is no percent sign stands for its own bytes, and a plus sign for a space. -/
theorem bytes?_cons_of_ne {c : Char} (h : c ≠ '%') (rest : Text) :
    bytes? (c :: rest) = (bytes? rest).map ((if c = '+' then [32] else String.utf8EncodeChar c) ++ ·) := by
  rw [bytes?.eq_def]
  exact if_neg h

/-- A byte is read from its two digits. -/
theorem hexPadded_two (b : UInt8) :
    ∃ x y, Text.hexPadded true 2 b.toNat = [x, y] ∧ hexByte? x y = some b := by
  have hb : b.toNat < 256 := b.toNat_lt
  refine ⟨Text.hexDigit true (b.toNat / 16 % 16), Text.hexDigit true (b.toNat % 16), rfl, ?_⟩
  have hsum : b.toNat / 16 % 16 * 16 + b.toNat % 16 = b.toNat := by omega
  rw [hexByte?, Text.hexValue?_hexDigit _ _ (Nat.mod_lt _ (by decide)),
    Text.hexValue?_hexDigit _ _ (Nat.mod_lt _ (by decide))]
  simp only [Option.bind_some, Option.map_some, hsum, UInt8.ofNat_toNat]

/-- A byte that is written as a character is the character's only byte, and the character is no mark of the encoding. -/
theorem isPlain_char {b : UInt8} (h : isPlain b = true) :
    Char.ofNat b.toNat ≠ '%' ∧ Char.ofNat b.toNat ≠ '+' ∧ String.utf8EncodeChar (Char.ofNat b.toNat) = [b] := by
  have all : ∀ n < 256, isPlain (UInt8.ofNat n) = true → Char.ofNat n ≠ '%' ∧ Char.ofNat n ≠ '+' ∧
      String.utf8EncodeChar (Char.ofNat n) = [UInt8.ofNat n] := by decide +kernel
  have hb := all b.toNat b.toNat_lt
  rw [UInt8.ofNat_toNat] at hb
  exact hb h

/-- What a byte is written as is read as the byte. -/
theorem bytes?_byte (b : UInt8) (rest : Text) : bytes? (byte b ++ rest) = (bytes? rest).map (b :: ·) := by
  unfold byte
  split
  · next h =>
    subst h
    exact bytes?_cons_of_ne (by decide) rest
  · split
    · next h =>
      obtain ⟨hpercent, hplus, hbytes⟩ := isPlain_char h
      rw [List.singleton_append, bytes?_cons_of_ne hpercent, if_neg hplus, hbytes]
      rfl
    · obtain ⟨x, y, hdigits, hbyte⟩ := hexPadded_two b
      rw [hdigits]
      simp [bytes?, hbyte]

/-- The bytes of a text are read back. -/
theorem bytes?_flatMap_byte (bs : List UInt8) : bytes? (bs.flatMap byte) = some bs := by
  induction bs with
  | nil => rfl
  | cons b bs ih => rw [List.flatMap_cons, bytes?_byte, ih, Option.map_some]

/-- Every text is read back from its encoding. -/
theorem decode?_encode (t : Text) : decode? (encode t) = some t := by
  have hutf8 : (t.flatMap String.utf8EncodeChar).toByteArray.utf8Decode? = some t.toArray := List.utf8Decode?_utf8Encode
  rw [decode?, encode, bytes?_flatMap_byte, Option.bind_some, hutf8]
  simp

/-- What a byte is written as is not empty. -/
theorem byte_ne_nil (b : UInt8) : byte b ≠ [] := by
  unfold byte
  split
  · simp
  · split <;> simp

/-- No text is longer than its encoding. -/
theorem length_le_length_encode (t : Text) : t.length ≤ (encode t).length :=
  Nat.le_trans (Target.length_le_length_flatMap (fun _ => String.utf8EncodeChar_ne_nil) t)
    (Target.length_le_length_flatMap byte_ne_nil _)

/-- What a byte is written as may stand in a query. -/
theorem isQueryChar_of_mem_byte {b : UInt8} {c : Char} (h : c ∈ byte b) : Target.isQueryChar c = true := by
  have all : ∀ n < 256, (byte (UInt8.ofNat n)).all Target.isQueryChar = true := by decide +kernel
  have hb := all b.toNat b.toNat_lt
  rw [UInt8.ofNat_toNat] at hb
  exact List.all_eq_true.mp hb c h

/-- An encoded text may stand in a query. -/
theorem isQueryChar_of_mem_encode {t : Text} {c : Char} (h : c ∈ encode t) : Target.isQueryChar c = true := by
  obtain ⟨b, -, hb⟩ := List.mem_flatMap.mp h
  exact isQueryChar_of_mem_byte hb

end TaintSummary.Api.FormEncoding

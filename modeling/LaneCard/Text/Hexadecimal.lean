import LaneCard.Bytes

/-!
# Hexadecimal text

Numbers are written in lower-case hexadecimal digits, either as short as possible or padded
with zeros to a fixed number of digits. A byte string is written as two digits a byte.
-/

namespace LaneCard.Text

/-- The shortest lower-case hexadecimal form; zero is one digit. -/
def hex (n : Nat) : String := String.ofList (Nat.toDigits 16 n)

/-- Hexadecimal digits with leading zeros up to the given width. -/
def hexPadded (width n : Nat) : String :=
  let digits := Nat.toDigits 16 n
  String.ofList (List.replicate (width - digits.length) '0' ++ digits)

/-- The shortest form behind the mark `0x`. -/
def hexMarked (n : Nat) : String := "0x" ++ hex n

/-- A bus address or register word: `0x` and at least eight digits. -/
def hexWord (n : Nat) : String := "0x" ++ hexPadded 8 n

/-- The two digits of a byte, the high one first. -/
def hexDigits (b : UInt8) : List Char :=
  [Nat.digitChar (b.toNat / 16), Nat.digitChar (b.toNat % 16)]

/-- A byte string, two digits a byte. -/
def hexBytes (b : Bytes) : String := String.ofList (b.data.toList.flatMap hexDigits)

/-- The value of a digit; other characters count as zero. -/
def digitValue (c : Char) : Nat :=
  if '0' ≤ c ∧ c ≤ '9' then c.toNat - 48
  else if 'a' ≤ c ∧ c ≤ 'f' then c.toNat - 87
  else if 'A' ≤ c ∧ c ≤ 'F' then c.toNat - 55
  else 0

/-- The bytes that pairs of digits stand for, behind the bytes already read. -/
def unhexPairs : List Char → Bytes → Bytes
  | high :: low :: rest, acc =>
    unhexPairs rest (acc.push (UInt8.ofNat (16 * digitValue high + digitValue low)))
  | _, acc => acc

/-- The byte string that a text of digits stands for. -/
def unhexBytes (s : String) : Bytes := unhexPairs s.toList ByteArray.empty

/-- A digit that was written is read with its value. -/
theorem digitValue_digitChar {n : Nat} (h : n < 16) : digitValue (Nat.digitChar n) = n := by
  have all : ∀ i : Fin 16, digitValue (Nat.digitChar i.val) = i.val := by decide
  exact all ⟨n, h⟩

/-- Bytes that were written as digits are read back, after those that were read before. -/
theorem unhexPairs_flatMap_hexDigits (bs : List UInt8) (acc : Bytes) :
    unhexPairs (bs.flatMap hexDigits) acc = ⟨acc.data ++ bs.toArray⟩ := by
  induction bs generalizing acc with
  | nil => simp [unhexPairs]
  | cons b rest ih =>
    have h := b.toNat_lt
    have whole : 16 * (b.toNat / 16) + b.toNat % 16 = b.toNat := by omega
    simp only [List.flatMap_cons, hexDigits, List.cons_append, List.nil_append, unhexPairs,
      digitValue_digitChar (show b.toNat / 16 < 16 by omega),
      digitValue_digitChar (show b.toNat % 16 < 16 by omega), whole, UInt8.ofNat_toNat]
    rw [ih]
    simp [ByteArray.data_push]

/-- A byte string that was written in digits reads back. -/
theorem unhexBytes_hexBytes (b : Bytes) : unhexBytes (hexBytes b) = b := by
  simp [unhexBytes, hexBytes, unhexPairs_flatMap_hexDigits]

end LaneCard.Text

/-!
# Words and bytes

The card speaks 32-bit words; memory and records hold bytes. A word is stored least
significant byte first. `Bytes.words` and `Bytes.ofWords` pass between the two views, and
the remaining operations read and replace stretches of a byte string.
-/

namespace LaneCard

/-- A register or frame word. -/
abbrev Word := BitVec 32

/-- A pointer into the caller's address space. -/
abbrev Pointer := BitVec 64

/-- A string of bytes. -/
abbrev Bytes := ByteArray

/-- The number of bytes in a word. -/
def wordSize : Nat := 4

/-- The number of values of a word: what 32 address bits reach. -/
def wordSpan : Nat := 0x100000000

/-- The number of values of a pointer. -/
def pointerSpan : Nat := 0x10000000000000000

/-- The number of lanes of a card. -/
def laneCount : Nat := 8

/-- The number of virtual channels of a lane. -/
def channelCount : Nat := 4

/-- The four bytes of a word, least significant first. -/
def Word.bytes (w : Word) : List UInt8 :=
  [UInt8.ofNat w.toNat, UInt8.ofNat (w.toNat / 0x100), UInt8.ofNat (w.toNat / 0x10000),
    UInt8.ofNat (w.toNat / 0x1000000)]

/-- The word with the given four bytes, least significant first. -/
def Word.ofBytes (a b c d : UInt8) : Word :=
  BitVec.ofNat 32 (a.toNat + b.toNat * 0x100 + c.toNat * 0x10000 + d.toNat * 0x1000000)

/-- Splitting a word into bytes loses nothing. -/
theorem Word.ofBytes_bytes (w : Word) :
    Word.ofBytes (UInt8.ofNat w.toNat) (UInt8.ofNat (w.toNat / 0x100))
      (UInt8.ofNat (w.toNat / 0x10000)) (UInt8.ofNat (w.toNat / 0x1000000)) = w := by
  apply BitVec.eq_of_toNat_eq
  have h := w.isLt
  simp only [Word.ofBytes, UInt8.toNat_ofNat', BitVec.toNat_ofNat]
  omega

/-- The low and the high word of a pointer. -/
def Pointer.words (p : Pointer) : List Word := [p.setWidth 32, (p >>> 32).setWidth 32]

/-- The pointer with the given low and high word. -/
def Pointer.ofWords (low high : Word) : Pointer := high ++ low

/-- A word as a pointer to the low four gigabytes. -/
def Pointer.ofWord (low : Word) : Pointer := low.setWidth 64

namespace Bytes

/-- The byte at a position, zero outside the string. -/
def byteAt (b : Bytes) (i : Nat) : UInt8 := if h : i < b.size then b[i] else 0

/-- The word whose first byte is at the given position. -/
def wordAt (b : Bytes) (i : Nat) : Word :=
  Word.ofBytes (b.byteAt i) (b.byteAt (i + 1)) (b.byteAt (i + 2)) (b.byteAt (i + 3))

/-- The whole words of a byte string; up to three bytes at the end are ignored. -/
def words (b : Bytes) : List Word := (List.range (b.size / 4)).map fun i => b.wordAt (4 * i)

/-- The byte string of a list of words. -/
def ofWords (ws : List Word) : Bytes := (ws.flatMap Word.bytes).toByteArray

/-- So many zero bytes. -/
def zeros (n : Nat) : Bytes := ⟨Array.replicate n 0⟩

/-- Cut or pad with zeros to the given length. -/
def fit (b : Bytes) (n : Nat) : Bytes := b.extract 0 n ++ zeros (n - b.size)

/-- Replace the bytes from `offset` on by `data`. -/
def overwrite (b : Bytes) (offset : Nat) (data : Bytes) : Bytes :=
  b.extract 0 offset ++ data ++ b.extract (offset + data.size) b.size

/-- Zeros are as many as asked for. -/
@[simp] theorem size_zeros (n : Nat) : (zeros n).size = n := by
  simp [zeros, ByteArray.size]

/-- A byte string that was cut or padded has the given length. -/
@[simp] theorem size_fit (b : Bytes) (n : Nat) : (b.fit n).size = n := by
  simp only [fit, ByteArray.size_append, ByteArray.size_extract, size_zeros]
  omega

/-- Replacing bytes within a byte string keeps its length. -/
theorem size_overwrite (b : Bytes) (offset : Nat) (data : Bytes)
    (h : offset + data.size ≤ b.size) : (b.overwrite offset data).size = b.size := by
  simp only [overwrite, ByteArray.size_append, ByteArray.size_extract]
  omega

end Bytes

end LaneCard

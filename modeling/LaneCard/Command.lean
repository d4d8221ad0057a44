import LaneCard.Bytes

/-!
# Control commands

A transmit record whose command code is not zero is a control command, and its data pointer
is the argument. Indexed commands address one of eight registers and have eight codes each;
two old codes are still read as index zero.
-/

namespace LaneCard

/-- A command of a transmit record. -/
inductive Command where
  /-- Send the data as a frame. -/
  | normalWrite
  /-- Store a status record at the argument. -/
  | readStatus
  /-- Pulse the counter reset. -/
  | countReset
  /-- Send an out-of-band code. -/
  | pgpOpCode
  | setLoop
  | clrLoop
  | setRxReset
  | clrRxReset
  | setTxReset
  | clrTxReset
  | evrEnable
  | evrDisable
  | evrSetReset
  | evrClrReset
  | evrSetPllRst
  | evrClrPllRst
  /-- Mask virtual channels of the timing receiver. -/
  | evrMask
  | evrRunCode (index : UInt8)
  | evrAcceptCode (index : UInt8)
  | evrRunDelay (index : UInt8)
  | evrAcceptDelay (index : UInt8)
  | nop
  /-- Set the level of detail of the journal. -/
  | setDebug
  /-- Write the diagnostics to the journal. -/
  | dumpDebug
  deriving Repr, DecidableEq

namespace Command

/-- The command with a code, if there is one. -/
def ofCode? (code : Nat) : Option Command :=
  match code with
  | 0x00 => some normalWrite
  | 0x01 => some readStatus
  | 0x02 => some countReset
  | 0x03 => some pgpOpCode
  | 0x10 => some setLoop
  | 0x11 => some clrLoop
  | 0x12 => some setRxReset
  | 0x13 => some clrRxReset
  | 0x14 => some setTxReset
  | 0x15 => some clrTxReset
  | 0x20 => some (evrRunCode 0)
  | 0x21 => some (evrAcceptCode 0)
  | 0x22 => some evrEnable
  | 0x23 => some evrDisable
  | 0x24 => some evrSetReset
  | 0x25 => some evrClrReset
  | 0x26 => some evrSetPllRst
  | 0x27 => some evrClrPllRst
  | 0x28 => some evrMask
  | 0xFD => some nop
  | 0xFE => some setDebug
  | 0xFF => some dumpDebug
  | _ =>
    if 0x30 ≤ code ∧ code < 0x38 then some (evrRunCode (UInt8.ofNat (code - 0x30)))
    else if 0x38 ≤ code ∧ code < 0x40 then some (evrAcceptCode (UInt8.ofNat (code - 0x38)))
    else if 0x40 ≤ code ∧ code < 0x48 then some (evrRunDelay (UInt8.ofNat (code - 0x40)))
    else if 0x48 ≤ code ∧ code < 0x50 then some (evrAcceptDelay (UInt8.ofNat (code - 0x48)))
    else none

/-- The code of a command. -/
def code : Command → Nat
  | normalWrite => 0x00
  | readStatus => 0x01
  | countReset => 0x02
  | pgpOpCode => 0x03
  | setLoop => 0x10
  | clrLoop => 0x11
  | setRxReset => 0x12
  | clrRxReset => 0x13
  | setTxReset => 0x14
  | clrTxReset => 0x15
  | evrEnable => 0x22
  | evrDisable => 0x23
  | evrSetReset => 0x24
  | evrClrReset => 0x25
  | evrSetPllRst => 0x26
  | evrClrPllRst => 0x27
  | evrMask => 0x28
  | evrRunCode index => 0x30 + index.toNat
  | evrAcceptCode index => 0x38 + index.toNat
  | evrRunDelay index => 0x40 + index.toNat
  | evrAcceptDelay index => 0x48 + index.toNat
  | nop => 0xFD
  | setDebug => 0xFE
  | dumpDebug => 0xFF

/-- The name of a command, without an index. -/
def name : Command → String
  | normalWrite => "NormalWrite"
  | readStatus => "ReadStatus"
  | countReset => "CountReset"
  | pgpOpCode => "PgpOpCode"
  | setLoop => "SetLoop"
  | clrLoop => "ClrLoop"
  | setRxReset => "SetRxReset"
  | clrRxReset => "ClrRxReset"
  | setTxReset => "SetTxReset"
  | clrTxReset => "ClrTxReset"
  | evrEnable => "EvrEnable"
  | evrDisable => "EvrDisable"
  | evrSetReset => "EvrSetReset"
  | evrClrReset => "EvrClrReset"
  | evrSetPllRst => "EvrSetPllRst"
  | evrClrPllRst => "EvrClrPllRst"
  | evrMask => "EvrMask"
  | evrRunCode _ => "EvrRunCode"
  | evrAcceptCode _ => "EvrAcceptCode"
  | evrRunDelay _ => "EvrRunDelay"
  | evrAcceptDelay _ => "EvrAcceptDelay"
  | nop => "Nop"
  | setDebug => "SetDebug"
  | dumpDebug => "DumpDebug"

/-- The index of an indexed command. -/
def index? : Command → Option UInt8
  | evrRunCode index | evrAcceptCode index | evrRunDelay index | evrAcceptDelay index => some index
  | _ => none

/-- The index, where there is one, names one of eight registers. -/
def InRange (c : Command) : Prop := ∀ index ∈ c.index?, index.toNat < 8

/-- An indexed command is in range if its index is. -/
theorem inRange_of_index? {c : Command} {index : UInt8} (hc : c.index? = some index) (hindex : index.toNat < 8) :
    c.InRange := by
  intro other hother
  rw [hc] at hother
  obtain rfl := Option.some.inj hother
  exact hindex

/-- A command is read back from its code. -/
theorem ofCode?_code {command : Command} (hrange : command.InRange) : ofCode? command.code = some command := by
  -- An index below eight is one of eight numbers.
  have hindexed (block : UInt8 → Command) {index : UInt8} (hindex : index.toNat < 8)
      (hcodes : ∀ n < 8, ofCode? (block (UInt8.ofNat n)).code = some (block (UInt8.ofNat n))) :
      ofCode? (block index).code = some (block index) := by
    have hread := hcodes index.toNat hindex
    rwa [UInt8.ofNat_toNat] at hread
  cases command with
  | evrRunCode index => exact hindexed evrRunCode (hrange index rfl) (by decide)
  | evrAcceptCode index => exact hindexed evrAcceptCode (hrange index rfl) (by decide)
  | evrRunDelay index => exact hindexed evrRunDelay (hrange index rfl) (by decide)
  | evrAcceptDelay index => exact hindexed evrAcceptDelay (hrange index rfl) (by decide)
  | _ => rfl

/-- A code in a block of eight is the code of the register that it names there. -/
theorem code_of_block {code base : Nat} (hcode : base ≤ code ∧ code < base + 8) (block : UInt8 → Command)
    (hblock : ∀ index, (block index).code = base + index.toNat ∧ (block index).index? = some index) :
    (block (UInt8.ofNat (code - base))).InRange ∧ code = (block (UInt8.ofNat (code - base))).code := by
  have hindex : (UInt8.ofNat (code - base)).toNat = code - base := by
    rw [UInt8.toNat_ofNat']
    omega
  obtain ⟨hnumber, hnamed⟩ := hblock (UInt8.ofNat (code - base))
  exact ⟨inRange_of_index? hnamed (by omega), by rw [hnumber, hindex]; omega⟩

/-- A code that is read is the code of its command, or one of the two old ones, and an index that is read names a
register. -/
theorem of_ofCode? {code : Nat} {command : Command} (h : ofCode? code = some command) :
    command.InRange ∧ (code = command.code ∨ code = 0x20 ∧ command = evrRunCode 0 ∨
      code = 0x21 ∧ command = evrAcceptCode 0) := by
  have hread {block : UInt8 → Command} {base : Nat} (hcode : base ≤ code ∧ code < base + 8)
      (h : some (block (UInt8.ofNat (code - base))) = some command)
      (hblock : ∀ index, (block index).code = base + index.toNat ∧ (block index).index? = some index) :
      command.InRange ∧ (code = command.code ∨ code = 0x20 ∧ command = evrRunCode 0 ∨
        code = 0x21 ∧ command = evrAcceptCode 0) := by
    obtain rfl := Option.some.inj h
    exact (code_of_block hcode block hblock).imp_right .inl
  unfold ofCode? at h
  split at h
  case h_23 =>
    split at h
    · exact hread ‹_› h fun _ => ⟨rfl, rfl⟩
    split at h
    · exact hread ‹_› h fun _ => ⟨rfl, rfl⟩
    split at h
    · exact hread ‹_› h fun _ => ⟨rfl, rfl⟩
    split at h
    · exact hread ‹_› h fun _ => ⟨rfl, rfl⟩
    · contradiction
  case h_11 =>
    obtain rfl := Option.some.inj h
    exact ⟨inRange_of_index? rfl (by decide), .inr (.inl ⟨rfl, rfl⟩)⟩
  case h_12 =>
    obtain rfl := Option.some.inj h
    exact ⟨inRange_of_index? rfl (by decide), .inr (.inr ⟨rfl, rfl⟩)⟩
  all_goals
    obtain rfl := Option.some.inj h
    exact ⟨nofun, .inl rfl⟩

/-- The code of a frame is zero, and no other code is read as a frame. -/
theorem eq_zero_of_normalWrite {code : Nat} (h : ofCode? code = some normalWrite) : code = 0 := by
  obtain ⟨-, hcode | ⟨-, hother⟩ | ⟨-, hother⟩⟩ := of_ofCode? h
  · exact hcode
  · contradiction
  · contradiction

/-- A command as it appears in the journal: its name, and the index in brackets. -/
def text (c : Command) : String :=
  match c.index? with
  | some index => s!"{c.name}({index.toNat})"
  | none => c.name

/-- Every command, the indexed ones at the given index. -/
def all (index : UInt8) : List Command :=
  [normalWrite, readStatus, countReset, pgpOpCode, setLoop, clrLoop, setRxReset, clrRxReset,
    setTxReset, clrTxReset, evrEnable, evrDisable, evrSetReset, evrClrReset, evrSetPllRst,
    evrClrPllRst, evrMask, evrRunCode index, evrAcceptCode index, evrRunDelay index,
    evrAcceptDelay index, nop, setDebug, dumpDebug]

/-- The command with a name, taking the index where it has one. -/
def ofName? (name : String) (index : UInt8) : Option Command :=
  (all index).find? fun c => c.name == name

end Command

end LaneCard

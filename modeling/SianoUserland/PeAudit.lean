import SianoUserland.AuditArtifact

/-! The reader of Windows executables of `audit-artifact.py`: the section table, the debug directory
and what its entries refer to. -/
namespace SianoUserland.PeAudit
open AuditArtifact Check Slice Struct Text

/-! ## The headers -/

/-- A row of the section table. -/
structure Section where
  virtualAddress : Nat
  virtualSize : Nat
  rawSize : Nat
  rawOffset : Nat
  deriving Repr, DecidableEq

def sectionAt (data : List UInt8) (start : Nat) : Section where
  virtualAddress := field data (start + 12) 4
  virtualSize := field data (start + 8) 4
  rawSize := field data (start + 16) 4
  rawOffset := field data (start + 20) 4

/-- `decode("ascii", errors="replace")`. -/
def decodeAscii (data : List UInt8) : Str :=
  data.map fun byte => if byte < 0x80 then byte.toNat else 0xFFFD

/-- Where the rows of the section table begin. -/
def sectionStarts (data : List UInt8) (peOffset optionalSize : Nat) : List Nat :=
  (List.range (field data (peOffset + 6) 2)).map fun index =>
    peOffset + 24 + optionalSize + index * 40

/-- The range check of `_pe_rva_to_file_offset`. -/
def Section.contains (row : Section) (rva : Nat) : Bool :=
  row.virtualAddress ≤ rva && rva < row.virtualAddress + max row.virtualSize row.rawSize

/-- `_pe_rva_to_file_offset`. -/
def peRvaToFileOffset (data : List UInt8) (rva : Nat) (label : Str) : List Section → Audit Nat
  | [] => .error (fail "Windows PE RVA is not backed by file data: " label)
  | row :: rest =>
    if row.contains rva then
      let offset := row.rawOffset + rva - row.virtualAddress
      if data.length < offset then
        .error (fail "Windows PE RVA is not backed by file data: " label)
      else .ok offset
    else peRvaToFileOffset data rva label rest

/-! ## The debug directory -/

/-- What is used of the record `<IIHHIIII`. -/
structure DebugEntry where
  debugType : Nat
  sizeOfData : Nat
  addressOfRawData : Nat
  pointerToRawData : Nat
  deriving Repr, DecidableEq

def DebugEntry.read (record : List UInt8) : DebugEntry where
  debugType := field record 12 4
  sizeOfData := field record 16 4
  addressOfRawData := field record 20 4
  pointerToRawData := field record 24 4

/-- An entry that was inspected: its address, its place in the file, what was read there, and the
address of its payload with the offset it was mapped to. -/
structure Inspected where
  rva : Nat
  offset : Nat
  entry : DebugEntry
  mapped : Option (Nat × Nat)
  deriving Repr, DecidableEq

/-- One pass of the loop over the entries. -/
def inspectEntry (data : List UInt8) (sections : List Section) (label : Str) (rva offset : Nat) :
    Audit Inspected := do
  let entry ← unpackFrom 28 DebugEntry.read data offset
  if entry.sizeOfData = 0 then return ⟨rva, offset, entry, none⟩
  else
    require (entry.pointerToRawData + entry.sizeOfData ≤ data.length)
      (fail "Windows PE debug payload exceeds file: " label)
    if entry.addressOfRawData = 0 then return ⟨rva, offset, entry, none⟩
    else
      let place ← peRvaToFileOffset data entry.addressOfRawData label sections
      return ⟨rva, offset, entry, some (entry.addressOfRawData, place)⟩

/-- The loop over the entries. -/
def inspectEntries (data : List UInt8) (sections : List Section) (label : Str) :
    Nat → Nat → Nat → Audit (List Inspected)
  | 0, _, _ => .ok []
  | count + 1, rva, offset => do
    let first ← inspectEntry data sections label rva offset
    let rest ← inspectEntries data sections label count (rva + 28) (offset + 28)
    return first :: rest

/-- What an audit has looked at: the section names, the place of the debug directory and its
entries. -/
structure Report where
  sectionNames : List Str
  directory : Option (Nat × Nat) := none
  inspected : List Inspected := []
  deriving Repr, DecidableEq

/-- Every address that was mapped, with the offset. -/
def Report.mapped (report : Report) : List (Nat × Nat) :=
  report.directory.toList ++ report.inspected.filterMap Inspected.mapped

variable {data : List UInt8} {sections : List Section} {label : Str}

/-- The section whose address range contains an address, the first in the table. -/
def sectionOf (sections : List Section) (rva : Nat) : Option Section :=
  sections.find? (·.contains rva)

/-- The entry at a place of the file. -/
def entryAt (data : List UInt8) (offset : Nat) : DebugEntry where
  debugType := field data (offset + 12) 4
  sizeOfData := field data (offset + 16) 4
  addressOfRawData := field data (offset + 20) 4
  pointerToRawData := field data (offset + 24) 4

/-- The address of its payload that an entry has mapped, if it has one. -/
def payloadAddress (entry : DebugEntry) : Option Nat :=
  if entry.sizeOfData = 0 ∨ entry.addressOfRawData = 0 then none
  else some entry.addressOfRawData

/-- What one pass over an entry records. -/
structure Records (data : List UInt8) (sections : List Section) (rva offset : Nat)
    (inspected : Inspected) : Prop where
  address : inspected.rva = rva
  place : inspected.offset = offset
  within : offset + 28 ≤ data.length
  entry : inspected.entry = entryAt data offset
  mapped : match payloadAddress (entryAt data offset) with
    | none => inspected.mapped = none
    | some address => ∃ row, sectionOf sections address = some row ∧
        inspected.mapped = some (address, row.rawOffset + address - row.virtualAddress)

/-- The section table of a file. -/
def sectionTable (data : List UInt8) : List Section :=
  (sectionStarts data (field data 0x3C 4) (field data (field data 0x3C 4 + 20) 2)).map
    (sectionAt data)

/-- The address of the debug directory. -/
def debugRva (data : List UInt8) : Nat := field data (field data 0x3C 4 + 24 + 112 + 6 * 8) 4

/-- The size of the debug directory. -/
def debugSize (data : List UInt8) : Nat := field data (field data 0x3C 4 + 24 + 112 + 6 * 8 + 4) 4

/-- The place of the debug directory in a section. -/
def debugOffset (data : List UInt8) (row : Section) : Nat :=
  row.rawOffset + debugRva data - row.virtualAddress

/-- A byte of a section in memory: the loader maps the raw data, and zeros behind them. -/
def loaded (data : List UInt8) (row : Section) (rva : Nat) : UInt8 :=
  if rva - row.virtualAddress < row.rawSize then
    data.getD (row.rawOffset + (rva - row.virtualAddress)) 0
  else 0

variable {report : Report} {row : Section}

/-- What is known of an audit that has found a debug directory. -/
structure Found (data : List UInt8) (label : Str) (report : Report) (row : Section) : Prop where
  holds : sectionOf (sectionTable data) (debugRva data) = some row
  place : report.directory = some (debugRva data, debugOffset data row)
  least : 28 ≤ debugSize data
  whole : debugSize data % 28 = 0
  read : inspectEntries data (sectionTable data) label (debugSize data / 28) (debugRva data)
    (debugOffset data row) = .ok report.inspected

end SianoUserland.PeAudit

import HsaModule.Binary.Header
import HsaModule.Logged

/-!
Binary modules and the sections in them. The table of section offsets has eight bytes for each
section. Nothing is checked before it is asked for: a section that does not fit in the buffer is
found all the same, and reading it then ends in an error.
-/

namespace HsaModule.Binary

structure Module where
  data : Bytes
  header : Header
  parse?_data : Header.parse? data = some header

structure Section where
  data : Bytes
  offset : UInt32
  deriving DecidableEq

inductive StandardSection
  | data
  | code
  | operand
  deriving DecidableEq, Repr

namespace StandardSection

def label : StandardSection → String
  | data => "Data"
  | code => "Code"
  | operand => "Operand"

instance : Coded StandardSection where
  family := "SectionIndex"
  capacity := UInt32.size
  members := [data, code, operand]
  code s := s.ctorIdx
  label := label

instance : LawfulCoded StandardSection where
  mem_members s := by cases s <;> decide
  ascending := by decide
  code_lt := by decide

end StandardSection

namespace Module

def load (data : Bytes) : Except Error Module :=
  match h : Header.parse? data with
  | some header => .ok { data, header, parse?_data := h }
  | none => .error .notBrig

def entryOffset? (m : Module) (index : UInt32) : Option UInt64 := do
  let delta ← Word.mul? index.toUInt64 8
  Word.add? m.header.tableOffset delta

def entry (m : Module) (index : UInt32) : Except Error UInt64 :=
  match m.entryOffset? index with
  | some offset => m.data.word64 offset
  | none => .error (.truncated (UInt64.ofNat (UInt64.size - 1)) 8)

/-- The section of that index. Its offset has to stay below the largest 32-bit number. -/
def sectionAt (m : Module) (index : UInt32) : Logged Error Section :=
  if index < m.header.sectionCount then do
    let offset ← Logged.ofExcept (m.entry index)
    if offset.toNat < UInt32.size - 1 then do
      Logged.notice (.sectionFound index offset.toUInt32)
      return { data := m.data, offset := offset.toUInt32 }
    else .fail (.contract (.sectionOffset offset))
  else .fail (.contract (.sectionIndex index m.header.sectionCount))

def standardSection (m : Module) (s : StandardSection) : Logged Error Section :=
  m.sectionAt (UInt32.ofNat (Coded.code s))

def firstSections (m : Module) (n : Nat) : List (Logged Error Section) :=
  (List.range (min n m.header.sectionCount.toNat)).map fun i => m.sectionAt (UInt32.ofNat i)

def sections (m : Module) : List (Logged Error Section) :=
  m.firstSections m.header.sectionCount.toNat

theorem load_eq_ok (m : Module) : load m.data = .ok m := by
  obtain ⟨data, header, h⟩ := m
  unfold load
  split
  · rename_i header' h'
    obtain rfl : header' = header := Option.some.inj (h'.symm.trans h)
    rfl
  · rename_i h'
    simp [h'] at h

end Module

namespace Section

def fieldOffset (s : Section) (delta : UInt64) : UInt64 := s.offset.toUInt64 + delta

def byteCount (s : Section) : Except Error UInt64 := s.data.word64 (s.fieldOffset 0)

/-- Size of the section's header, the name included. -/
def headerByteCount (s : Section) : Except Error UInt32 := s.data.word32 (s.fieldOffset 8)

def name (s : Section) : Except Error Bytes := do
  let size ← s.data.word32 (s.fieldOffset 12)
  s.data.slice (s.fieldOffset 16) size.toUInt64

def contents (s : Section) : Except Error Bytes := do
  let size ← s.byteCount
  s.data.slice (s.fieldOffset 0) size

end Section

end HsaModule.Binary

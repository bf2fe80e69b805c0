import HsaModule.Proofs.Binary.Header

/-!
Modules before they are written: the header comes first, then the table of section offsets, then
the sections, one after the other. A section starts with its size, the size of its header, and its
name, which zeros pad to a multiple of four bytes.
-/

namespace HsaModule.Binary

structure SectionDraft where
  name : Bytes
  payload : Bytes
  deriving DecidableEq

namespace SectionDraft

def padding (s : SectionDraft) : Nat := (4 - s.name.length % 4) % 4

def headerSize (s : SectionDraft) : Nat := 16 + s.name.length + s.padding

def size (s : SectionDraft) : Nat := s.headerSize + s.payload.length

def toBytes (s : SectionDraft) : Bytes :=
  Bytes.ofNumber 8 s.size ++ Bytes.ofNumber 4 s.headerSize ++ Bytes.ofNumber 4 s.name.length ++
    s.name ++ List.replicate s.padding 0 ++ s.payload

@[simp] theorem length_toBytes (s : SectionDraft) : s.toBytes.length = s.size := by
  simp only [toBytes, size, headerSize, List.length_append, Bytes.length_ofNumber,
    List.length_replicate]

def offsets (start : Nat) : List SectionDraft → List Nat
  | [] => []
  | s :: rest => start :: offsets (start + s.size) rest

@[simp] theorem length_offsets (start : Nat) (sections : List SectionDraft) :
    (offsets start sections).length = sections.length := by
  induction sections generalizing start with
  | nil => rfl
  | cons s rest ih => simp [offsets, ih]

end SectionDraft

structure Draft where
  major : UInt32
  minor : UInt32
  byteCount : UInt64
  hash : Block 64
  reserved : Block 4
  sections : List SectionDraft
  deriving DecidableEq

namespace Draft

def header (d : Draft) : Header where
  major := d.major
  minor := d.minor
  byteCount := d.byteCount
  hash := d.hash
  sectionCount := UInt32.ofNat d.sections.length
  tableOffset := UInt64.ofNat Header.size

def sectionsOffset (d : Draft) : Nat := Header.size + 8 * d.sections.length

def offsets (d : Draft) : List Nat := SectionDraft.offsets d.sectionsOffset d.sections

def table (d : Draft) : Bytes := d.offsets.flatMap (Bytes.ofNumber 8)

def toBytes (d : Draft) : Bytes :=
  d.header.toBytes d.reserved ++ d.table ++ d.sections.flatMap SectionDraft.toBytes

end Draft

end HsaModule.Binary

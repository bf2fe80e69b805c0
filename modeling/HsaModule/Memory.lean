import HsaModule.Coded

namespace HsaModule

inductive Segment
  | flat
  | global
  | readonly
  | kernarg
  | group
  | privateData
  | spill
  | arg
  deriving DecidableEq, Repr

namespace Segment

def label : Segment → String
  | flat => "Flat"
  | global => "Global"
  | readonly => "Readonly"
  | kernarg => "Kernarg"
  | group => "Group"
  | privateData => "Private"
  | spill => "Spill"
  | arg => "Arg"

instance : Coded Segment where
  family := "Segment"
  capacity := UInt8.size
  members := [flat, global, readonly, kernarg, group, privateData, spill, arg]
  code s := s.ctorIdx + 1
  label := label

instance : LawfulCoded Segment where
  mem_members s := by cases s <;> decide
  ascending := by decide
  code_lt := by decide

def isAddressable : Segment → Bool
  | arg | spill => false
  | _ => true

/-- Addresses into this segment have the width of a flat address. -/
def isFlatSized : Segment → Bool
  | flat | global | readonly | kernarg => true
  | _ => false

end Segment

inductive MemoryScope
  | workItem
  | wavefront
  | workGroup
  | agent
  | system
  deriving DecidableEq, Repr

namespace MemoryScope

def label : MemoryScope → String
  | workItem => "WorkItem"
  | wavefront => "Wavefront"
  | workGroup => "WorkGroup"
  | agent => "Agent"
  | system => "System"

instance : Coded MemoryScope where
  family := "MemoryScope"
  capacity := UInt8.size
  members := [workItem, wavefront, workGroup, agent, system]
  code s := s.ctorIdx + 1
  label := label

instance : LawfulCoded MemoryScope where
  mem_members s := by cases s <;> decide
  ascending := by decide
  code_lt := by decide

end MemoryScope

inductive Linkage
  | none
  | program
  | module
  | function
  | arg
  deriving DecidableEq, Repr

namespace Linkage

def label : Linkage → String
  | none => "None"
  | program => "Program"
  | module => "Module"
  | function => "Function"
  | arg => "Arg"

instance : Coded Linkage where
  family := "Linkage"
  capacity := UInt8.size
  members := [none, program, module, function, arg]
  code l := l.ctorIdx
  label := label

instance : LawfulCoded Linkage where
  mem_members l := by cases l <;> decide
  ascending := by decide
  code_lt := by decide

end Linkage

end HsaModule

namespace HsaModule

inductive Property
  | type
  | sourceType
  | coordType
  | signalType
  | imageType
  | segment
  | pack
  | equivClass
  | round
  | ftz
  | width
  | globalSegmentMemoryScope
  | groupSegmentMemoryScope
  | imageSegmentMemoryScope
  deriving DecidableEq, Repr

namespace Property

def members : List Property :=
  [type, sourceType, coordType, signalType, imageType, segment, pack, equivClass, round, ftz,
    width, globalSegmentMemoryScope, groupSegmentMemoryScope, imageSegmentMemoryScope]

def label : Property → String
  | type => "Type"
  | sourceType => "SourceType"
  | coordType => "CoordType"
  | signalType => "SignalType"
  | imageType => "ImageType"
  | segment => "Segment"
  | pack => "Pack"
  | equivClass => "EquivClass"
  | round => "Round"
  | ftz => "Ftz"
  | width => "Width"
  | globalSegmentMemoryScope => "GlobalSegmentMemoryScope"
  | groupSegmentMemoryScope => "GroupSegmentMemoryScope"
  | imageSegmentMemoryScope => "ImageSegmentMemoryScope"

def isType : Property → Bool
  | type | sourceType | coordType | signalType | imageType => true
  | _ => false

end Property

end HsaModule

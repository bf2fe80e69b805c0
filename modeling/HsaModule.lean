import HsaModule.Alignment
import HsaModule.Binary.Header
import HsaModule.Binary.Module
import HsaModule.Bytes
import HsaModule.Coded
import HsaModule.Coded.Decode
import HsaModule.DataType.Basic
import HsaModule.DataType.Category
import HsaModule.DataType.Conversion
import HsaModule.DataType.Size
import HsaModule.Error
import HsaModule.Instruction
import HsaModule.Item.Basic
import HsaModule.Item.Constant
import HsaModule.Item.Directive
import HsaModule.Item.Operand
import HsaModule.ItemKind
import HsaModule.LaunchControl.Basic
import HsaModule.LaunchControl.Check
import HsaModule.Layout
import HsaModule.Legality
import HsaModule.Logged
import HsaModule.Memory
import HsaModule.Notice
import HsaModule.Opcode
import HsaModule.Packing
import HsaModule.Property
import HsaModule.Register
import HsaModule.Rounding
import HsaModule.Target
import HsaModule.Width
import HsaModule.Word
import HsaModule.Proofs.Binary.Lookup
import HsaModule.Proofs.Binary.Section
import HsaModule.Proofs.Binary.Navigation
import HsaModule.Proofs.Binary.Header
import HsaModule.Proofs.Binary.Draft
import HsaModule.Proofs.Binary.RoundTrip
import HsaModule.Proofs.Alignment.RoundUp
import HsaModule.Proofs.Layout.Aggregate
import HsaModule.Proofs.LaunchControl.Grammar
import HsaModule.Proofs.Legality.Objection
import HsaModule.Proofs.Legality.Question
import HsaModule.Proofs.Legality.Extension
import HsaModule.Proofs.Legality.Attribute
import HsaModule.Proofs.Legality.Image
import HsaModule.Proofs.Log.Line
import HsaModule.Proofs.Log.Warning
import HsaModule.Proofs.Log.Lookup
import HsaModule.Proofs.Log.Refusal
import HsaModule.Proofs.Bytes.Change
import HsaModule.Proofs.Binary.Growth
import HsaModule.Proofs.Binary.Table
import HsaModule.Proofs.Word.AlignUp
import HsaModule.Proofs.Alignment.Order
import HsaModule.Proofs.Layout.Split
import HsaModule.Proofs.Layout.Range
import HsaModule.Proofs.Layout.Rounded
import HsaModule.Proofs.Legality.Evidence
import HsaModule.Proofs.DataType.Encoded
import HsaModule.Proofs.Layout.Variable
import HsaModule.Proofs.Layout.Array
import HsaModule.Proofs.Instruction.Attribute
import HsaModule.Proofs.DataType.Packed
import HsaModule.Proofs.Item.Words
import HsaModule.Proofs.Legality.Modifier
import HsaModule.Proofs.Item.Address
import HsaModule.Proofs.Item.Kind
import HsaModule.Proofs.Register.Name
import HsaModule.Proofs.Bytes.LittleEndian

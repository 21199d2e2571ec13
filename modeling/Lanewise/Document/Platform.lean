import Lanewise.DataLayout
import Lanewise.Document.Record
import Lanewise.Triple

namespace Lanewise

def Triple.record : Record Triple where
  name := "Triple"
  base := ⟨"", "", "", none⟩
  isStrict := true
  fields := [
    .of "arch" .text (·.arch) fun arch triple => { triple with arch },
    .of "vendor" .text (·.vendor) fun vendor triple => { triple with vendor },
    .of "os" .text (·.os) fun os triple => { triple with os },
    .nullable "environment" .text (·.environment)
      fun environment triple => { triple with environment }]

def AlignTable.document (table : AlignTable) : Document :=
  .map (table.map fun entry => (toString entry.1.toNat, .word entry.2))

def DataLayout.document (layout : DataLayout) : Document :=
  .map [
    ("source", .text layout.source),
    ("endianness", .keyword layout.endianness),
    ("pointer_bits", .word layout.pointerBits),
    ("pointer_align", .word layout.pointerAlign),
    ("stack_align", .word layout.stackAlign),
    ("native_ints", .words layout.nativeInts),
    ("int_align", layout.intAlign.document),
    ("float_align", layout.floatAlign.document)]

def StructPlacement.document (placement : StructPlacement) : Document :=
  .map [
    ("offsets", .seq (placement.offsets.map .nat)),
    ("size", .nat placement.size),
    ("align", .nat placement.align)]

end Lanewise

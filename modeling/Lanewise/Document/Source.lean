import Lanewise.Document.Record
import Lanewise.Source

namespace Lanewise

def Span.record : Record Span where
  name := "SourcePos"
  base := .unknown
  isStrict := true
  fields := [
    .of "file" .text (·.file) fun file span => { span with file },
    .of "first-line" .word (·.first.line) fun line span => { span with first.line := line },
    .of "first-column" .word (·.first.column)
      fun column span => { span with first.column := column },
    .of "last-line" .word (·.last.line) fun line span => { span with last.line := line },
    .of "last-column" .word (·.last.column) fun column span => { span with last.column := column }]

def FileLine.record : Record FileLine where
  name := "Suppression"
  base := (0, "")
  isStrict := true
  fields := [
    .of "file" .text (·.2) fun file line => (line.1, file),
    .of "line" .word (·.1) fun number line => (number, line.2)]

def SilencedLines.document (set : SilencedLines) : Document :=
  .map [("lines", .seq (set.lines.map fun line => .seq [.word line.1, .text line.2]))]

end Lanewise

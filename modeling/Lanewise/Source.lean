import Lanewise.Text.Basic

namespace Lanewise

structure Place where
  line : UInt32
  column : UInt32
  deriving DecidableEq, Repr

namespace Place

def le (a b : Place) : Bool := a.line < b.line || (a.line == b.line && a.column ≤ b.column)

def earlier (a b : Place) : Place := if a.le b then a else b

def later (a b : Place) : Place := if a.le b then b else a

end Place

structure Span where
  file : String
  first : Place
  last : Place
  deriving DecidableEq, Repr

namespace Span

def point (file : String) (line column : UInt32) : Span :=
  ⟨file, ⟨line, column⟩, ⟨line, column⟩⟩

def unknown : Span := point "(unknown)" 1 1

/-- The least span that covers both, in the file of the first. -/
def union (a b : Span) : Span :=
  ⟨a.file, a.first.earlier b.first, a.last.later b.last⟩

def display (span : Span) : String :=
  span.file ++ ":" ++ toString span.first.line.toNat ++ ":" ++ toString span.first.column.toNat

end Span

abbrev FileLine := UInt32 × String

def FileLine.before (a b : FileLine) : Bool := a.1 < b.1 || (a.1 == b.1 && a.2 < b.2)

structure SilencedLines where
  lines : List FileLine
  deriving DecidableEq, Repr

namespace SilencedLines

def empty : SilencedLines := ⟨[]⟩

def insertLine (line : FileLine) : List FileLine → List FileLine
  | [] => [line]
  | head :: rest =>
      if line = head then head :: rest
      else if FileLine.before line head then line :: head :: rest
      else head :: insertLine line rest

def insert (set : SilencedLines) (line : UInt32) (file : String) : SilencedLines :=
  ⟨insertLine (line, file) set.lines⟩

def contains (set : SilencedLines) (line : UInt32) (file : String) : Bool :=
  set.lines.contains (line, file)

/-- Whether a message about a span is silenced: its first line counts. -/
def covers (set : SilencedLines) (span : Span) : Bool :=
  set.contains span.first.line span.file

def size (set : SilencedLines) : Nat := set.lines.length

def isEmpty (set : SilencedLines) : Bool := set.lines.isEmpty

end SilencedLines

end Lanewise

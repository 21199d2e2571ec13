namespace Lanewise

class Keyword (α : Type) where
  all : List α
  word : α → String

def Keyword.words (α : Type) [Keyword α] : List String :=
  (Keyword.all : List α).map Keyword.word

def Keyword.ofWord? {α : Type} [Keyword α] (text : String) : Option α :=
  Keyword.all.find? fun value => Keyword.word value == text

end Lanewise

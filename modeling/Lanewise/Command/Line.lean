import Lanewise.Command.Describe

namespace Lanewise

inductive Command where
  | targets (family : Option String)
  | cpus
  | describe (words : Description) (backend : String) (format : Option String)
  | check (path backend : String) (format : Option String)
  | template
  deriving DecidableEq, Repr

inductive NoCommand where
  | help
  | version
  | misuse
  deriving DecidableEq, Repr

namespace CommandLine

inductive Name where
  | targets
  | cpus
  | describe
  | check
  | template
  deriving DecidableEq, Repr

instance : Keyword Name where
  all := [.targets, .cpus, .describe, .check, .template]
  word
    | .targets => "targets"
    | .cpus => "cpus"
    | .describe => "describe"
    | .check => "check"
    | .template => "template"

namespace Name

def options : Name → List String
  | targets => ["family"]
  | describe => ["cpu", "arch", "os", "opt", "backend", "format"]
  | check => ["backend", "format"]
  | cpus | template => []

def isRepeatable (option : String) : Bool := option == "opt"

def operandLimit : Name → Nat
  | describe | check => 1
  | targets | cpus | template => 0

def admitsOperand (name : Name) (text : String) : Bool := name ≠ check || text ≠ ""

end Name

inductive Flag where
  | verbose
  | help
  | version
  deriving DecidableEq, Repr

namespace Flag

instance : Keyword Flag where
  all := [verbose, help, version]
  word
    | verbose => "verbose"
    | help => "help"
    | version => "version"

def ofLetter? : Char → Option Flag
  | 'v' => some verbose
  | 'h' => some help
  | 'V' => some version
  | _ => none

end Flag

inductive Form where
  | separator
  | long (word : String) (value : Option String)
  | letters (letters : List Char)
  | plain
  deriving DecidableEq, Repr

namespace Form

def ofLong (text : List Char) : Form :=
  match text.span (· ≠ '=') with
  | (word, '=' :: value) => long (String.ofList word) (some (String.ofList value))
  | (word, _) => long (String.ofList word) none

def ofText (text : String) : Form :=
  match text.toList with
  | ['-', '-'] => separator
  | '-' :: '-' :: rest => ofLong rest
  | '-' :: letter :: rest => letters (letter :: rest)
  | _ => plain

end Form

structure Given where
  isVerbose : Bool := false
  options : List (String × String) := []
  operands : List String := []
  deriving DecidableEq, Repr

namespace Given

def addOperand (name : Name) (given : Given) (text : String) : Except NoCommand Given :=
  if given.operands.length < name.operandLimit ∧ name.admitsOperand text then
    .ok { given with operands := given.operands ++ [text] }
  else .error .misuse

def addOption (name : Name) (given : Given) (option value : String) : Except NoCommand Given :=
  let isTaken := given.options.any (·.1 == option)
  if name.options.contains option ∧ (Name.isRepeatable option ∨ ¬isTaken) then
    .ok { given with options := given.options ++ [(option, value)] }
  else .error .misuse

def addFlag (hasVersion isVerbose : Bool) : Option Flag → Except NoCommand Bool
  | some .verbose => if isVerbose then .error .misuse else .ok true
  | some .help => .error .help
  | some .version => .error (if hasVersion then .version else .misuse)
  | none => .error .misuse

def addLetters (hasVersion isVerbose : Bool) (letters : List Char) : Except NoCommand Bool :=
  letters.foldlM (fun isVerbose letter => addFlag hasVersion isVerbose (Flag.ofLetter? letter))
    isVerbose

def values (given : Given) (option : String) : List String :=
  (given.options.filter (·.1 == option)).map (·.2)

def value? (given : Given) (option : String) : Option String := (given.values option).head?

def backend (given : Given) : String := (given.value? "backend").getD "builtin"

def command (given : Given) : Name → Command
  | .targets => .targets (given.value? "family")
  | .cpus => .cpus
  | .describe =>
      .describe {
          target := given.operands.head?
          cpu := given.value? "cpu"
          arch := given.value? "arch"
          os := given.value? "os"
          flags := given.values "opt" }
        given.backend (given.value? "format")
  | .check => .check (given.operands.head?.getD "spmd.toml") given.backend (given.value? "format")
  | .template => .template

end Given

/-- The arguments of a command, from left to right. The value of an option may be an argument of its
own, unless that looks like an option. -/
def readGiven (name : Name) (given : Given) : List String → Except NoCommand Given
  | [] => .ok given
  | text :: rest =>
      match Form.ofText text with
      | .separator => rest.foldlM (Given.addOperand name) given
      | .plain => do
          let given ← given.addOperand name text
          readGiven name given rest
      | .letters letters => do
          let isVerbose ← Given.addLetters false given.isVerbose letters
          readGiven name { given with isVerbose } rest
      | .long word (some value) => do
          let given ← given.addOption name word value
          readGiven name given rest
      | .long word none =>
          if name.options.contains word then
            match rest with
            | value :: rest =>
                if Form.ofText value = .plain then do
                  let given ← given.addOption name word value
                  readGiven name given rest
                else .error .misuse
            | [] => .error .misuse
          else do
            let isVerbose ← Given.addFlag false given.isVerbose (Keyword.ofWord? word)
            readGiven name { given with isVerbose } rest

def helpWord : String := "help"

def readHelp (topics : List String) : NoCommand :=
  match topics with
  | [] => .help
  | [topic] =>
      if topic = helpWord ∨ (Keyword.words Name).contains topic then .help else .misuse
  | _ => .misuse

def readFrom (isVerbose : Bool) : List String → Except NoCommand Command
  | [] => .error .misuse
  | text :: rest =>
      match Form.ofText text with
      | .plain =>
          match (Keyword.ofWord? text : Option Name) with
          | some name => (readGiven name {} rest).map (·.command name)
          | none => .error (if text = helpWord then readHelp rest else .misuse)
      | .letters letters => do
          let isVerbose ← Given.addLetters true isVerbose letters
          readFrom isVerbose rest
      | .long word none => do
          let isVerbose ← Given.addFlag true isVerbose (Keyword.ofWord? word)
          readFrom isVerbose rest
      | .separator | .long _ (some _) => .error .misuse

def read (arguments : List String) : Except NoCommand Command := readFrom false arguments

end CommandLine

end Lanewise

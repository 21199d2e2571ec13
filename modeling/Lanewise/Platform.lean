import Lanewise.Isa
import Lanewise.Keyword

namespace Lanewise

instance : Keyword IsaFamily := ⟨IsaFamily.all, IsaFamily.name⟩

instance : Keyword Isa := ⟨Isa.all, Isa.targetStem⟩

inductive Arch where
  | x86
  | x8664
  | arm
  | aarch64
  | wasm32
  | wasm64
  deriving DecidableEq, Repr

namespace Arch

def all : List Arch := [x86, x8664, arm, aarch64, wasm32, wasm64]

def name : Arch → String
  | x86 => "x86"
  | x8664 => "x86-64"
  | arm => "arm"
  | aarch64 => "aarch64"
  | wasm32 => "wasm32"
  | wasm64 => "wasm64"

instance : Keyword Arch := ⟨all, name⟩

def spellings : Arch → List String
  | x86 => ["x86", "i686", "i386"]
  | x8664 => ["x86-64", "x86_64", "amd64"]
  | arm => ["arm", "armv7"]
  | aarch64 => ["aarch64", "arm64"]
  | wasm32 => ["wasm32"]
  | wasm64 => ["wasm64"]

def ofName? (text : String) : Option Arch :=
  all.find? fun arch => arch.spellings.contains text

def is32Bit : Arch → Bool
  | x86 | arm | wasm32 => true
  | _ => false

def family : Arch → IsaFamily
  | x86 | x8664 => .x86
  | arm | aarch64 => .arm
  | wasm32 | wasm64 => .wasm

end Arch

def IsaFamily.defaultArch : IsaFamily → Arch
  | x86 => .x8664
  | arm => .aarch64
  | wasm => .wasm32

inductive Os where
  | windows
  | linux
  | freebsd
  | macos
  | android
  | ios
  | ps4
  | web
  | custom
  deriving DecidableEq, Repr

namespace Os

def all : List Os := [windows, linux, freebsd, macos, android, ios, ps4, web, custom]

def name : Os → String
  | windows => "windows"
  | linux => "linux"
  | freebsd => "freebsd"
  | macos => "macos"
  | android => "android"
  | ios => "ios"
  | ps4 => "ps4"
  | web => "web"
  | custom => "custom"

instance : Keyword Os := ⟨all, name⟩

def ofName? (text : String) : Option Os := Keyword.ofWord? text

end Os

/-- The calling convention of exported functions. An uninitialized one is settled by the target. -/
inductive CallingConv where
  | uninitialized
  | default
  | x86VectorCall
  deriving DecidableEq, Repr

namespace CallingConv

def title : CallingConv → String
  | uninitialized => "Uninitialized"
  | default => "Default"
  | x86VectorCall => "X86VectorCall"

instance : Keyword CallingConv where
  all := [uninitialized, default, x86VectorCall]
  word
    | uninitialized => "uninitialized"
    | default => "default"
    | x86VectorCall => "x86-vector-call"

end CallingConv

inductive PicLevel where
  | default
  | notPic
  | smallPic
  | bigPic
  deriving DecidableEq, Repr

namespace PicLevel

instance : Keyword PicLevel where
  all := [default, notPic, smallPic, bigPic]
  word
    | default => "default"
    | notPic => "not-pic"
    | smallPic => "small-pic"
    | bigPic => "big-pic"

end PicLevel

inductive CodeModel where
  | default
  | small
  | large
  deriving DecidableEq, Repr

namespace CodeModel

instance : Keyword CodeModel where
  all := [default, small, large]
  word
    | default => "default"
    | small => "small"
    | large => "large"

end CodeModel

end Lanewise

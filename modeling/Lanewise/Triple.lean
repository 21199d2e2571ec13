import Lanewise.Platform

namespace Lanewise

structure Triple where
  arch : String
  vendor : String
  os : String
  environment : Option String
  deriving DecidableEq, Repr

namespace Triple

def of? : Arch → Os → Option Triple
  | .x86, .windows => some ⟨"i686", "pc", "windows", some "msvc"⟩
  | .x8664, .windows => some ⟨"x86_64", "pc", "windows", some "msvc"⟩
  | .aarch64, .windows => some ⟨"aarch64", "pc", "windows", some "msvc"⟩
  | .x86, .linux | .x86, .custom => some ⟨"i686", "unknown", "linux", some "gnu"⟩
  | .x8664, .linux | .x8664, .custom => some ⟨"x86_64", "unknown", "linux", some "gnu"⟩
  | .arm, .linux | .arm, .custom => some ⟨"armv7", "unknown", "linux", some "gnueabihf"⟩
  | .aarch64, .linux | .aarch64, .custom => some ⟨"aarch64", "unknown", "linux", some "gnu"⟩
  | .x86, .freebsd => some ⟨"i686", "unknown", "freebsd", none⟩
  | .x8664, .freebsd => some ⟨"x86_64", "unknown", "freebsd", none⟩
  | .aarch64, .freebsd => some ⟨"aarch64", "unknown", "freebsd", none⟩
  | .x8664, .macos => some ⟨"x86_64", "apple", "macosx", none⟩
  | .aarch64, .macos => some ⟨"arm64", "apple", "macosx", none⟩
  | .aarch64, .ios => some ⟨"arm64", "apple", "ios", none⟩
  | .x86, .android => some ⟨"i686", "unknown", "linux", some "android"⟩
  | .x8664, .android => some ⟨"x86_64", "unknown", "linux", some "android"⟩
  | .arm, .android => some ⟨"armv7", "unknown", "linux", some "androideabi"⟩
  | .aarch64, .android => some ⟨"aarch64", "unknown", "linux", some "android"⟩
  | .x8664, .ps4 => some ⟨"x86_64", "scei", "ps4", none⟩
  | .wasm32, .web | .wasm32, .custom => some ⟨"wasm32", "unknown", "unknown", none⟩
  | .wasm64, .web | .wasm64, .custom => some ⟨"wasm64", "unknown", "unknown", none⟩
  | _, _ => none

def isWindows (triple : Triple) : Bool := triple.os == "windows"

def isApple (triple : Triple) : Bool := triple.vendor == "apple"

def text (triple : Triple) : String :=
  let stem := triple.arch ++ "-" ++ triple.vendor ++ "-" ++ triple.os
  match triple.environment with
  | none => stem
  | some environment => stem ++ "-" ++ environment

end Triple

end Lanewise

import Lanewise.Command.Check
import Lanewise.Proofs.Json.RoundTrip
import Lanewise.Proofs.Target.Invalid

namespace Lanewise

namespace Document

variable {depth : Nat} {entries others : List (String × Document)}

@[simp] theorem isReadable_text (value : String) : (text value).isReadable depth := rfl

@[simp] theorem isReadable_bool (value : Bool) : (bool value).isReadable depth := rfl

@[simp] theorem isReadable_keyword {α : Type} [Keyword α] (value : α) :
    (keyword value).isReadable depth := rfl

theorem isReadable_nat {n : Nat} (fits : n < UInt64.size) : (nat n).isReadable depth := by
  simp only [nat, isReadable, Json.fitsInteger, Bool.and_eq_true, decide_eq_true_eq]
  exact ⟨by omega, Int.ofNat_lt.2 fits⟩

theorem isReadable_word (value : UInt32) : (word value).isReadable depth :=
  isReadable_nat (Nat.lt_trans value.toNat_lt (by decide))

@[simp] theorem isReadable_texts (values : List String) :
    (texts values).isReadable (depth + 1) := by
  rw [texts, isReadable, allReadable_iff]
  simp

@[simp] theorem isReadable_words (values : List UInt32) :
    (words values).isReadable (depth + 1) := by
  rw [words, isReadable, allReadable_iff]
  simp [isReadable_word]

theorem isReadable_map {ι : Type} {items : List ι} {key : ι → String} {value : ι → Document}
    (readable : ∀ item ∈ items, (value item).isReadable depth) :
    (map (items.map fun item => (key item, value item))).isReadable (depth + 1) := by
  rw [isReadable, entriesReadable_iff, List.forall_mem_map]
  exact readable

@[simp] theorem entriesReadable_append :
    entriesReadable (entries ++ others) depth ↔
      entriesReadable entries depth ∧ entriesReadable others depth := by
  simp only [entriesReadable_iff, List.forall_mem_append]

@[simp] theorem entriesReadable_entry? {α : Type} {key : String} {write : α → Document}
    {value : Option α} : entriesReadable (Document.entry? key write value) depth ↔
      ∀ given ∈ value, (write given).isReadable depth := by
  rw [entriesReadable_iff]
  simp [Document.entry?]

end Document

open Document

variable {depth : Nat}

theorem Capabilities.isReadable_document (capabilities : Capabilities) :
    capabilities.document.isReadable (depth + 1) :=
  isReadable_map fun _ _ => rfl

theorem Document.read?_report {document : Document} (readable : document.isReadable Json.maxDepth) :
    Json.read? document.report = some document.readBack :=
  Json.read?_json_append readable (by simp [Json.isSpace]) (Parser.stops_cons.2 rfl)

theorem VectorTarget.shape_le (target : VectorTarget) :
    target.elementBits ≤ 64 ∧ target.lanes ≤ 64 := by
  have listed : ∀ shape ∈ supportedShapes, shape.2.1 ≤ 64 ∧ shape.2.2 ≤ 64 := by decide
  exact listed _ target.supported

structure Geometry.Small (geometry : Geometry) : Prop where
  nativeVectorWidth : geometry.nativeVectorWidth < UInt64.size
  nativeVectorAlignment : geometry.nativeVectorAlignment < UInt64.size
  dataTypeWidth : geometry.dataTypeWidth < UInt64.size
  vectorWidth : geometry.vectorWidth < UInt64.size
  maskBitCount : geometry.maskBitCount < UInt64.size

theorem Profile.small_bare (target : VectorTarget) : (bare target).geometry.Small := by
  obtain ⟨bits, lanes⟩ := target.shape_le
  have width : target.nativeWidth ≤ 64 := (Nat.min_le_left _ _).trans lanes
  have register : target.nativeWidth * target.elementBits ≤ 64 * 64 := Nat.mul_le_mul width bits
  have mask : target.maskBits ≤ 64 := by
    unfold VectorTarget.maskBits
    split
    · decide
    · exact bits
  have size : UInt64.size = 2 ^ 64 := rfl
  constructor <;> simp only [geometry, bare] <;> omega

theorem Profile.entriesReadable_entries {profile : Profile} (small : profile.geometry.Small) :
    entriesReadable profile.entries (depth + 1) := by
  rw [entriesReadable_iff]
  simp only [Profile.entries, List.forall_mem_cons]
  exact ⟨isReadable_nat small.nativeVectorWidth, isReadable_nat small.nativeVectorAlignment,
    isReadable_nat small.dataTypeWidth, isReadable_nat small.vectorWidth,
    isReadable_nat small.maskBitCount, rfl, rfl, profile.capabilities.isReadable_document, rfl,
    by simp⟩

theorem Policy.isReadable_report {policy : Policy} (small : policy.target.profile.geometry.Small)
    (depth : Nat) : policy.report.isReadable (depth + 2) := by
  have entries : entriesReadable policy.target.profile.entries (depth + 1) :=
    Profile.entriesReadable_entries small
  have attributes : (textMap policy.attributes).isReadable (depth + 1) :=
    isReadable_map fun _ _ => rfl
  simp [Policy.report, Target.summary, Policy.decisions, Document.isReadable, entriesReadable,
    entries, attributes]

theorem Target.small_build (host : Host) (toolkit : Toolkit) (request : TargetRequest) :
    (build host toolkit request).profile.geometry.Small := by
  rw [geometry_build]
  exact Profile.small_bare request.target

theorem Check.isReadable_report {path : String} {config : Config} {ctx : Checked} {policy : Policy}
    (small : policy.target.profile.geometry.Small) (few : ctx.silencedLines.size < UInt64.size)
    (depth : Nat) : (report path config ctx policy).isReadable (depth + 3) := by
  simp [report, Document.isReadable, entriesReadable, isReadable_nat few,
    policy.isReadable_report small]

end Lanewise

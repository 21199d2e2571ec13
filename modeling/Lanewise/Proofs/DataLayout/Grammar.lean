import Lanewise.DataLayout
import Lanewise.Proofs.Except
import Lanewise.Proofs.Text.Number

namespace Lanewise

open Text (Spells)

namespace LayoutSpec

/-! ## The forms of a piece -/

def IsNumber (text : List Char) : Prop := ∃ n, Spells text n

def defaultSpaces : List (List Char) := [[], ['0']]

def checkedLetters : List Char := ['p', 'i', 'f', 'n', 'S']

def ignoredLetters : List Char := ['m', 'v', 'a', 'F', 'A', 'P', 'G']

/-- What a piece states, by its head and its arguments. -/
inductive States : List Char → List (List Char) → LayoutSpec → Prop
  | little (arguments : List (List Char)) : States ['e'] arguments (.endian .little)
  | big (arguments : List (List Char)) : States ['E'] arguments (.endian .big)
  | pointer {space size align : List Char} {bits bound : UInt32} (arguments : List (List Char))
      (default : space ∈ defaultSpaces) (sized : Spells size bits) (aligned : Spells align bound) :
      States ('p' :: space) (size :: align :: arguments) (.pointer bits bound)
  | otherSpace {space : List Char} (arguments : List (List Char)) (other : space ∉ defaultSpaces) :
      States ('p' :: space) arguments .other
  | integer {size align : List Char} {width bound : UInt32} (arguments : List (List Char))
      (sized : Spells size width) (aligned : Spells align bound) :
      States ('i' :: size) (align :: arguments) (.intAlign width bound)
  | float {size align : List Char} {width bound : UInt32} (arguments : List (List Char))
      (sized : Spells size width) (aligned : Spells align bound) :
      States ('f' :: size) (align :: arguments) (.floatAlign width bound)
  | nonIntegral (arguments : List (List Char)) : States ['n', 'i'] arguments .other
  | nativeInts {size : List Char} {arguments : List (List Char)} {widths : List UInt32}
      (integral : size ≠ ['i']) (sized : List.Forall₂ Spells (size :: arguments) widths) :
      States ('n' :: size) arguments (.nativeInts widths)
  | stack {align : List Char} {bound : UInt32} (arguments : List (List Char))
      (aligned : Spells align bound) : States ('S' :: align) arguments (.stack bound)
  | ignored {letter : Char} (rest : List Char) (arguments : List (List Char))
      (listed : letter ∈ ignoredLetters) : States (letter :: rest) arguments .other

/-- What is wrong with a piece, by its head and its arguments. -/
inductive Offends (piece : List Char) : List Char → List (List Char) → LayoutFault → Prop
  | shortPointer {space : List Char} {arguments : List (List Char)}
      (default : space ∈ defaultSpaces) (short : arguments.length < 2) :
      Offends piece ('p' :: space) arguments (.incompletePointer (String.ofList piece))
  | pointerSize {space size : List Char} (align : List Char) (arguments : List (List Char))
      (default : space ∈ defaultSpaces) (unsized : ¬IsNumber size) :
      Offends piece ('p' :: space) (size :: align :: arguments) (.notANumber (String.ofList size))
  | pointerAlign {space size align : List Char} (arguments : List (List Char))
      (default : space ∈ defaultSpaces) (sized : IsNumber size) (unaligned : ¬IsNumber align) :
      Offends piece ('p' :: space) (size :: align :: arguments) (.notANumber (String.ofList align))
  | width {letter : Char} {size : List Char} (arguments : List (List Char))
      (listed : letter ∈ ['i', 'f']) (unsized : ¬IsNumber size) :
      Offends piece (letter :: size) arguments (.notANumber (String.ofList size))
  | noAlign {letter : Char} {size : List Char} (listed : letter ∈ ['i', 'f'])
      (sized : IsNumber size) :
      Offends piece (letter :: size) [] (.incompleteAlignment (String.ofList piece))
  | align {letter : Char} {size align : List Char} (arguments : List (List Char))
      (listed : letter ∈ ['i', 'f']) (sized : IsNumber size) (unaligned : ¬IsNumber align) :
      Offends piece (letter :: size) (align :: arguments) (.notANumber (String.ofList align))
  | nativeInts {size text : List Char} {arguments before after : List (List Char)}
      (integral : size ≠ ['i']) (split : size :: arguments = before ++ text :: after)
      (sized : ∀ earlier ∈ before, IsNumber earlier) (unsized : ¬IsNumber text) :
      Offends piece ('n' :: size) arguments (.notANumber (String.ofList text))
  | stack {align : List Char} (arguments : List (List Char)) (unaligned : ¬IsNumber align) :
      Offends piece ('S' :: align) arguments (.notANumber (String.ofList align))
  | unrecognized {head : List Char} (arguments : List (List Char)) (little : head ≠ ['e'])
      (big : head ≠ ['E'])
      (unlisted : ∀ letter ∈ head.head?, letter ∉ checkedLetters ++ ignoredLetters) :
      Offends piece head arguments (.unrecognized (String.ofList piece))

def Reads (piece : List Char) (spec : LayoutSpec) : Prop :=
  ∃ head arguments, piece.splitOn ':' = head :: arguments ∧ States head arguments spec

def Fails (piece : List Char) (fault : LayoutFault) : Prop :=
  ∃ head arguments, piece.splitOn ':' = head :: arguments ∧ Offends piece head arguments fault

variable {piece head text space size align : List Char} {arguments : List (List Char)}
  {spec : LayoutSpec} {fault : LayoutFault} {n width bound : UInt32}

theorem number_eq_ok : number text = .ok n ↔ Spells text n := by
  rw [number, ← Text.readWord?_eq_some_iff]
  cases Text.readWord? text <;> simp

theorem number_eq_error :
    number text = .error fault ↔ ¬IsNumber text ∧ fault = .notANumber (String.ofList text) := by
  simp only [IsNumber, ← Text.readWord?_eq_some_iff, number]
  cases Text.readWord? text <;> simp [eq_comm]

theorem isNumber_iff : IsNumber text ↔ ∃ n, number text = .ok n :=
  exists_congr fun _ => number_eq_ok.symm

/-! ## What is read follows the rules -/

def Judged (piece head : List Char) (arguments : List (List Char)) :
    Except LayoutFault LayoutSpec → Prop
  | .ok spec => States head arguments spec
  | .error fault => Offends piece head arguments fault

theorem mem_defaultSpaces : space ∈ defaultSpaces ↔ space = [] ∨ space = ['0'] := by
  simp [defaultSpaces]

theorem judged_pointer (piece space : List Char) (arguments : List (List Char)) :
    Judged piece ('p' :: space) arguments (ofPointer piece space arguments) := by
  unfold ofPointer
  split
  · rename_i default
    rw [← mem_defaultSpaces] at default
    split
    · rename_i size align rest
      cases sized : number size with
      | error fault =>
          obtain ⟨unsized, rfl⟩ := number_eq_error.1 sized
          exact .pointerSize align rest default unsized
      | ok bits =>
          cases aligned : number align with
          | error fault =>
              obtain ⟨unaligned, rfl⟩ := number_eq_error.1 aligned
              exact .pointerAlign rest default ⟨bits, number_eq_ok.1 sized⟩ unaligned
          | ok bound => exact .pointer rest default (number_eq_ok.1 sized) (number_eq_ok.1 aligned)
    · rename_i incomplete
      refine .shortPointer default ?_
      rcases arguments with _ | ⟨size, _ | ⟨align, rest⟩⟩
      · exact Nat.zero_lt_two
      · exact Nat.one_lt_two
      · exact absurd rfl (incomplete size align rest)
  · rename_i other
    exact .otherSpace arguments (mt mem_defaultSpaces.1 other)

theorem judged_alignment {letter : Char} {state : UInt32 → UInt32 → LayoutSpec}
    (listed : letter ∈ ['i', 'f'])
    (states : ∀ size align width bound rest, Spells size width → Spells align bound →
      States (letter :: size) (align :: rest) (state width bound))
    (piece size : List Char) (arguments : List (List Char)) :
    Judged piece (letter :: size) arguments
      ((ofAlignment piece size arguments).map fun entry => state entry.1 entry.2) := by
  unfold ofAlignment
  cases sized : number size with
  | error fault =>
      obtain ⟨unsized, rfl⟩ := number_eq_error.1 sized
      exact .width arguments listed unsized
  | ok width =>
      cases arguments with
      | nil => exact .noAlign listed ⟨width, number_eq_ok.1 sized⟩
      | cons align rest =>
          cases aligned : number align with
          | error fault =>
              obtain ⟨unaligned, rfl⟩ := number_eq_error.1 aligned
              simp only [ok_bind, aligned]
              exact .align rest listed ⟨width, number_eq_ok.1 sized⟩ unaligned
          | ok bound =>
              simp only [ok_bind, aligned]
              exact states size align width bound rest (number_eq_ok.1 sized)
                (number_eq_ok.1 aligned)

theorem judged_nativeInts (integral : size ≠ ['i']) (piece : List Char)
    (arguments : List (List Char)) :
    Judged piece ('n' :: size) arguments (((size :: arguments).mapM number).map .nativeInts) := by
  cases read : (size :: arguments).mapM number with
  | ok widths =>
      exact .nativeInts integral ((mapM_eq_ok.1 read).imp fun _ _ => number_eq_ok.1)
  | error fault =>
      obtain ⟨before, text, after, split, numbers, fails⟩ := mapM_eq_error.1 read
      obtain ⟨unsized, rfl⟩ := number_eq_error.1 fails
      have sized : ∀ earlier ∈ before, IsNumber earlier :=
        fun earlier listed => isNumber_iff.2 (numbers earlier listed)
      exact .nativeInts integral split sized unsized

theorem judged_stack (piece align : List Char) (arguments : List (List Char)) :
    Judged piece ('S' :: align) arguments ((number align).map .stack) := by
  cases aligned : number align with
  | error fault =>
      obtain ⟨unaligned, rfl⟩ := number_eq_error.1 aligned
      exact .stack arguments unaligned
  | ok bound => exact .stack arguments (number_eq_ok.1 aligned)

theorem judged_ofParts (piece head : List Char) (arguments : List (List Char)) :
    Judged piece head arguments (ofParts piece head arguments) := by
  unfold ofParts
  split
  case h_1 => exact .little arguments
  case h_2 => exact .big arguments
  case h_3 => exact judged_pointer _ _ _
  case h_4 => exact judged_alignment (by simp) (fun _ _ _ _ rest => .integer rest) _ _ _
  case h_5 => exact judged_alignment (by simp) (fun _ _ _ _ rest => .float rest) _ _ _
  case h_6 => exact .nonIntegral arguments
  case h_7 integral => exact judged_nativeInts integral _ _
  case h_8 => exact judged_stack _ _ _
  case h_16 little big _ _ _ _ _ _ _ _ _ _ _ _ _ =>
    refine .unrecognized arguments little big ?_
    rcases head with _ | ⟨letter, rest⟩
    · simp
    · simp_all [checkedLetters, ignoredLetters]
  all_goals exact .ignored _ arguments (by simp [ignoredLetters])

/-! ## The rules decide what is read -/

theorem number_of_not_isNumber (other : ¬IsNumber text) :
    number text = .error (.notANumber (String.ofList text)) :=
  number_eq_error.2 ⟨other, rfl⟩

theorem ofPointer_pair (default : space ∈ defaultSpaces) (piece size align : List Char)
    (rest : List (List Char)) :
    ofPointer piece space (size :: align :: rest) =
      (number size >>= fun bits => number align >>= fun bound => .ok (.pointer bits bound)) := by
  unfold ofPointer
  rw [if_pos (mem_defaultSpaces.1 default)]
  rfl

theorem ofPointer_short (default : space ∈ defaultSpaces) (short : arguments.length < 2)
    (piece : List Char) :
    ofPointer piece space arguments = .error (.incompletePointer (String.ofList piece)) := by
  unfold ofPointer
  rw [if_pos (mem_defaultSpaces.1 default)]
  split
  · exact absurd short (by simp)
  · rfl

theorem ofPointer_other (other : space ∉ defaultSpaces) (piece : List Char)
    (arguments : List (List Char)) : ofPointer piece space arguments = .ok .other := by
  unfold ofPointer
  rw [if_neg (mt mem_defaultSpaces.2 other)]

theorem ofParts_nativeInts (integral : size ≠ ['i']) (piece : List Char)
    (arguments : List (List Char)) :
    ofParts piece ('n' :: size) arguments = ((size :: arguments).mapM number).map .nativeInts := by
  unfold ofParts
  split <;> simp_all

theorem ofParts_ignored {letter : Char} (listed : letter ∈ ignoredLetters)
    (piece rest : List Char) (arguments : List (List Char)) :
    ofParts piece (letter :: rest) arguments = .ok .other := by
  simp only [ignoredLetters, List.mem_cons, List.not_mem_nil, or_false] at listed
  rcases listed with rfl | rfl | rfl | rfl | rfl | rfl | rfl <;> rfl

theorem ofParts_alignment_error {letter : Char} (listed : letter ∈ ['i', 'f'])
    (fails : ofAlignment piece size arguments = .error fault) :
    ofParts piece (letter :: size) arguments = .error fault := by
  simp only [List.mem_cons, List.not_mem_nil, or_false] at listed
  rcases listed with rfl | rfl <;> exact map_eq_error.2 fails

theorem States.ofParts_eq (states : States head arguments spec) (piece : List Char) :
    ofParts piece head arguments = .ok spec := by
  -- One case for each form: its numbers are read, and the head selects the branch.
  cases states with
  | little | big | nonIntegral => rfl
  | pointer rest default sized aligned =>
      simp only [ofParts, ofPointer_pair default, number_eq_ok.2 sized, number_eq_ok.2 aligned,
        ok_bind]
  | otherSpace _ other => exact ofPointer_other other piece arguments
  | integer rest sized aligned | float rest sized aligned =>
      simp only [ofParts, ofAlignment, number_eq_ok.2 sized, number_eq_ok.2 aligned, ok_bind]
      rfl
  | nativeInts integral sized =>
      rw [ofParts_nativeInts integral, mapM_eq_ok.2 (sized.imp fun _ _ => number_eq_ok.2)]
      rfl
  | stack _ aligned =>
      simp only [ofParts, number_eq_ok.2 aligned]
      rfl
  | ignored rest _ listed => exact ofParts_ignored listed piece rest arguments

theorem Offends.ofParts_eq (offends : Offends piece head arguments fault) :
    ofParts piece head arguments = .error fault := by
  cases offends with
  | shortPointer default short => exact ofPointer_short default short piece
  | pointerSize align rest default unsized =>
      simp only [ofParts, ofPointer_pair default, number_of_not_isNumber unsized]
      rfl
  | pointerAlign rest default sized unaligned =>
      obtain ⟨bits, sized⟩ := sized
      simp only [ofParts, ofPointer_pair default, number_eq_ok.2 sized,
        number_of_not_isNumber unaligned, ok_bind]
      rfl
  | width _ listed unsized =>
      refine ofParts_alignment_error listed ?_
      simp only [ofAlignment, number_of_not_isNumber unsized]
      rfl
  | noAlign listed sized =>
      obtain ⟨width, sized⟩ := sized
      refine ofParts_alignment_error listed ?_
      simp only [ofAlignment, number_eq_ok.2 sized, ok_bind]
  | align rest listed sized unaligned =>
      obtain ⟨width, sized⟩ := sized
      refine ofParts_alignment_error listed ?_
      simp only [ofAlignment, number_eq_ok.2 sized, number_of_not_isNumber unaligned, ok_bind]
      rfl
  | nativeInts integral split sized unsized =>
      have numbers := fun earlier listed => isNumber_iff.1 (sized earlier listed)
      rw [ofParts_nativeInts integral, map_eq_error]
      exact mapM_eq_error.2 ⟨_, _, _, split, numbers, number_of_not_isNumber unsized⟩
  | stack _ unaligned =>
      simp only [ofParts, number_of_not_isNumber unaligned]
      rfl
  | unrecognized _ little big unlisted =>
      unfold ofParts
      split <;> simp_all [checkedLetters, ignoredLetters]

theorem ofPiece_judged (piece : List Char) :
    ∃ head arguments, piece.splitOn ':' = head :: arguments ∧
      ofPiece piece = ofParts piece head arguments := by
  obtain ⟨head, arguments, parts⟩ := List.exists_cons_of_ne_nil (List.splitOn_ne_nil ':' piece)
  exact ⟨head, arguments, parts, by rw [ofPiece, parts]⟩

theorem ofPiece_eq_ok_iff : ofPiece piece = .ok spec ↔ Reads piece spec := by
  obtain ⟨head, arguments, parts, read⟩ := ofPiece_judged piece
  rw [read]
  constructor
  · -- What is read is judged, and a judged statement is one that the rules give.
    intro done
    have judged := judged_ofParts piece head arguments
    rw [done] at judged
    exact ⟨head, arguments, parts, judged⟩
  · rintro ⟨head', arguments', parts', states⟩
    cases parts.symm.trans parts'
    exact states.ofParts_eq piece

theorem ofPiece_eq_error_iff : ofPiece piece = .error fault ↔ Fails piece fault := by
  obtain ⟨head, arguments, parts, read⟩ := ofPiece_judged piece
  rw [read]
  constructor
  · intro failed
    have judged := judged_ofParts piece head arguments
    rw [failed] at judged
    exact ⟨head, arguments, parts, judged⟩
  · rintro ⟨head', arguments', parts', offends⟩
    cases parts.symm.trans parts'
    exact offends.ofParts_eq

/-- A piece is cut after the first byte of its head only where that byte is all of a character. -/
theorem exists_cut {letter : Char} (listed : letter ∈ checkedLetters) (rest : List Char) :
    ∃ cut : (String.ofList (letter :: rest)).Pos, cut.offset = ⟨1⟩ ∧
      ((String.ofList (letter :: rest)).sliceFrom cut).copy = String.ofList rest := by
  have narrow : (String.singleton letter).rawEndPos = ⟨1⟩ := by
    simp only [checkedLetters, List.mem_cons, List.not_mem_nil, or_false] at listed
    rcases listed with rfl | rfl | rfl | rfl | rfl <;> rfl
  have whole : String.ofList (letter :: rest) = String.singleton letter ++ String.ofList rest :=
    String.ofList_cons
  let cut : (String.ofList (letter :: rest)).Pos :=
    ⟨⟨1⟩, String.Pos.Raw.isValid_iff_exists_append.2 ⟨_, _, whole, narrow.symm⟩⟩
  have splits : cut.Splits (String.singleton letter) (String.ofList rest) := ⟨whole, narrow.symm⟩
  exact ⟨cut, rfl, splits.copy_sliceFrom_eq⟩

end LayoutSpec

namespace DataLayout

open LayoutSpec (Reads Fails)

variable {text : String} {layout : DataLayout} {fault : LayoutFault}

/-! ## Texts -/

theorem parse_eq_ok_iff : parse text = .ok layout ↔ ∃ specs,
    List.Forall₂ Reads (pieces text) specs ∧ specs.foldl apply { source := text } = layout := by
  simp only [parse, bind_eq_ok, pure_eq_ok, mapM_eq_ok, LayoutSpec.ofPiece_eq_ok_iff]

theorem parse_eq_error_iff : parse text = .error fault ↔
    ∃ before piece after, pieces text = before ++ piece :: after ∧
      (∀ earlier ∈ before, ∃ spec, Reads earlier spec) ∧ Fails piece fault := by
  simp only [parse, bind_eq_error, pure_ne_error, and_false, exists_false, or_false, mapM_eq_error,
    LayoutSpec.ofPiece_eq_ok_iff, LayoutSpec.ofPiece_eq_error_iff]

theorem read_eq_ok_iff : read text = .ok layout ↔ parse text = .ok layout := mapError_eq_ok

theorem accepted_iff : (∃ layout, parse text = .ok layout) ↔
    ∀ piece ∈ pieces text, ∃ spec, Reads piece spec := by
  simp only [parse, bind_eq_ok, pure_eq_ok, ← LayoutSpec.ofPiece_eq_ok_iff, ← exists_mapM_eq_ok]
  constructor
  · rintro ⟨_, specs, read, -⟩
    exact ⟨specs, read⟩
  · rintro ⟨specs, read⟩
    exact ⟨_, specs, read, rfl⟩

theorem source_foldl_apply (layout : DataLayout) (specs : List LayoutSpec) :
    (specs.foldl apply layout).source = layout.source := by
  induction specs generalizing layout with
  | nil => rfl
  | cons spec specs ih =>
      rw [List.foldl_cons, ih]
      cases spec <;> rfl

theorem read_decided (text : String) :
    (∀ piece ∈ pieces text, ∀ letter rest arguments,
      piece.splitOn ':' = (letter :: rest) :: arguments → letter ∈ ['p', 'i', 'f', 'n', 'S'] →
      ∃ cut : (String.ofList (letter :: rest)).Pos, cut.offset = ⟨1⟩ ∧
        ((String.ofList (letter :: rest)).sliceFrom cut).copy = String.ofList rest) ∧
    ((∃ layout, read text = .ok layout) ↔ ∀ piece ∈ pieces text, ∃ spec, Reads piece spec) ∧
    (∀ layout, read text = .ok layout → layout.source = text) ∧
    ∀ failure, read text = .error failure ↔
      ∃ before piece after fault, pieces text = before ++ piece :: after ∧
        (∀ earlier ∈ before, ∃ spec, Reads earlier spec) ∧ Fails piece fault ∧
        failure = .invalidDataLayout text fault := by
  refine ⟨fun _ _ _ rest _ _ listed => LayoutSpec.exists_cut listed rest, ?_, ?_, ?_⟩
  · simp only [read_eq_ok_iff]
    exact accepted_iff
  · intro layout done
    obtain ⟨specs, -, rfl⟩ := parse_eq_ok_iff.1 (read_eq_ok_iff.1 done)
    exact source_foldl_apply _ specs
  · intro failure
    simp only [DataLayout.read, mapError_eq_error, parse_eq_error_iff]
    constructor
    · rintro ⟨fault, ⟨before, piece, after, split, reads, fails⟩, rfl⟩
      exact ⟨before, piece, after, fault, split, reads, fails, rfl⟩
    · rintro ⟨before, piece, after, fault, split, reads, fails, rfl⟩
      exact ⟨fault, ⟨before, piece, after, split, reads, fails⟩, rfl⟩

/-- The fault is that of the first offending piece, whatever stands behind it. -/
example : read "e-p:64-z9" =
    .error (.invalidDataLayout "e-p:64-z9" (.incompletePointer "p:64")) := by
  decide

end DataLayout

end Lanewise

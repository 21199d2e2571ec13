import Lanewise.Proofs.Toml.Value
import Mathlib.Data.List.ReduceOption

open Lanewise.Parser

namespace Lanewise.Toml

variable {key inner : String} {entry : String × Document} {entries : List (String × Document)}
  {run rest : List Char} {condition : Char → Bool}

/-! ## Keys -/

def isBareKey (key : String) : Bool := !key.toList.isEmpty && key.toList.all isBare

theorem isBareKey_iff : isBareKey key ↔ key.toList ≠ [] ∧ ∀ c ∈ key.toList, isBare c := by
  simp [isBareKey]

theorem stops_bareKey (bare : isBareKey key) (apart : ∀ c, isBare c → condition c = false)
    (rest : List Char) : Stops condition (key.toList ++ rest) := by
  obtain ⟨filled, inside⟩ := isBareKey_iff.1 bare
  obtain ⟨c, tail, same⟩ := List.exists_cons_of_ne_nil filled
  rw [same] at inside ⊢
  exact stops_cons.2 (apart c (inside c List.mem_cons_self))

theorem isBlank_of_isBare (c : Char) (bare : isBare c) : isBlank c = false := by
  simp [isBlank, ne_of_apart ' ' bare (by decide), ne_of_apart '\t' bare (by decide)]

theorem blanks_append (blank : ∀ c ∈ run, isBlank c) (stops : Stops isBlank rest) :
    blanks (run ++ rest) = some ((), rest) :=
  bind_of_some (takeWhile_append blank stops) _

theorem blanks_of_stops (stops : Stops isBlank rest) : blanks rest = some ((), rest) :=
  bind_of_some (takeWhile_of_stops stops) _

theorem stops_blank_bareKey (bare : isBareKey key) (rest : List Char) :
    Stops isBlank (key.toList ++ rest) :=
  stops_bareKey bare isBlank_of_isBare rest

abbrev pathKey : Parser String := do
  blanks
  let key ← Toml.key
  blanks
  return key

theorem pathKey_append (run : List Char) (bare : isBareKey key) (ends : Stops isBare (run ++ rest))
    (blank : ∀ c ∈ run, isBlank c) (stops : Stops isBlank rest) :
    pathKey (key.toList ++ (run ++ rest)) = some (key, rest) := by
  obtain ⟨filled, inside⟩ := isBareKey_iff.1 bare
  have read : Toml.key (key.toList ++ (run ++ rest)) = some (key, run ++ rest) := by
    rw [Toml.key, map_of_some (orElse_of_some (takeWhile1_append filled inside ends) _),
      String.ofList_toList]
  rw [pathKey, bind_of_some (blanks_of_stops (stops_blank_bareKey bare _)), bind_of_some read,
    bind_of_some (blanks_append blank stops)]
  rfl

theorem keyPath_key (run : List Char) (bare : isBareKey key) (ends : Stops isBare (run ++ rest))
    (blank : ∀ c ∈ run, isBlank c) (stops : Stops isBlank rest) (dot : Stops (· = '.') rest) :
    keyPath (key.toList ++ (run ++ rest)) = some (⟨[], key⟩, rest) := by
  have later : (do let _ ← char '.'; pathKey) rest = none :=
    bind_of_none (satisfy_of_stops dot) _
  have single := separated_of_repeated (pathKey_append run bare ends blank stops)
    (repeated_of_none later)
  rw [keyPath, bind_of_some single]
  rfl

theorem keyPath_below (bare : isBareKey key) (inner_bare : isBareKey inner)
    (ends : Stops isBare rest) (stops : Stops isBlank rest) (dot : Stops (· = '.') rest) :
    keyPath (key.toList ++ '.' :: (inner.toList ++ rest)) = some (⟨[key], inner⟩, rest) := by
  have first : pathKey (key.toList ++ '.' :: (inner.toList ++ rest)) =
      some (key, '.' :: (inner.toList ++ rest)) :=
    pathKey_append [] bare (stops_cons.2 rfl) (by simp) (stops_cons.2 rfl)
  have second : (do let _ ← char '.'; pathKey) ('.' :: (inner.toList ++ rest)) =
      some (inner, rest) := by
    rw [bind_of_some (char_self _ _)]
    exact pathKey_append [] inner_bare ends (by simp) stops
  have later : (do let _ ← char '.'; pathKey) rest = none :=
    bind_of_none (satisfy_of_stops dot) _
  have shorter : rest.length < ('.' :: (inner.toList ++ rest)).length := by
    simp only [List.length_cons, List.length_append]
    omega
  have repeats := repeated_of_some second shorter
  rw [repeated_of_none later] at repeats
  rw [keyPath, bind_of_some (separated_of_repeated first repeats)]
  rfl

/-! ## Lines -/

def isLine (entry : String × Document) : Bool := isBareKey entry.1 && entry.2.isFlat

def entryLine (entry : String × Document) : List Char :=
  entry.1.toList ++ ([' '] ++ '=' :: ' ' :: ((valueText entry.2).toList ++ ['\n']))

def entryAssignment (entry : String × Document) : Assignment := ⟨⟨[], entry.1⟩, entry.2⟩

theorem hasHeader_of_isFlat {document : Document} (flat : document.isFlat) :
    hasHeader document = false := by
  cases document with
  | seq items =>
      cases items with
      | nil => rfl
      | cons item items =>
          have scalar : item.isScalar := List.all_eq_true.1 flat item List.mem_cons_self
          have not_map : isMap item = false := by cases item <;> first | rfl | cases scalar
          simp [hasHeader, not_map]
  | map entries => cases flat
  | sections items => cases flat
  | _ => rfl

theorem plainLines_eq (flat : ∀ entry ∈ entries, entry.2.isFlat) :
    (plainLines entries).toList = entries.flatMap entryLine := by
  have kept : entries.filter (fun entry => !hasHeader entry.2) = entries :=
    List.filter_eq_self.2 fun entry listed => by simp [hasHeader_of_isFlat (flat entry listed)]
  rw [plainLines, kept, String.toList_join, List.flatMap_map]
  refine congrArg (entries.flatMap ·) (funext fun entry => ?_)
  simp [entryLine]

theorem stops_flatText {document : Document} (flat : document.isFlat)
    (apart : ∀ c, startsScalar c ∨ c = '[' → condition c = false) (rest : List Char) :
    Stops condition ((valueText document).toList ++ rest) := by
  cases document with
  | seq items =>
      obtain ⟨tail, same⟩ := arrayText_eq_cons (itemTexts items)
      rw [valueText, same]
      exact stops_cons.2 (apart '[' (.inr rfl))
  | _ =>
      refine stops_scalarText ?_ (fun c starts => apart c (.inl starts)) rest
      exact flat

theorem stops_entryLine (line : isLine entry) (apart : ∀ c, isBare c → condition c = false)
    (rest : List Char) : Stops condition (entryLine entry ++ rest) := by
  rw [isLine, Bool.and_eq_true] at line
  rw [entryLine, List.append_assoc]
  exact stops_bareKey line.1 apart _

theorem lineRest_newline (rest : List Char) : lineRest ('\n' :: rest) = some ((), rest) := by
  have no_comment : comment ('\n' :: rest) = none := bind_of_none (char_of_ne (by decide) rest) _
  rw [lineRest, bind_of_some (blanks_of_stops (stops_cons.2 rfl)),
    bind_of_some (maybe_of_none no_comment)]
  exact orElse_of_some (bind_of_some (newline_cons rest) _) _

theorem stops_blank_flatText {document : Document} (flat : document.isFlat) (rest : List Char) :
    Stops isBlank ((valueText document).toList ++ rest) := by
  refine stops_flatText flat (fun c starts => ?_) rest
  obtain starts | rfl := starts
  · simp [isBlank, ne_of_apart ' ' starts (by decide),
      ne_of_apart '\t' starts (by decide)]
  · rfl

theorem assignmentLine_entryLine (line : isLine entry) (stops : Stops isBlank rest) :
    assignmentLine (entryLine entry ++ rest) = some (some (entryAssignment entry), rest) := by
  obtain ⟨bare, flat⟩ := Bool.and_eq_true_iff.1 line
  have text : entryLine entry ++ rest = entry.1.toList ++ ([' '] ++ '=' :: ([' '] ++
      ((valueText entry.2).toList ++ '\n' :: rest))) := by simp [entryLine]
  have read : value maxDepth ((valueText entry.2).toList ++ '\n' :: rest) =
      some (entry.2, '\n' :: rest) := value_flat flat (stops_cons.2 rfl) _
  have assigned : assignment (value maxDepth) (entryLine entry ++ rest) =
      some (entryAssignment entry, '\n' :: rest) := by
    have blank : ∀ c ∈ [' '], isBlank c := by simp [isBlank]
    rw [text, assignment, bind_of_some (keyPath_key [' '] bare (stops_cons.2 rfl) blank
        (stops_cons.2 rfl) (stops_cons.2 rfl)), bind_of_some (char_self _ _),
      bind_of_some (blanks_append blank (stops_blank_flatText flat _)), bind_of_some read]
    rfl
  rw [assignmentLine, bind_of_some assigned, bind_of_some (lineRest_newline rest),
    bind_of_some (blanks_of_stops stops)]
  rfl

def lineText? : Option (String × Document) → List Char
  | none => ['\n']
  | some entry => entryLine entry

def SectionEnds (rest : List Char) : Prop := rest = [] ∨ ∃ after, rest = '[' :: after

theorem SectionEnds.stops (ends : SectionEnds rest) (bracket : condition '[' = false) :
    Stops condition rest := by
  obtain rfl | ⟨after, rfl⟩ := ends
  · exact stops_nil
  · exact stops_cons.2 bracket

theorem blankLine_newline (stops : Stops isBlank rest) :
    blankLine ('\n' :: rest) = some (none, rest) := by
  refine orElse_of_some ?_ _
  rw [bind_of_some (newline_cons rest), bind_of_some (blanks_of_stops stops)]
  rfl

theorem blankLine_of_stops (line : Stops isLineMark rest) (hash : Stops (· = '#') rest) :
    blankLine rest = none := by
  rw [blankLine, orElse_of_none (bind_of_none (newline_of_stops line) _)]
  exact bind_of_none (bind_of_none (satisfy_of_stops hash) _) _

theorem assignmentLine_of_ends (ends : SectionEnds rest) : assignmentLine rest = none := by
  have no_key : Toml.key rest = none := by
    refine map_of_none ?_ _
    rw [orElse_of_none (takeWhile1_of_stops (ends.stops (by decide)))]
    obtain rfl | ⟨after, rfl⟩ := ends
    · rfl
    · rfl
  have no_path : keyPath rest = none := by
    refine bind_of_none (bind_of_none ?_ _) _
    rw [bind_of_some (blanks_of_stops (ends.stops rfl))]
    exact bind_of_none no_key _
  exact bind_of_none (bind_of_none no_path _) _

theorem assignments_lines {lines : List (Option (String × Document))}
    (fine : ∀ entry, some entry ∈ lines → isLine entry) (ends : SectionEnds rest) :
    assignments (lines.flatMap lineText? ++ rest) =
      some ((lines.map (·.map entryAssignment)).reduceOption, rest) := by
  have stops : (blankLine <|> assignmentLine) rest = none := by
    rw [orElse_of_none (blankLine_of_stops (ends.stops rfl) (ends.stops rfl))]
    exact assignmentLine_of_ends ends
  refine bind_of_some (congrArg some (repeated_pieces lineText? (·.map entryAssignment)
    (Stops isBlank) id ?_ ?_ (fun _ _ _ => rfl) (fun _ => le_rfl) ?_ (ends.stops rfl) stops)) _
  · intro line listed
    cases line with
    | none => simp [lineText?]
    | some entry => simp [lineText?, entryLine]
  · intro line listed after
    cases line with
    | none => exact stops_cons.2 rfl
    | some entry => exact stops_entryLine (fine entry listed) isBlank_of_isBare after
  · intro line listed after follows
    cases line with
    | none => exact orElse_of_some (blankLine_newline follows) _
    | some entry =>
        have line := fine entry listed
        have no_blank : blankLine (entryLine entry ++ after) = none := by
          refine blankLine_of_stops (stops_entryLine line (fun c bare => ?_) _)
            (stops_entryLine line (fun c bare => ?_) _)
          · simp [isLineMark, ne_of_apart '\n' bare (by decide),
              ne_of_apart '\r' bare (by decide)]
          · simp [ne_of_apart '#' bare (by decide)]
        rw [lineText?, orElse_of_none no_blank]
        exact assignmentLine_entryLine line follows

/-! ## Sections -/

inductive Block where
  | table (key : String) (entries : List (String × Document))
  | element (key inner : String) (entries : List (String × Document))

namespace Block

def lines : Block → List (String × Document)
  | table _ entries | element _ _ entries => entries

def path : Block → KeyPath
  | table key _ => ⟨[], key⟩
  | element key inner _ => ⟨[key], inner⟩

def isElement : Block → Bool
  | table .. => false
  | element .. => true

def header : Block → List Char
  | table key _ => '[' :: (key.toList ++ [']'])
  | element key inner _ => '[' :: '[' :: (key.toList ++ '.' :: (inner.toList ++ [']', ']']))

def text (block : Block) : List Char := block.header ++ '\n' :: block.lines.flatMap entryLine

def part (block : Block) : Section where
  path := block.path
  isElement := block.isElement
  assignments := block.lines.map entryAssignment

def hasBareKeys : Block → Bool
  | table key _ => isBareKey key
  | element key inner _ => isBareKey key && isBareKey inner

structure Fine (block : Block) : Prop where
  keys : block.hasBareKeys
  lines : ∀ entry ∈ block.lines, isLine entry

end Block

variable {block : Block} {blocks : List Block}

theorem header_text (keys : block.hasBareKeys) (rest : List Char) :
    header (block.header ++ rest) = some ((block.path, block.isElement), rest) := by
  cases block with
  | table key entries =>
      have bare : isBareKey key := keys
      have no_second : char '[' (key.toList ++ ']' :: rest) = none :=
        satisfy_of_stops (stops_bareKey bare (fun c inside => by
          simp [ne_of_apart '[' inside (by decide)]) _)
      have path : keyPath (key.toList ++ ']' :: rest) = some (⟨[], key⟩, ']' :: rest) :=
        keyPath_key [] bare (stops_cons.2 rfl) (by simp) (stops_cons.2 rfl) (stops_cons.2 rfl)
      have text : (Block.table key entries).header ++ rest =
          '[' :: (key.toList ++ ']' :: rest) := by simp [Block.header]
      rw [text, header, bind_of_some (char_self _ _), bind_of_some (maybe_of_none no_second),
        bind_of_some path, bind_of_some (char_self _ _)]
      rfl
  | element key inner entries =>
      obtain ⟨bare, inner_bare⟩ := Bool.and_eq_true_iff.1 keys
      have path : keyPath (key.toList ++ '.' :: (inner.toList ++ ']' :: ']' :: rest)) =
          some (⟨[key], inner⟩, ']' :: ']' :: rest) :=
        keyPath_below bare inner_bare (stops_cons.2 rfl) (stops_cons.2 rfl) (stops_cons.2 rfl)
      have text : (Block.element key inner entries).header ++ rest =
          '[' :: '[' :: (key.toList ++ '.' :: (inner.toList ++ ']' :: ']' :: rest)) := by
        simp [Block.header]
      rw [text, header, bind_of_some (char_self _ _),
        bind_of_some (maybe_of_some (char_self _ _)), bind_of_some path,
        bind_of_some (char_self _ _)]
      exact bind_of_some (char_self _ _) _

theorem flatMap_lineText (entries : List (String × Document)) (blankCount : Nat) :
    (entries.map some ++ List.replicate blankCount none).flatMap lineText? =
      entries.flatMap entryLine ++ List.replicate blankCount '\n' := by
  have blank : (List.replicate blankCount none).flatMap lineText? =
      List.replicate blankCount '\n' := by
    induction blankCount with
    | zero => rfl
    | succ blankCount ih =>
        rw [List.replicate_succ, List.flatMap_cons, ih]
        rfl
  rw [List.flatMap_append, List.flatMap_map, blank]
  rfl

theorem reduceOption_lines (entries : List (String × Document)) (blankCount : Nat) :
    ((entries.map some ++ List.replicate blankCount none).map
      (Option.map entryAssignment)).reduceOption = entries.map entryAssignment := by
  induction entries with
  | nil => simp
  | cons entry entries ih =>
      rw [List.map_cons, List.cons_append, List.map_cons, Option.map_some,
        List.reduceOption_cons_of_some, ih, List.map_cons]

theorem tableSection_text (fine : block.Fine) (ends : SectionEnds rest) (blankCount : Nat) :
    tableSection (block.text ++ (List.replicate blankCount '\n' ++ rest)) =
      some (block.part, rest) := by
  let lines := block.lines.map some ++ List.replicate blankCount none
  have lines_fine : ∀ entry, some entry ∈ lines → isLine entry := fun entry listed =>
    fine.lines entry (by simpa [lines] using listed)
  have body := assignments_lines lines_fine ends
  rw [flatMap_lineText, reduceOption_lines, List.append_assoc] at body
  have apart : Stops isBlank (block.lines.flatMap entryLine ++
      (List.replicate blankCount '\n' ++ rest)) := by
    cases found : block.lines with
    | nil =>
        cases blankCount with
        | zero => exact ends.stops rfl
        | succ blankCount => exact stops_cons.2 rfl
    | cons entry entries =>
        rw [List.flatMap_cons, List.append_assoc]
        exact stops_entryLine (fine.lines entry (found ▸ List.mem_cons_self)) isBlank_of_isBare _
  have text : block.text ++ (List.replicate blankCount '\n' ++ rest) = block.header ++ '\n' ::
      (block.lines.flatMap entryLine ++ (List.replicate blankCount '\n' ++ rest)) := by
    simp [Block.text]
  rw [text, tableSection, bind_of_some (header_text fine.keys _)]
  refine (bind_of_some (lineRest_newline _) _).trans ?_
  rw [bind_of_some (blanks_of_stops apart), bind_of_some body]
  rfl

theorem text_eq_cons (block : Block) : ∃ tail, block.text = '[' :: tail := by
  cases block <;> exact ⟨_, rfl⟩

theorem sectionEnds_blocks (blocks : List Block) :
    SectionEnds (['\n'].intercalate (blocks.map Block.text)) := by
  match blocks with
  | [] => exact .inl rfl
  | [block] =>
      rw [List.map_singleton, List.intercalate_singleton]
      exact .inr (text_eq_cons block)
  | block :: next :: blocks =>
      obtain ⟨tail, same⟩ := text_eq_cons block
      rw [List.map_cons, List.map_cons, List.intercalate_cons_cons, same]
      exact .inr ⟨_, rfl⟩

theorem repeated_tableSection (fine : ∀ block ∈ blocks, block.Fine) :
    repeated tableSection (['\n'].intercalate (blocks.map Block.text)) =
      (blocks.map Block.part, []) := by
  induction blocks with
  | nil => exact repeated_of_none rfl
  | cons block blocks ih =>
      have block_fine := fine block List.mem_cons_self
      have later := ih fun block listed => fine block (List.mem_cons_of_mem _ listed)
      obtain ⟨tail, same⟩ := text_eq_cons block
      cases blocks with
      | nil =>
          have read := tableSection_text block_fine (.inl rfl) 0
          rw [List.replicate_zero, List.append_nil, List.append_nil] at read
          rw [List.map_singleton, List.intercalate_singleton,
            repeated_of_some read (by simp [same]), repeated_of_none rfl]
          rfl
      | cons next blocks =>
          have read := tableSection_text block_fine (sectionEnds_blocks (next :: blocks)) 1
          rw [List.map_cons, List.map_cons, List.intercalate_cons_cons, ← List.map_cons,
            List.append_assoc]
          refine (repeated_of_some read ?_).trans ?_
          · simp [same]
            omega
          · rw [later]
            rfl

theorem wholeText_blocks (fine : ∀ block ∈ blocks, block.Fine) :
    wholeText (['\n'].intercalate (blocks.map Block.text)) =
      some (([], blocks.map Block.part), []) := by
  have ends := sectionEnds_blocks blocks
  have no_mark : char '\ufeff' (['\n'].intercalate (blocks.map Block.text)) = none :=
    satisfy_of_stops (ends.stops (by decide))
  have no_lines : assignments (['\n'].intercalate (blocks.map Block.text)) =
      some ([], ['\n'].intercalate (blocks.map Block.text)) :=
    assignments_lines (fun _ listed => absurd listed List.not_mem_nil) ends
  rw [wholeText, bind_of_some (maybe_of_none no_mark),
    bind_of_some (blanks_of_stops (ends.stops rfl)), bind_of_some no_lines,
    bind_of_some (congrArg some (repeated_tableSection fine))]
  rfl

end Lanewise.Toml

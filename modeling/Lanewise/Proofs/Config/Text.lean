import Lanewise.Config.Text
import Lanewise.Proofs.Config.Record
import Lanewise.Proofs.Toml.Record

namespace Lanewise

open Toml

instance (host : Host) : FlatRecord (TargetRequest.record host) where
  bare := by rfl
  flat := by simp [TargetRequest.record]

instance : FlatRecord Switches.record where
  bare := by decide +kernel
  flat := by simp [Switches.record]

instance : FlatRecord Config.Codegen.record where
  bare := by decide +kernel
  flat := by simp [Config.Codegen.record]

instance : FlatRecord FileLine.record where
  bare := by decide +kernel
  flat := by simp [FileLine.record]

instance : FlatRecord Config.Paths.record where
  bare := by decide +kernel
  flat := by simp [Config.Paths.record]

namespace Config

namespace Diagnostics

def lineFields : List (Field Diagnostics) := record.fields.dropLast

def silencedField : Field Diagnostics :=
  .of "suppress" (.list FileLine.record.codec) (·.silenced)
    fun silenced diagnostics => { diagnostics with silenced }

theorem fields_record : record.fields = lineFields ++ [silencedField] := rfl

def outline (diagnostics : Diagnostics) : Outline where
  key := "diagnostics"
  lines := Record.written lineFields diagnostics ++
    if diagnostics.silenced = [] then [("suppress", .seq [])] else []
  lists :=
    if diagnostics.silenced = [] then []
    else [("suppress", diagnostics.silenced.map FileLine.record.entries)]

theorem entries_outline (diagnostics : Diagnostics) :
    diagnostics.outline.entries = record.entries diagnostics := by
  have last : record.entries diagnostics = Record.written lineFields diagnostics ++
      [("suppress", .seq (diagnostics.silenced.map FileLine.record.codec.write))] := by
    rw [Record.entries, fields_record, List.filterMap_append]
    rfl
  rw [last]
  by_cases none : diagnostics.silenced = []
  · simp [outline, Outline.entries, none]
  · simp [outline, Outline.entries, none, listEntry, Record.codec]

theorem keys_outline_nodup (diagnostics : Diagnostics) :
    ((Record.written lineFields diagnostics).map (·.1) ++ ["suppress"]).Nodup := by
  have keys : (record.fields.map (·.key)).Nodup := LawfulRecord.keys_nodup
  rw [fields_record, List.map_append] at keys
  exact ((written_sublist lineFields diagnostics).append_right _).nodup keys

theorem fine_outline (diagnostics : Diagnostics) : diagnostics.outline.Fine := by
  have bare : ∀ field ∈ lineFields, isBareKey field.key := List.all_eq_true.1 (by decide +kernel)
  have flat : ∀ field ∈ lineFields, field.IsFlat := by simp [lineFields, record]
  have lines := isLine_written bare flat diagnostics
  have apart := keys_outline_nodup diagnostics
  have key : isBareKey "diagnostics" := by decide
  have suppress : isBareKey "suppress" := by decide
  -- Without silenced lines their field has a line of its own, and is no list of tables.
  by_cases none : diagnostics.silenced = []
  · have last : isLine ("suppress", .seq []) := by simp [isLine, suppress, Document.isFlat]
    constructor
    case key => exact key
    case lines =>
      simp only [outline, none, if_true, List.mem_append, List.mem_singleton]
      rintro entry (listed | rfl)
      · exact lines entry listed
      · exact last
    case lists => simp [outline, none]
    case elements => simp [outline, none]
    case apart => simpa [outline, none] using apart
  · constructor
    case key => exact key
    case lines => simpa [outline, none] using lines
    case lists => simp [outline, none, suppress]
    case elements =>
      simp only [outline, if_neg none, List.mem_singleton]
      rintro _ rfl element listed
      obtain ⟨line, -, rfl⟩ := List.mem_map.1 listed
      exact ⟨isLine_entries FileLine.record line, entries_nodup FileLine.record line⟩
    case apart => simpa [outline, none] using apart

end Diagnostics

def outlines (host : Host) (config : Config) : List Outline :=
  [recordOutline "target" (TargetRequest.record host) config.target,
    recordOutline "opt" Switches.record config.opt,
    recordOutline "codegen" Codegen.record config.codegen,
    config.diagnostics.outline,
    recordOutline "paths" Paths.record config.paths]

theorem fine_outlines (host : Host) (config : Config) :
    ∀ outline ∈ outlines host config, outline.Fine := by
  simp only [outlines, List.forall_mem_cons]
  refine ⟨fine_recordOutline (by decide) _ _, fine_recordOutline (by decide) _ _,
    fine_recordOutline (by decide) _ _, config.diagnostics.fine_outline,
    fine_recordOutline (by decide) _ _, ?_⟩
  simp

theorem entries_eq (host : Host) (config : Config) :
    (record host).entries config = (outlines host config).map Outline.entry := by
  have entry_record {σ : Type} (key : String) (record : Record σ) (source : σ) :
      (recordOutline key record source).entry = (key, record.codec.write source) := by
    simp [recordOutline, Outline.entry, Outline.entries, Record.codec]
  have entry_diagnostics : config.diagnostics.outline.entry =
      ("diagnostics", Diagnostics.record.codec.write config.diagnostics) := by
    rw [Outline.entry, Diagnostics.entries_outline]
    rfl
  simp only [outlines, List.map_cons, List.map_nil, entry_record, entry_diagnostics]
  rfl

/-- Writing a configuration succeeds, as what is written consists of maps, lists, texts, truth
values and 32-bit numbers alone, and reading the text gives the configuration again. -/
theorem parse_text (host : Host) (config : Config) :
    (Document.map ((record host).entries config)).isPlain ∧
      parse host (config.text host) = .ok config := by
  have plain : ((record host).codec.write config).isPlain := LawfulCodec.isPlain_write config
  refine ⟨plain, ?_⟩
  have fine := fine_outlines host config
  have apart : ((outlines host config).map (·.key)).Nodup := by
    change ["target", "opt", "codegen", "diagnostics", "paths"].Nodup
    decide
  have read : Toml.read? (config.text host) =
      some ((outlines host config).map Outline.again) := by
    rw [text, entries_eq]
    exact read?_write fine apart
  have similar : ((record host).codec.write config).Similar
      (.map ((outlines host config).map Outline.again)) := by
    refine .map ?_
    rw [entries_eq]
    exact similarEntries_again fine
  have rebuilt : (record host).read .toml (.map ((outlines host config).map Outline.again)) =
      .ok config := LawfulCodec.read_similar .toml config _ similar
  have given : orFail ConfigFault.malformed (Toml.read? (config.text host)) =
      .ok ((outlines host config).map Outline.again) := orFail_eq_ok.2 read
  rw [parse, given, ok_bind, rebuilt, mapError_ok]

end Config

end Lanewise

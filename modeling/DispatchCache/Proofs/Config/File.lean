import DispatchCache.Config.Source

/-! # What a file tells

A file is read as text, the text as a TOML document, and the document field by field. A field that
the document leaves out has its default, one that is there has to be of its kind, and whatever else
is in the document does not matter. The first step that fails decides how reading the file fails. -/

namespace DispatchCache.Config

variable {α : Type} {entries : Toml.Entries} {key : String} {read : Toml → Option α} {missing : α}

/-- A document gives a field a value: what stands under the key, or `missing` if nothing does. -/
inductive Field (entries : Toml.Entries) (key : String) (read : Toml → Option α) (missing : α) :
    α → Prop where
  | left (vacant : entries.lookup key = none) : Field entries key read missing missing
  | set {held : Toml} {value : α} (there : entries.lookup key = some held)
      (reads : read held = some value) : Field entries key read missing value

/-- What stands under the key is of another kind. -/
def Misfit (entries : Toml.Entries) (key : String) (read : Toml → Option α) : Prop :=
  ∃ held, entries.lookup key = some held ∧ read held = none

theorem field_iff {value : α} : Field entries key read missing value ↔
    (entries.lookup key).elim (some missing) read = some value := by
  constructor
  · rintro (vacant | ⟨there, reads⟩)
    · rw [vacant, Option.elim_none]
    · rw [there, Option.elim_some, reads]
  · intro told
    cases looked : entries.lookup key with
    | none =>
      rw [looked, Option.elim_none] at told
      cases told
      exact .left looked
    | some held =>
      rw [looked, Option.elim_some] at told
      exact .set looked told

theorem misfit_iff (missing : α) : Misfit entries key read ↔
    (entries.lookup key).elim (some missing) read = none := by
  cases looked : entries.lookup key <;> simp [Misfit, looked]

/-- The document has this configuration. -/
structure ToldBy (entries : Toml.Entries) (config : Config) : Prop where
  insertPolicy : Field entries "insert_policy" InsertPolicy.ofToml? .allowDuplicates
    config.insertPolicy
  collectMetrics : Field entries "collect_metrics" Toml.boolean? true config.collectMetrics
  logFilter : Field entries "log_filter" Toml.string? "warn" config.logFilter

/-- The document has none, as one of the fields is of another kind. -/
def Misfits (entries : Toml.Entries) : Prop :=
  Misfit entries "insert_policy" InsertPolicy.ofToml? ∨
    Misfit entries "collect_metrics" Toml.boolean? ∨ Misfit entries "log_filter" Toml.string?

theorem ofTomlEntries?_eq_some_iff {config : Config} :
    ofTomlEntries? entries = some config ↔ ToldBy entries config := by
  constructor
  · intro told
    obtain ⟨policy, insertPolicy, told⟩ := Option.bind_eq_some_iff.mp told
    obtain ⟨metrics, collectMetrics, told⟩ := Option.bind_eq_some_iff.mp told
    obtain ⟨filter, logFilter, told⟩ := Option.bind_eq_some_iff.mp told
    cases told
    exact ⟨field_iff.mpr insertPolicy, field_iff.mpr collectMetrics, field_iff.mpr logFilter⟩
  · rintro ⟨insertPolicy, collectMetrics, logFilter⟩
    refine Option.bind_eq_some_iff.mpr ⟨_, field_iff.mp insertPolicy, ?_⟩
    refine Option.bind_eq_some_iff.mpr ⟨_, field_iff.mp collectMetrics, ?_⟩
    exact Option.bind_eq_some_iff.mpr ⟨_, field_iff.mp logFilter, rfl⟩

/-- Each field either has a value or is of another kind. -/
theorem exists_toldBy_or_misfits (entries : Toml.Entries) :
    (∃ config, ToldBy entries config) ∨ Misfits entries := by
  rcases policy : (entries.lookup "insert_policy").elim (some .allowDuplicates)
    InsertPolicy.ofToml? with _ | insertPolicy
  · exact .inr (.inl ((misfit_iff _).mpr policy))
  rcases metrics : (entries.lookup "collect_metrics").elim (some true) Toml.boolean?
    with _ | collectMetrics
  · exact .inr (.inr (.inl ((misfit_iff _).mpr metrics)))
  rcases filter : (entries.lookup "log_filter").elim (some "warn") Toml.string?
    with _ | logFilter
  · exact .inr (.inr (.inr ((misfit_iff _).mpr filter)))
  exact .inl ⟨⟨insertPolicy, collectMetrics, logFilter⟩, field_iff.mpr policy,
    field_iff.mpr metrics, field_iff.mpr filter⟩

theorem not_toldBy_of_misfits (misfits : Misfits entries) (config : Config) :
    ¬ ToldBy entries config := by
  rintro ⟨insertPolicy, collectMetrics, logFilter⟩
  rcases misfits with misfit | misfit | misfit
  · cases ((misfit_iff _).mp misfit).symm.trans (field_iff.mp insertPolicy)
  · cases ((misfit_iff _).mp misfit).symm.trans (field_iff.mp collectMetrics)
  · cases ((misfit_iff _).mp misfit).symm.trans (field_iff.mp logFilter)

theorem ofTomlEntries?_eq_none_iff : ofTomlEntries? entries = none ↔ Misfits entries := by
  rw [Option.eq_none_iff_forall_ne_some]
  simp only [ne_eq, ofTomlEntries?_eq_some_iff]
  constructor
  · intro untold
    exact (exists_toldBy_or_misfits entries).resolve_left fun ⟨config, told⟩ => untold config told
  · exact not_toldBy_of_misfits

/-- What comes of a file: a configuration, or why there is none. -/
inductive FileTells (contents : FileContents) : Except ConfigError Config → Prop where
  /-- There is no such file, or it cannot be read. -/
  | gone (gone : contents = none) : FileTells contents (.error .unreadable)
  | noText {bytes : ByteArray} (there : contents = some bytes)
      (noText : String.fromUTF8? bytes = none) : FileTells contents (.error .unreadable)
  | noToml {bytes : ByteArray} {text : String} (there : contents = some bytes)
      (isText : String.fromUTF8? bytes = some text) (noToml : Toml.parse? text = none) :
      FileTells contents (.error .malformed)
  | misfits {bytes : ByteArray} {text : String} {entries : Toml.Entries}
      (there : contents = some bytes) (isText : String.fromUTF8? bytes = some text)
      (isToml : Toml.parse? text = some entries) (misfits : Misfits entries) :
      FileTells contents (.error .malformed)
  | told {bytes : ByteArray} {text : String} {entries : Toml.Entries} {config : Config}
      (there : contents = some bytes) (isText : String.fromUTF8? bytes = some text)
      (isToml : Toml.parse? text = some entries) (told : ToldBy entries config) :
      FileTells contents (.ok config)

variable {contents : FileContents}

theorem fileTells_ofFile (contents : FileContents) : FileTells contents (ofFile contents) := by
  unfold ofFile ofTomlText?
  rcases contents with _ | bytes
  · exact .gone rfl
  rcases isText : String.fromUTF8? bytes with _ | text
  · simp only [Option.bind_some, isText]
    exact .noText rfl isText
  rcases isToml : Toml.parse? text with _ | entries
  · simp only [Option.bind_some, isText, isToml, Option.bind_none]
    exact .noToml rfl isText isToml
  rcases read : ofTomlEntries? entries with _ | config
  · simp only [Option.bind_some, isText, isToml, read]
    exact .misfits rfl isText isToml (ofTomlEntries?_eq_none_iff.mp read)
  · simp only [Option.bind_some, isText, isToml, read]
    exact .told rfl isText isToml (ofTomlEntries?_eq_some_iff.mp read)

/-- Reading a file gives just what the file tells. -/
theorem ofFile_eq_iff {told : Except ConfigError Config} :
    ofFile contents = told ↔ FileTells contents told := by
  constructor
  · rintro rfl
    exact fileTells_ofFile contents
  · rintro (rfl | ⟨rfl, noText⟩ | ⟨rfl, isText, noToml⟩ | ⟨rfl, isText, isToml, misfits⟩ |
      ⟨rfl, isText, isToml, told⟩)
    · rfl
    · simp only [ofFile, Option.bind_some, noText]
    · simp only [ofFile, ofTomlText?, Option.bind_some, isText, noToml, Option.bind_none]
    · simp only [ofFile, ofTomlText?, Option.bind_some, isText, isToml,
        ofTomlEntries?_eq_none_iff.mpr misfits]
    · simp only [ofFile, ofTomlText?, Option.bind_some, isText, isToml,
        ofTomlEntries?_eq_some_iff.mpr told]

end DispatchCache.Config

/-
Module: MethodForge.Proofs.Config.Settings
Purpose: A configuration is what its document sets. A key of a section changes one field and leaves the
  others alone, and a section changes one part of the configuration in the same way. So what a field
  holds in the end is the text under its key, or else its own default, whatever else is set beside
  it.
Main exports: Tracks, Tracks.foldlM_readEntry, knownKeys, SetsTexts, HoldsSettings, text?,
  TakeTexts, setting_eq, SetBy, setBy_ofDocument
-/
import MethodForge.Config.Basic

namespace MethodForge.Config

open Toml (Entries Value)

/-! ### Reading one table -/

section

variable {Section α : Type} {fields : List (Field Section)} {key : String} {get : Section → α}
  {holds : Value → α → Prop} {start current next result : Section}

/-- What is said of a key and the part of a section that it sets: reading a value under the key makes
the part hold it, and reading a value under any other key leaves the part as it is. -/
structure Tracks (fields : List (Field Section)) (key : String) (get : Section → α)
    (holds : Value → α → Prop) : Prop where
  known : ∃ field ∈ fields, field.key = key
  own : ∀ field ∈ fields, field.key = key → ∀ current value next,
    field.read current value = some next → holds value (get next)
  others : ∀ field ∈ fields, field.key ≠ key → ∀ current value next,
    field.read current value = some next → get next = get current

/-- Reading an entry under the key. -/
theorem Tracks.readEntry_self (tracks : Tracks fields key get holds) {value : Value}
    (read : readEntry fields current (key, value) = some next) : holds value (get next) := by
  unfold readEntry at read
  split at read
  · rename_i field search
    have same : field.key = key := by simpa using List.find?_some search
    exact tracks.own field (List.mem_of_find?_eq_some search) same current value next read
  · rename_i search
    obtain ⟨field, member, same⟩ := tracks.known
    have other := List.find?_eq_none.1 search field member
    simp [same] at other

/-- Reading an entry under another key. -/
theorem Tracks.readEntry_other (tracks : Tracks fields key get holds) {entry : String × Value}
    (other : entry.1 ≠ key) (read : readEntry fields current entry = some next) :
    get next = get current := by
  unfold readEntry at read
  split at read
  · rename_i field search
    have same : field.key = entry.1 := by simpa using List.find?_some search
    exact tracks.others field (List.mem_of_find?_eq_some search) (same ▸ other) current entry.2 next
      read
  · split at read
    · cases read
      rfl
    · cases read

/-- When a table is read in which no key stands twice, the part holds what is under its key, and is as
it was when nothing is. -/
theorem Tracks.foldlM_readEntry (tracks : Tracks fields key get holds) {entries : Entries}
    (distinct : (entries.map Prod.fst).Nodup)
    (read : entries.foldlM (readEntry fields) start = some result) :
    (∀ value, entries.lookup key = some value → holds value (get result)) ∧
      (entries.lookup key = none → get result = get start) := by
  induction entries generalizing start with
  | nil =>
      cases read
      simp
  | cons entry rest ih =>
      obtain ⟨first, value⟩ := entry
      rw [List.foldlM_cons] at read
      obtain ⟨next, step, later⟩ := Option.bind_eq_some_iff.1 read
      obtain ⟨notLater, distinctLater⟩ := List.nodup_cons.1 distinct
      obtain ⟨found, missing⟩ := ih distinctLater later
      by_cases same : first = key
      · subst same
        -- No later entry has the key, so what it has set stays.
        have absent : rest.lookup first = none := by
          rw [List.lookup_eq_none_iff]
          intro entry member
          have different : entry.1 ≠ first := fun same =>
            notLater (List.mem_map.2 ⟨entry, member, same⟩)
          simpa using different.symm
        have kept := missing absent
        have own := tracks.readEntry_self step
        rw [List.lookup_cons_self]
        refine ⟨?_, fun nothing => by cases nothing⟩
        rintro _ ⟨rfl⟩
        rw [kept]
        exact own
      · have skipped : ((first, value) :: rest).lookup key = rest.lookup key := by
          rw [List.lookup_cons, beq_false_of_ne (Ne.symm same)]
        have kept : get next = get start := tracks.readEntry_other same step
        rw [skipped]
        exact ⟨found, fun nothing => (missing nothing).trans kept⟩

/-- A table is read when each of its entries can be, whatever has been read before it. -/
theorem exists_foldlM_readEntry {entries : Entries}
    (readable : ∀ entry ∈ entries, ∀ current, ∃ next, readEntry fields current entry = some next)
    (start : Section) : ∃ result, entries.foldlM (readEntry fields) start = some result := by
  induction entries generalizing start with
  | nil => exact ⟨start, rfl⟩
  | cons entry rest ih =>
      obtain ⟨next, step⟩ := readable entry List.mem_cons_self start
      obtain ⟨result, later⟩ :=
        ih (fun other member => readable other (List.mem_cons_of_mem _ member)) next
      refine ⟨result, ?_⟩
      rw [List.foldlM_cons, step]
      exact later

end

/-! ### Tables of texts -/

/-- The keys that a configuration may set, section by section. -/
def knownKeys : List (String × List String) :=
  [ ("layout", ["base", "gen_dir", "methods_dir"]),
    ("deploy", ["domain", "namespace"]),
    ("toolchain",
      ["root", "protoc", "protoc_include", "korpc_include", "plugin", "protoc_gen_go"]),
    ("logging", ["level"]) ]

/-- Whether a table sets some of the keys, each once and to a text. What it has under other keys only
has to be possible. -/
structure SetsTexts (keys : List String) (entries : Entries) : Prop where
  distinct : (entries.map Prod.fst).Nodup
  texts : ∀ entry ∈ entries, entry.1 ∈ keys → ∃ text, entry.2 = .text text
  others : ∀ entry ∈ entries, entry.1 ∉ keys → entry.2.isRepresentable = true

/-- Whether a document sets some of the known keys. -/
structure HoldsSettings (document : Entries) : Prop where
  distinct : (document.map Prod.fst).Nodup
  tables : ∀ known ∈ knownKeys, ∀ value, (known.1, value) ∈ document →
    ∃ kind entries, value = .table kind entries ∧ SetsTexts known.2 entries
  others : ∀ entry ∈ document, entry.1 ∉ knownKeys.map Prod.fst → entry.2.isRepresentable = true

/-- The text that a document sets in one of its sections. -/
def text? (document : Entries) (part key : String) : Option String :=
  match Entries.find? document part with
  | some (.table _ entries) =>
      match Entries.find? entries key with
      | some (.text text) => some text
      | _ => none
  | _ => none

/-- Whether fields take texts and nothing else. -/
structure TakeTexts {Section : Type} (fields : List (Field Section)) : Prop where
  takes : ∀ field ∈ fields, ∀ current text, (field.read current (.text text)).isSome
  only : ∀ field ∈ fields, ∀ current value next, field.read current value = some next →
    ∃ text, value = .text text

section

variable {Section : Type} {fields : List (Field Section)} {key : String}
  {set : Section → String → Section}

@[simp] theorem Field.text_key : (Field.text key set).key = key := rfl

@[simp] theorem Field.text_read_text (current : Section) (text : String) :
    (Field.text key set).read current (.text text) = some (set current text) := rfl

theorem TakeTexts.nil : TakeTexts ([] : List (Field Section)) := by
  constructor <;> simp

theorem TakeTexts.cons (rest : TakeTexts fields) : TakeTexts (.text key set :: fields) := by
  constructor
  · intro field member current text
    rcases List.mem_cons.1 member with rfl | later
    · rfl
    · exact rest.takes field later current text
  · intro field member current value next read
    rcases List.mem_cons.1 member with rfl | later
    · cases value with
      | text text => exact ⟨text, rfl⟩
      | _ => cases read
    · exact rest.only field later current value next read

end

theorem takeTexts_layoutFields : TakeTexts layoutFields :=
  TakeTexts.nil.cons.cons.cons

theorem takeTexts_deploymentFields : TakeTexts deploymentFields :=
  TakeTexts.nil.cons.cons

theorem takeTexts_toolchainFields : TakeTexts toolchainFields :=
  TakeTexts.nil.cons.cons.cons.cons.cons.cons

theorem takeTexts_loggingFields : TakeTexts loggingFields :=
  TakeTexts.nil.cons

section

variable {Section : Type} {fields : List (Field Section)} {entries : Entries}

/-- Fields that take texts read a table that sets only texts under their keys. -/
theorem TakeTexts.exists_readSection (takes : TakeTexts fields)
    (sets : SetsTexts (fields.map Field.key) entries) (start : Section) (kind : Toml.TableKind) :
    ∃ result, readSection fields start (.table kind entries) = some result := by
  refine exists_foldlM_readEntry (fun entry member current => ?_) start
  unfold readEntry
  cases search : fields.find? (·.key == entry.1) with
  | some field =>
      have inFields := List.mem_of_find?_eq_some search
      have same : field.key = entry.1 := by simpa using List.find?_some search
      obtain ⟨text, value⟩ := sets.texts entry member (same ▸ List.mem_map_of_mem inFields)
      rw [value]
      exact Option.isSome_iff_exists.1 (takes.takes field inFields current text)
  | none =>
      have unknown : entry.1 ∉ fields.map Field.key := by
        intro known
        obtain ⟨field, inFields, same⟩ := List.mem_map.1 known
        have other := List.find?_eq_none.1 search field inFields
        simp [same] at other
      exact ⟨current, if_pos (sets.others entry member unknown)⟩

/-- Among fields that take texts, a key is tracked if its text is put where it belongs and no other
text is. -/
theorem TakeTexts.tracks (takes : TakeTexts fields) {key : String} {get : Section → String}
    (known : key ∈ fields.map Field.key)
    (sets : ∀ field ∈ fields, ∀ current text next, field.read current (.text text) = some next →
      get next = if field.key = key then text else get current) :
    Tracks fields key get (fun value text => value = .text text) := by
  constructor
  · exact List.mem_map.1 known
  · intro field member same current value next read
    obtain ⟨text, rfl⟩ := takes.only field member current value next read
    rw [sets field member current text next read, if_pos same]
  · intro field member other current value next read
    obtain ⟨text, rfl⟩ := takes.only field member current value next read
    rw [sets field member current text next read, if_neg other]

end

theorem tracks_layoutFields :
    Tracks layoutFields "base" Layout.base (fun value text => value = .text text) ∧
      Tracks layoutFields "gen_dir" Layout.genDir (fun value text => value = .text text) ∧
      Tracks layoutFields "methods_dir" Layout.methodsDir
        (fun value text => value = .text text) := by
  refine ⟨takeTexts_layoutFields.tracks (by decide) ?_,
    takeTexts_layoutFields.tracks (by decide) ?_, takeTexts_layoutFields.tracks (by decide) ?_⟩
  · simp [layoutFields]
  · simp [layoutFields]
  · simp [layoutFields]

theorem tracks_deploymentFields :
    Tracks deploymentFields "domain" Deployment.domain (fun value text => value = .text text) ∧
      Tracks deploymentFields "namespace" Deployment.kubeNamespace
        (fun value text => value = .text text) := by
  refine ⟨takeTexts_deploymentFields.tracks (by decide) ?_,
    takeTexts_deploymentFields.tracks (by decide) ?_⟩
  · simp [deploymentFields]
  · simp [deploymentFields]

/-! ### The document -/

/-- The sections of a configuration have known names, and read tables that set their keys. -/
theorem exists_read_of_mem_sections {field : Field Config} (member : field ∈ sections) :
    ∃ keys, (field.key, keys) ∈ knownKeys ∧ ∀ kind entries, SetsTexts keys entries →
      ∀ current, ∃ next, field.read current (.table kind entries) = some next := by
  simp only [sections, List.mem_cons, List.not_mem_nil, or_false] at member
  rcases member with rfl | rfl | rfl | rfl
  · refine ⟨layoutFields.map Field.key, by decide, fun kind entries sets current => ?_⟩
    obtain ⟨part, read⟩ := takeTexts_layoutFields.exists_readSection sets {} kind
    exact ⟨_, congrArg (Option.map _) read⟩
  · refine ⟨deploymentFields.map Field.key, by decide, fun kind entries sets current => ?_⟩
    obtain ⟨part, read⟩ := takeTexts_deploymentFields.exists_readSection sets {} kind
    exact ⟨_, congrArg (Option.map _) read⟩
  · refine ⟨toolchainFields.map Field.key, by decide, fun kind entries sets current => ?_⟩
    obtain ⟨part, read⟩ := takeTexts_toolchainFields.exists_readSection sets {} kind
    exact ⟨_, congrArg (Option.map _) read⟩
  · refine ⟨loggingFields.map Field.key, by decide, fun kind entries sets current => ?_⟩
    obtain ⟨part, read⟩ := takeTexts_loggingFields.exists_readSection sets {} kind
    exact ⟨_, congrArg (Option.map _) read⟩

section

variable {document : Entries}

/-- A document that holds settings gives a configuration. -/
theorem HoldsSettings.exists_ofDocument (settings : HoldsSettings document) :
    ∃ config, ofDocument document = some config := by
  refine exists_foldlM_readEntry (fun entry member current => ?_) ({} : Config)
  obtain ⟨name, value⟩ := entry
  unfold readEntry
  cases search : sections.find? (·.key == name) with
  | some field =>
      have same : field.key = name := by simpa using List.find?_some search
      obtain ⟨keys, known, reads⟩ :=
        exists_read_of_mem_sections (List.mem_of_find?_eq_some search)
      rw [same] at known
      obtain ⟨kind, entries, rfl, sets⟩ := settings.tables (name, keys) known value member
      exact reads kind entries sets current
  | none =>
      have names : knownKeys.map Prod.fst = sections.map Field.key := rfl
      have unknown : name ∉ knownKeys.map Prod.fst := by
        rw [names]
        intro known
        obtain ⟨field, inSections, same⟩ := List.mem_map.1 known
        have other := List.find?_eq_none.1 search field inSections
        simp [same] at other
      exact ⟨current, if_pos (settings.others _ member unknown)⟩

/-- A setting is the text that the document has under its key, or else its default. -/
theorem setting_eq {Section : Type} {part : Config → Section} {fields : List (Field Section)}
    {name key : String} {keys : List String} {get : Section → String}
    (partTracks : Tracks sections name part fun value read =>
      readSection fields (part {}) value = some read)
    (keyTracks : Tracks fields key get fun value text => value = .text text)
    (known : (name, keys) ∈ knownKeys) (settings : HoldsSettings document) {config : Config}
    (read : ofDocument document = some config) :
    get (part config) = (text? document name key).getD (get (part {})) := by
  obtain ⟨found, missing⟩ := partTracks.foldlM_readEntry settings.distinct read
  cases there : document.lookup name with
  | none =>
      have nothing : text? document name key = none := by
        simp only [text?, Entries.find?, there]
      rw [missing there, nothing, Option.getD_none]
  | some value =>
      have member : (name, value) ∈ document := by
        obtain ⟨before, after, order, -⟩ := List.lookup_eq_some_iff.1 there
        simp [order]
      obtain ⟨kind, entries, rfl, sets⟩ := settings.tables (name, keys) known value member
      obtain ⟨foundKey, missingKey⟩ :=
        keyTracks.foldlM_readEntry sets.distinct (found _ there)
      cases under : entries.lookup key with
      | none =>
          have nothing : text? document name key = none := by
            simp only [text?, Entries.find?, there, under]
          rw [missingKey under, nothing, Option.getD_none]
      | some value =>
          have text : value = .text (get (part config)) := foundKey value under
          have set : text? document name key = some (get (part config)) := by
            simp only [text?, Entries.find?, there, under, text]
          rw [set, Option.getD_some]

theorem tracks_layout : Tracks sections "layout" Config.layout fun value layout =>
    readSection layoutFields {} value = some layout := by
  constructor
  · simp [sections]
  · simp [sections]
  · simp [sections]

theorem tracks_deploy : Tracks sections "deploy" Config.deploy fun value deploy =>
    readSection deploymentFields {} value = some deploy := by
  constructor
  · simp [sections]
  · simp [sections]
  · simp [sections]

/-- What is said of a configuration that comes from a document: each setting of the layout and of the
deployment is what the document sets, or else its default. -/
structure SetBy (document : Entries) (config : Config) : Prop where
  base : config.layout.base = (text? document "layout" "base").getD ""
  genDir : config.layout.genDir = (text? document "layout" "gen_dir").getD "./gen"
  methodsDir :
    config.layout.methodsDir = (text? document "layout" "methods_dir").getD "./pkg/methods"
  domain : config.deploy.domain = (text? document "deploy" "domain").getD ""
  kubeNamespace :
    config.deploy.kubeNamespace = (text? document "deploy" "namespace").getD "default"

/-- A document that holds settings gives a configuration with them. -/
theorem setBy_ofDocument (settings : HoldsSettings document) :
    ∃ config, ofDocument document = some config ∧ SetBy document config := by
  obtain ⟨config, read⟩ := settings.exists_ofDocument
  have layout : ("layout", ["base", "gen_dir", "methods_dir"]) ∈ knownKeys := by decide
  have deploy : ("deploy", ["domain", "namespace"]) ∈ knownKeys := by decide
  obtain ⟨base, genDir, methodsDir⟩ := tracks_layoutFields
  obtain ⟨domain, kubeNamespace⟩ := tracks_deploymentFields
  refine ⟨config, read, ?_⟩
  exact {
    base := setting_eq tracks_layout base layout settings read
    genDir := setting_eq tracks_layout genDir layout settings read
    methodsDir := setting_eq tracks_layout methodsDir layout settings read
    domain := setting_eq tracks_deploy domain deploy settings read
    kubeNamespace := setting_eq tracks_deploy kubeNamespace deploy settings read }

end

end MethodForge.Config

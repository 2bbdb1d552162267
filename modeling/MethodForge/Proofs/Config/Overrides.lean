/-
Module: MethodForge.Proofs.Config.Overrides
Purpose: Where the parts of a toolchain are. Each part stands where it is set, byte for byte, and else
  in its usual place below the root; what is set for one part does not matter to another. A toolchain
  can be had unless some path that is looked at is no text, and then the first of these is reported.
  A run takes itself for the plugin when none is set, and has all other parts from the settings.
Main exports: NativePath.IsText, NativePath.text?_eq_some_iff, Toolchain.Part,
  Toolchain.Part.override?, Toolchain.Part.StandsAt, ToolchainPaths.usedRoot?,
  ToolchainPaths.FirstFault, resolve_eq_ok_iff, resolve_eq_error_iff, RunsFrom,
  toolchain_from_settings
-/
import MethodForge.Config.Load
import MethodForge.Proofs.Path.Join
import MethodForge.Proofs.Text.Utf8

namespace MethodForge

open Host (Environment NativePath)

/-! ### Paths that are texts -/

namespace Host.NativePath

/-- Whether a path is a text: its bytes are those of some text. -/
def IsText (path : NativePath) : Prop :=
  ∃ text, path = .ofText text

theorem text?_eq_some_iff (path : NativePath) (text : String) :
    path.text? = some text ↔ path = .ofText text := by
  obtain ⟨bytes⟩ := path
  rw [ofText, NativePath.mk.injEq, ← Text.Utf8.decode_eq_ok_iff, text?]
  cases Text.Utf8.decode bytes <;> simp [Except.toOption]

theorem text?_eq_none_iff (path : NativePath) : path.text? = none ↔ ¬ path.IsText := by
  simp [IsText, ← text?_eq_some_iff, Option.eq_none_iff_forall_ne_some]

end Host.NativePath

/-! ### The parts of a toolchain -/

namespace Toolchain

/-- The parts of a toolchain. -/
inductive Part where
  | protoc
  | protocInclude
  | optionsInclude
  | plugin
  | goPlugin
deriving Repr, DecidableEq

namespace Part

/-- All parts, in the order in which they are looked at. -/
def all : List Part :=
  [.protoc, .protocInclude, .optionsInclude, .plugin, .goPlugin]

/-- Where a toolchain has a part. -/
def location (toolchain : Toolchain) : Part → String
  | .protoc => toolchain.protoc
  | .protocInclude => toolchain.protocInclude
  | .optionsInclude => toolchain.optionsInclude
  | .plugin => toolchain.plugin
  | .goPlugin => toolchain.goPlugin

/-- Where a part usually is, seen from the root. -/
def usual : Part → String
  | .protoc => "protoc-3.7.0/bin/protoc"
  | .protocInclude => "protoc-3.7.0/include"
  | .optionsInclude => "include"
  | .plugin => "bin/korpc"
  | .goPlugin => "bin/protoc-gen-go"

/-- What is set for a part. -/
def override? (paths : Config.ToolchainPaths) : Part → Option NativePath
  | .protoc => paths.protoc?
  | .protocInclude => paths.protocInclude?
  | .optionsInclude => paths.optionsInclude?
  | .plugin => paths.plugin?
  | .goPlugin => paths.goPlugin?

/-- Where a part stands below a root: where it is set, or else in the usual place. -/
inductive StandsAt (paths : Config.ToolchainPaths) (root : String) (part : Part) : String → Prop where
  | override {location : String} (set : part.override? paths = some (.ofText location)) :
      StandsAt paths root part location
  | usual (unset : part.override? paths = none) :
      StandsAt paths root part (Path.join [root, part.usual])

/-- What is set for a part is where it stands. -/
theorem StandsAt.eq_of_set {paths : Config.ToolchainPaths} {root location : String} {part : Part}
    {path : NativePath} (stands : StandsAt paths root part location)
    (set : part.override? paths = some path) : path = .ofText location := by
  cases stands with
  | override same => exact Option.some.inj (set.symm.trans same)
  | usual unset => cases set.symm.trans unset

theorem mem_all (part : Part) : part ∈ all := by
  cases part <;> decide

theorem ext_location {first second : Toolchain}
    (same : ∀ part : Part, part.location first = part.location second) : first = second := by
  obtain ⟨_, _, _, _, _⟩ := first
  obtain ⟨_, _, _, _, _⟩ := second
  rw [Toolchain.mk.injEq]
  exact ⟨same .protoc, same .protocInclude, same .optionsInclude, same .plugin, same .goPlugin⟩

end Part

/-- A place below a root may be spelled out before it is joined to the root. -/
theorem join_place {elements : List String} {place : String} (spelled : Path.join elements = place)
    (relative : Path.startsAtRoot elements = false) (root : String) :
    Path.join (root :: elements) = Path.join [root, place] := by
  have regrouped := Path.join_regroup [root] elements [] fun rooted => by
    rw [relative] at rooted
    cases rooted
  simpa [spelled] using regrouped.symm

/-- The usual toolchain has each part in its place below the root. -/
theorem location_ofRoot (root : String) (part : Part) :
    part.location (ofRoot root) = Path.join [root, part.usual] := by
  cases part with
  | protoc =>
      have spelled : Path.join ["protoc-" ++ compilerVersion, "bin", "protoc"] = Part.protoc.usual := by
        decide
      exact (Path.join_join [root, _] ["bin", "protoc"]).trans (join_place spelled (by decide) root)
  | protocInclude =>
      have spelled : Path.join ["protoc-" ++ compilerVersion, "include"] = Part.protocInclude.usual := by
        decide
      exact (Path.join_join [root, _] ["include"]).trans (join_place spelled (by decide) root)
  | optionsInclude => rfl
  | plugin =>
      have spelled : Path.join ["bin", "korpc"] = Part.plugin.usual := by decide
      exact join_place spelled (by decide) root
  | goPlugin =>
      have spelled : Path.join ["bin", "protoc-gen-go"] = Part.goPlugin.usual := by decide
      exact join_place spelled (by decide) root

end Toolchain

/-! ### Looking at the settings -/

namespace Config

open Toolchain (Part)

namespace ToolchainPaths

variable {paths : ToolchainPaths} {environment : Environment} {root : String} {error : ConfigError}

/-- The root that is used: the one that is set, or else the usual one in the home directory. -/
def usedRoot? (paths : ToolchainPaths) (environment : Environment) : Option NativePath :=
  paths.root?.or (environment.homeDirectory?.map fun home => home.join (.ofText ".korpc"))

/-- What is wrong first, in the order root, compiler, its includes, the includes of the options, the
plugin, and the plugin for Go. -/
inductive FirstFault (paths : ToolchainPaths) (environment : Environment) : ConfigError → Prop where
  | noRoot (none : paths.usedRoot? environment = none) :
      FirstFault paths environment .homeDirectoryUnavailable
  | root {path : NativePath} (used : paths.usedRoot? environment = some path)
      (notText : ¬ path.IsText) : FirstFault paths environment (.notUtf8 path)
  | part {root path : NativePath} {before after : List Part} {part : Part}
      (used : paths.usedRoot? environment = some root) (rootText : root.IsText)
      (order : Part.all = before ++ part :: after)
      (earlier : ∀ other ∈ before, ∀ path, other.override? paths = some path → path.IsText)
      (set : part.override? paths = some path) (notText : ¬ path.IsText) :
      FirstFault paths environment (.notUtf8 path)

/-- The text of where a part is below a root. -/
def located (paths : ToolchainPaths) (root : String) (part : Part) : Except ConfigError String :=
  overridden (part.override? paths) (Path.join [root, part.usual])

/-- The toolchain below a root. -/
def resolveBelow (paths : ToolchainPaths) (root : String) : Except ConfigError Toolchain := do
  let protoc ← located paths root .protoc
  let protocInclude ← located paths root .protocInclude
  let optionsInclude ← located paths root .optionsInclude
  let plugin ← located paths root .plugin
  let goPlugin ← located paths root .goPlugin
  return { protoc, protocInclude, optionsInclude, plugin, goPlugin }

theorem resolve_eq (paths : ToolchainPaths) (environment : Environment) :
    paths.resolve environment =
      (do resolveBelow paths (← textOf (← paths.rootDirectory environment))) := by
  simp only [resolve, resolveBelow, located, ← Toolchain.location_ofRoot, Part.location, Part.override?]

/-- A toolchain is put together from the locations of all its parts. -/
theorem map_location_resolveBelow (paths : ToolchainPaths) (root : String) :
    (fun toolchain => Part.all.map fun part => part.location toolchain) <$>
        resolveBelow paths root =
      Part.all.mapM (located paths root) := by
  simp [resolveBelow, Part.all, Part.location]

/-! ### What can go wrong -/

theorem textOf_eq_ok_iff (path : NativePath) (text : String) :
    textOf path = .ok text ↔ path = .ofText text := by
  rw [← NativePath.text?_eq_some_iff, textOf]
  cases path.text? <;> simp

theorem textOf_eq_error_iff (path : NativePath) :
    textOf path = .error error ↔ ¬ path.IsText ∧ error = .notUtf8 path := by
  rw [← NativePath.text?_eq_none_iff, textOf]
  cases path.text? <;> simp [eq_comm]

theorem rootDirectory_eq_ok_iff (path : NativePath) :
    paths.rootDirectory environment = .ok path ↔ paths.usedRoot? environment = some path := by
  unfold rootDirectory usedRoot?
  cases paths.root? <;> cases environment.homeDirectory? <;> simp

theorem rootDirectory_eq_error_iff :
    paths.rootDirectory environment = .error error ↔
      paths.usedRoot? environment = none ∧ error = .homeDirectoryUnavailable := by
  unfold rootDirectory usedRoot?
  cases paths.root? <;> cases environment.homeDirectory? <;> simp [eq_comm]

theorem located_eq_ok_iff (part : Part) (location : String) :
    located paths root part = .ok location ↔ part.StandsAt paths root location := by
  unfold located overridden
  cases set : part.override? paths with
  | none =>
      constructor
      · intro found
        cases found
        exact .usual set
      · intro stands
        cases stands with
        | override other => cases set.symm.trans other
        | usual => rfl
  | some path =>
      rw [textOf_eq_ok_iff]
      constructor
      · rintro rfl
        exact .override set
      · intro stands
        exact stands.eq_of_set set

theorem located_eq_error_iff (part : Part) :
    located paths root part = .error error ↔
      ∃ path, part.override? paths = some path ∧ ¬ path.IsText ∧ error = .notUtf8 path := by
  unfold located overridden
  cases part.override? paths <;> simp [textOf_eq_error_iff]

/-- A part can be found where what is set for it is a text. -/
theorem exists_located_iff (part : Part) :
    (∃ location, located paths root part = .ok location) ↔
      ∀ path, part.override? paths = some path → path.IsText := by
  cases found : located paths root part with
  | ok location =>
      have stands := (located_eq_ok_iff part location).1 found
      exact iff_of_true ⟨location, rfl⟩ fun path set => ⟨location, stands.eq_of_set set⟩
  | error cause =>
      obtain ⟨path, set, notText, -⟩ := (located_eq_error_iff part).1 found
      exact iff_of_false (by simp) fun all => notText (all path set)

theorem resolveBelow_eq_ok_iff (toolchain : Toolchain) :
    resolveBelow paths root = .ok toolchain ↔
      ∀ part : Part, part.StandsAt paths root (part.location toolchain) := by
  have listed : resolveBelow paths root = .ok toolchain ↔
      Part.all.mapM (located paths root) = .ok (Part.all.map fun part => part.location toolchain) := by
    rw [← map_location_resolveBelow, Fallible.map_eq_ok_iff]
    constructor
    · intro found
      exact ⟨toolchain, found, rfl⟩
    · rintro ⟨other, found, same⟩
      have equal : other = toolchain :=
        Part.ext_location fun part => List.map_inj_left.1 same part part.mem_all
      rw [found, equal]
  rw [listed, Fallible.mapM_eq_ok_map_iff]
  simp only [located_eq_ok_iff]
  exact ⟨fun all part => all part part.mem_all, fun all part _ => all part⟩

theorem resolveBelow_eq_error_iff :
    resolveBelow paths root = .error error ↔
      ∃ before part after, Part.all = before ++ part :: after ∧
        (∀ other ∈ before, ∀ path, other.override? paths = some path → path.IsText) ∧
          ∃ path, part.override? paths = some path ∧ ¬ path.IsText ∧ error = .notUtf8 path := by
  rw [← Fallible.map_eq_error_iff, map_location_resolveBelow, Fallible.mapM_eq_error_iff]
  simp only [exists_located_iff, located_eq_error_iff]

/-- A toolchain is found where its root is a text and each part stands where it is set or usual. -/
theorem resolve_eq_ok_iff (toolchain : Toolchain) :
    paths.resolve environment = .ok toolchain ↔
      ∃ root, paths.usedRoot? environment = some (.ofText root) ∧
        ∀ part : Part, part.StandsAt paths root (part.location toolchain) := by
  simp only [resolve_eq, Fallible.bind_eq_ok_iff, rootDirectory_eq_ok_iff, textOf_eq_ok_iff,
    resolveBelow_eq_ok_iff]
  constructor
  · rintro ⟨_, used, root, rfl, stands⟩
    exact ⟨root, used, stands⟩
  · rintro ⟨root, used, stands⟩
    exact ⟨_, used, root, rfl, stands⟩

/-- The error names what is wrong first. -/
theorem resolve_eq_error_iff :
    paths.resolve environment = .error error ↔ FirstFault paths environment error := by
  simp only [resolve_eq, Fallible.bind_eq_error_iff, rootDirectory_eq_error_iff,
    rootDirectory_eq_ok_iff, textOf_eq_error_iff, textOf_eq_ok_iff, resolveBelow_eq_error_iff]
  constructor
  · rintro (⟨none, rfl⟩ | ⟨path, used, ⟨notText, rfl⟩ | ⟨root, isText, below⟩⟩)
    · exact .noRoot none
    · exact .root used notText
    · obtain ⟨before, part, after, order, earlier, path, set, notText, rfl⟩ := below
      exact .part used ⟨root, isText⟩ order earlier set notText
  · rintro (none | ⟨used, notText⟩ | ⟨used, ⟨root, isText⟩, order, earlier, set, notText⟩)
    · exact .inl ⟨none, rfl⟩
    · exact .inr ⟨_, used, .inl ⟨notText, rfl⟩⟩
    · exact .inr ⟨_, used, .inr ⟨root, isText, _, _, _, order, earlier, _, set, notText, rfl⟩⟩

/-- A toolchain is not found if the root is missing or no text, or something that is set is no text. -/
theorem exists_resolve_eq_error_iff :
    (∃ error, paths.resolve environment = .error error) ↔
      paths.usedRoot? environment = none ∨
        (∃ root, paths.usedRoot? environment = some root ∧ ¬ root.IsText) ∨
          ∃ part path, Part.override? paths part = some path ∧ ¬ path.IsText := by
  constructor
  · rintro ⟨error, failed⟩
    cases resolve_eq_error_iff.1 failed with
    | noRoot none => exact .inl none
    | root used notText => exact .inr (.inl ⟨_, used, notText⟩)
    | part _ _ _ _ set notText => exact .inr (.inr ⟨_, _, set, notText⟩)
  · intro unusable
    cases found : paths.resolve environment with
    | error error => exact ⟨error, rfl⟩
    | ok toolchain =>
        obtain ⟨root, used, stands⟩ := (resolve_eq_ok_iff toolchain).1 found
        rcases unusable with none | ⟨path, other, notText⟩ | ⟨part, path, set, notText⟩
        · cases used.symm.trans none
        · cases used.symm.trans other
          exact absurd ⟨root, rfl⟩ notText
        · exact absurd ⟨_, (stands part).eq_of_set set⟩ notText

end ToolchainPaths

/-! ### The toolchain of a run -/

/-- What the toolchain of a run has from the one that is configured: all but the plugin, which is the
running program if none is set and its path is a text, and otherwise the configured one too. -/
structure RunsFrom (paths : ToolchainPaths) (environment : Environment)
    (configured used : Toolchain) : Prop where
  others : ∀ part : Part, part ≠ .plugin → part.location used = part.location configured
  running : paths.plugin? = none → ∀ text, environment.executable? = some (.ofText text) →
    used.plugin = text
  kept : (paths.plugin? ≠ none ∨ ∀ text, environment.executable? ≠ some (.ofText text)) →
    used.plugin = configured.plugin

section

variable {paths : ToolchainPaths} {environment : Environment} {configured used other : Toolchain}

theorem RunsFrom.of_set (set : paths.plugin? ≠ none) (environment : Environment)
    (configured : Toolchain) : RunsFrom paths environment configured configured where
  others _ _ := rfl
  running unset := absurd unset set
  kept _ := rfl

theorem RunsFrom.withExecutable (unset : paths.plugin? = none) (environment : Environment)
    (configured : Toolchain) :
    RunsFrom paths environment configured (withExecutable environment configured) := by
  unfold Config.withExecutable
  cases found : environment.executable?.bind NativePath.text? with
  | none =>
      have noText : ∀ text, environment.executable? ≠ some (.ofText text) := by
        intro text run
        have isText := (NativePath.text?_eq_some_iff (.ofText text) text).2 rfl
        rw [run, Option.bind_some, isText] at found
        cases found
      exact {
        others _ _ := rfl
        running _ text run := absurd run (noText text)
        kept _ := rfl }
  | some plugin =>
      obtain ⟨path, run, isText⟩ := Option.bind_eq_some_iff.1 found
      rw [NativePath.text?_eq_some_iff] at isText
      subst isText
      constructor
      · intro part notPlugin
        cases part with
        | plugin => exact absurd rfl notPlugin
        | _ => rfl
      · intro _ text same
        rw [run, Option.some.injEq, ← NativePath.text?_eq_some_iff] at same
        have own := (NativePath.text?_eq_some_iff (.ofText plugin) plugin).2 rfl
        exact Option.some.inj (own.symm.trans same)
      · rintro (set | noText)
        · exact absurd unset set
        · exact absurd run (noText plugin)

/-- The settings and what a run finds around it leave no choice for its toolchain. -/
theorem RunsFrom.unique (one : RunsFrom paths environment configured used)
    (another : RunsFrom paths environment configured other) : used = other := by
  have plugin : used.plugin = other.plugin := by
    by_cases fixed : paths.plugin? ≠ none ∨ ∀ text, environment.executable? ≠ some (.ofText text)
    · rw [one.kept fixed, another.kept fixed]
    · obtain ⟨unset, text, run⟩ : paths.plugin? = none ∧
          ∃ text, environment.executable? = some (.ofText text) := by simpa using fixed
      rw [one.running unset text run, another.running unset text run]
  refine Part.ext_location fun part => ?_
  by_cases isPlugin : part = .plugin
  · rw [isPlugin]
    exact plugin
  · rw [one.others part isPlugin, another.others part isPlugin]

end

section

variable {config : Config} {environment : Environment}

theorem resolveToolchain_eq_error_iff {error : ConfigError} :
    resolveToolchain config environment = .error error ↔
      config.toolchain.resolve environment = .error error := by
  rw [resolveToolchain, Fallible.bind_eq_error_iff]
  refine or_iff_left ?_
  rintro ⟨toolchain, -, failed⟩
  split at failed <;> cases failed

theorem resolveToolchain_eq_ok_iff {used : Toolchain} :
    resolveToolchain config environment = .ok used ↔
      ∃ configured, config.toolchain.resolve environment = .ok configured ∧
        RunsFrom config.toolchain environment configured used := by
  rw [resolveToolchain, Fallible.bind_eq_ok_iff]
  refine exists_congr fun configured => and_congr_right fun _ => ?_
  by_cases unset : config.toolchain.plugin? = none
  · have runs := RunsFrom.withExecutable unset environment configured
    rw [unset, Option.isNone_none, if_pos rfl]
    refine ⟨fun same => ?_, fun other => congrArg Except.ok (runs.unique other)⟩
    cases same
    exact runs
  · have runs := RunsFrom.of_set unset environment configured
    rw [if_neg (by simpa using unset)]
    refine ⟨fun same => ?_, fun other => congrArg Except.ok (runs.unique other)⟩
    cases same
    exact runs

end

/-- A toolchain fails to be found exactly when its root is missing or no text or something that is set
is no text, and the error names the first such path. Otherwise each part stands where it is set, and
else in its usual place below the root, whatever is set for the others. A run has the same toolchain,
with itself for the plugin if none is set. -/
theorem toolchain_from_settings (config : Config) (environment : Environment) :
    ((∃ error, config.toolchain.resolve environment = .error error) ↔
        config.toolchain.usedRoot? environment = none ∨
          (∃ root, config.toolchain.usedRoot? environment = some root ∧ ¬ root.IsText) ∨
            ∃ part path, Part.override? config.toolchain part = some path ∧ ¬ path.IsText) ∧
      (∀ error, config.toolchain.resolve environment = .error error ↔
        ToolchainPaths.FirstFault config.toolchain environment error) ∧
      (∀ toolchain, config.toolchain.resolve environment = .ok toolchain ↔
        ∃ root, config.toolchain.usedRoot? environment = some (.ofText root) ∧
          ∀ part, Part.StandsAt config.toolchain root part (part.location toolchain)) ∧
      (∀ error, resolveToolchain config environment = .error error ↔
        config.toolchain.resolve environment = .error error) ∧
      ∀ used, resolveToolchain config environment = .ok used ↔
        ∃ configured, config.toolchain.resolve environment = .ok configured ∧
          RunsFrom config.toolchain environment configured used :=
  ⟨ToolchainPaths.exists_resolve_eq_error_iff, fun _ => ToolchainPaths.resolve_eq_error_iff,
    fun toolchain => ToolchainPaths.resolve_eq_ok_iff toolchain,
    fun _ => resolveToolchain_eq_error_iff, fun _ => resolveToolchain_eq_ok_iff⟩

/-- Of two settings that are no text, the one that is looked at first is reported. -/
example :
    ToolchainPaths.resolve
        { root? := some (.ofText "/opt/korpc"), protocInclude? := some ⟨[0xC3]⟩,
          goPlugin? := some ⟨[0xFF]⟩ } {} =
      .error (.notUtf8 ⟨[0xC3]⟩) := by
  rfl

end Config

end MethodForge

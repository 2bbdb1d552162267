/-
Module: MethodForge.Config.Basic
Purpose: The configuration of a run: the layout of the repository, where to deploy, where the
  toolchain is, and what is logged. Everything has a default, so that a file may set any part of it.
  A section is read from a table, in which keys that it does not know are passed over, or from an
  array, which gives its values in their order.
Main exports: Config, ConfigError, Config.ofDocument, Config.layoutParameters
-/
import MethodForge.Host.Environment
import MethodForge.Parameters.Basic
import MethodForge.Toml.Reader

namespace MethodForge

open Host (Environment NativePath)
open Toml (Entries Value)

namespace Config

/-- Where generated code and implementations are. -/
structure Layout where
  base : String := ""
  genDir : String := "./gen"
  methodsDir : String := "./pkg/methods"
deriving Repr, DecidableEq, Inhabited

/-- Where methods are deployed. -/
structure Deployment where
  domain : String := ""
  kubeNamespace : String := "default"
deriving Repr, DecidableEq, Inhabited

/-- Where the toolchain is. What is not set is in its usual place below the root. -/
structure ToolchainPaths where
  root? : Option NativePath := none
  protoc? : Option NativePath := none
  protocInclude? : Option NativePath := none
  optionsInclude? : Option NativePath := none
  plugin? : Option NativePath := none
  goPlugin? : Option NativePath := none
deriving Repr, DecidableEq, Inhabited

/-- What is logged. -/
structure Logging where
  level : String := "info"
deriving Repr, DecidableEq, Inhabited

end Config

/-- The configuration of a run. -/
structure Config where
  layout : Config.Layout := {}
  deploy : Config.Deployment := {}
  toolchain : Config.ToolchainPaths := {}
  logging : Config.Logging := {}
deriving Repr, DecidableEq, Inhabited

/-- Why there is no configuration, or none that can be used. -/
inductive ConfigError where
  | fileRead (reason : String)
  | parse
  | notFound (path : NativePath)
  | configDirectoryUnavailable
  | homeDirectoryUnavailable
  | notUtf8 (path : NativePath)
deriving Repr, DecidableEq

/-- The message of an error. -/
def ConfigError.message : ConfigError → String
  | .fileRead reason => "Failed to read config file: " ++ reason
  | .parse => "Failed to parse config file: not a valid configuration"
  | .notFound path => "Config file not found at: " ++ path.display
  | .configDirectoryUnavailable => "Could not find user config directory"
  | .homeDirectoryUnavailable => "Could not find home directory; set toolchain.root"
  | .notUtf8 path => "Path is not valid UTF-8: " ++ path.display

namespace Config

/-- A key of a section, and how its value changes what has been read so far. -/
structure Field (Section : Type) where
  key : String
  read : Section → Value → Option Section

/-- A key whose value is a text. -/
def Field.text {Section : Type} (key : String) (set : Section → String → Section) :
    Field Section where
  key := key
  read := fun current value =>
    match value with
    | .text text => some (set current text)
    | _ => none

/-- Reads one entry of a table. The value of a key that is not known only has to be one that can be
represented. -/
def readEntry {Section : Type} (fields : List (Field Section)) (current : Section)
    (entry : String × Value) : Option Section :=
  match fields.find? (·.key == entry.1) with
  | some field => field.read current entry.2
  | none => if entry.2.isRepresentable then some current else none

/-- Reads values in the order of the keys. Keys without a value keep their default, and values
without a key are not looked at. -/
def readInOrder {Section : Type} (fields : List (Field Section)) (start : Section)
    (values : List Value) : Option Section :=
  (fields.zip values).foldlM (fun current (field, value) => field.read current value) start

/-- Reads a section. A date counts as a table in which no key is known. -/
def readSection {Section : Type} (fields : List (Field Section)) (start : Section) :
    Value → Option Section
  | .table _ entries => entries.foldlM (readEntry fields) start
  | .array values => readInOrder fields start values
  | .tables elements => readInOrder fields start (elements.map (.table .header))
  | .dateTime => some start
  | _ => none

/-- The keys of the layout. -/
def layoutFields : List (Field Layout) :=
  [ .text "base" fun layout base => { layout with base },
    .text "gen_dir" fun layout genDir => { layout with genDir },
    .text "methods_dir" fun layout methodsDir => { layout with methodsDir } ]

/-- The keys of the deployment. -/
def deploymentFields : List (Field Deployment) :=
  [ .text "domain" fun deploy domain => { deploy with domain },
    .text "namespace" fun deploy kubeNamespace => { deploy with kubeNamespace } ]

/-- The keys of the toolchain. -/
def toolchainFields : List (Field ToolchainPaths) :=
  [ .text "root" fun paths path => { paths with root? := some (.ofText path) },
    .text "protoc" fun paths path => { paths with protoc? := some (.ofText path) },
    .text "protoc_include" fun paths path => { paths with protocInclude? := some (.ofText path) },
    .text "korpc_include" fun paths path => { paths with optionsInclude? := some (.ofText path) },
    .text "plugin" fun paths path => { paths with plugin? := some (.ofText path) },
    .text "protoc_gen_go" fun paths path => { paths with goPlugin? := some (.ofText path) } ]

/-- The keys of the log. -/
def loggingFields : List (Field Logging) :=
  [.text "level" fun _ level => { level }]

/-- The sections of a configuration. -/
def sections : List (Field Config) :=
  [ ⟨"layout", fun config value =>
      (readSection layoutFields {} value).map fun layout => { config with layout }⟩,
    ⟨"deploy", fun config value =>
      (readSection deploymentFields {} value).map fun deploy => { config with deploy }⟩,
    ⟨"toolchain", fun config value =>
      (readSection toolchainFields {} value).map fun toolchain => { config with toolchain }⟩,
    ⟨"logging", fun config value =>
      (readSection loggingFields {} value).map fun logging => { config with logging }⟩ ]

/-- The configuration that a document sets. -/
def ofDocument (document : Entries) : Option Config :=
  document.foldlM (readEntry sections) {}

/-- The configuration that a text sets. -/
def ofText (text : String) : Except ConfigError Config :=
  match (Toml.read text).bind ofDocument with
  | some config => .ok config
  | none => .error .parse

/-- The record with the layout and the deployment of a configuration. -/
def layoutParameters (config : Config) : Parameters :=
  { base := config.layout.base
    genDir := config.layout.genDir
    methodsDir := config.layout.methodsDir
    domain := config.deploy.domain
    kubeNamespace := config.deploy.kubeNamespace }

end Config

end MethodForge

/-
Module: MethodForge.Config.Load
Purpose: Where a configuration comes from and what it comes to. A file that is named has to be there;
  the usual file may be missing, and then the defaults hold. The toolchain is the usual layout below
  a root, in which each place can be set on its own.
Main exports: Config.defaultPath, Config.load, ToolchainPaths.resolve, Config.resolveToolchain
-/
import MethodForge.Config.Basic
import MethodForge.Toolchain

namespace MethodForge

open Host (Environment FileState NativePath)

namespace Config

/-- The configuration in a file. -/
def ofFile (path : NativePath) : FileState → Except ConfigError Config
  | .missing => .error (.notFound path)
  | .unreadable reason => .error (.fileRead reason)
  | .content bytes =>
      match Text.Utf8.decode bytes with
      | .error _ => .error (.fileRead "stream did not contain valid UTF-8")
      | .ok text => ofText text

/-- The path of the usual file. -/
def defaultPath (environment : Environment) : Except ConfigError NativePath :=
  match environment.configDirectory? with
  | some directory => .ok ((directory.join (.ofText "korpc")).join (.ofText "config.toml"))
  | none => .error .configDirectoryUnavailable

/-- The configuration of a run: that of the file that is named, or of the usual one if it is there.
`look` finds out what there is at a path. -/
def load {m : Type → Type} [Monad m] (environment : Environment) (look : NativePath → m FileState)
    (explicit? : Option NativePath) : m (Except ConfigError Config) :=
  match explicit? with
  | some path => return ofFile path (← look path)
  | none =>
      match defaultPath environment with
      | .error error => return .error error
      | .ok path => do
          match ← look path with
          | .missing => return .ok {}
          | state => return ofFile path state

namespace ToolchainPaths

/-- The root of the toolchain: the one set, or the usual one in the home directory. -/
def rootDirectory (paths : ToolchainPaths) (environment : Environment) :
    Except ConfigError NativePath :=
  match paths.root?, environment.homeDirectory? with
  | some root, _ => .ok root
  | none, some home => .ok (home.join (.ofText ".korpc"))
  | none, none => .error .homeDirectoryUnavailable

/-- The text of a path. -/
def textOf (path : NativePath) : Except ConfigError String :=
  match path.text? with
  | some text => .ok text
  | none => .error (.notUtf8 path)

/-- The text of a place that may be set. -/
def overridden (path? : Option NativePath) (usual : String) : Except ConfigError String :=
  match path? with
  | some path => textOf path
  | none => .ok usual

/-- The toolchain with each place as it is set, or in the usual place below the root. -/
def resolve (paths : ToolchainPaths) (environment : Environment) :
    Except ConfigError Toolchain := do
  let usual := Toolchain.ofRoot (← textOf (← paths.rootDirectory environment))
  let protoc ← overridden paths.protoc? usual.protoc
  let protocInclude ← overridden paths.protocInclude? usual.protocInclude
  let optionsInclude ← overridden paths.optionsInclude? usual.optionsInclude
  let plugin ← overridden paths.plugin? usual.plugin
  let goPlugin ← overridden paths.goPlugin? usual.goPlugin
  return { protoc, protocInclude, optionsInclude, plugin, goPlugin }

end ToolchainPaths

/-- The toolchain with the running program as its plugin, if the path of that program is a text. -/
def withExecutable (environment : Environment) (toolchain : Toolchain) : Toolchain :=
  match environment.executable?.bind NativePath.text? with
  | some plugin => { toolchain with plugin }
  | none => toolchain

/-- The toolchain of a run, whose plugin is the running program unless one is set. -/
def resolveToolchain (config : Config) (environment : Environment) :
    Except ConfigError Toolchain := do
  let toolchain ← config.toolchain.resolve environment
  if config.toolchain.plugin?.isNone then return withExecutable environment toolchain
  else return toolchain

end Config

end MethodForge

/-
Module: MethodForge.PluginRun
Purpose: A run as a plugin under a configuration. The compiler only shows what is in the answer, so a
  configuration that cannot be read gives way to the defaults, and a toolchain that cannot be found
  to one below the current directory; both are noted.
Main exports: pluginConfig, pluginToolchain, runPlugin
-/
import MethodForge.Config.Load
import MethodForge.Protocol

namespace MethodForge

open Host (Environment)
open Log (Event Logged)

/-- The root of the toolchain when no other is known. -/
def fallbackRoot : String := ".korpc"

/-- The configuration of a plugin: the defaults when there is none that can be read. -/
def pluginConfig : Except ConfigError Config → Logged Config
  | .ok config => return config
  | .error error => do
      Logged.tell (.note .warn .pluginRun
        s!"{error.message}; continuing with the default configuration")
      return {}

/-- The toolchain of a plugin: one below the current directory when it cannot be found. Only
directives mention it. -/
def pluginToolchain (config : Config) (environment : Environment) : Logged Toolchain :=
  match config.resolveToolchain environment with
  | .ok toolchain => return toolchain
  | .error error => do
      Logged.tell (.note .warn .pluginRun
        s!"{error.message}; using the toolchain under {fallbackRoot}")
      return Config.withExecutable environment (.ofRoot fallbackRoot)

/-- Serves one request. -/
def runPlugin (config : Config) (environment : Environment) (source : Source) (sink : Sink) :
    Logged Outcome := do
  let toolchain ← pluginToolchain config environment
  let registry ← Registry.builtin toolchain
  serve registry source sink

end MethodForge

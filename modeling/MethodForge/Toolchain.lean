/-
Module: MethodForge.Toolchain
Purpose: The programs that a generation runs and the directories that they read, and the command lines
  made of them. A command names three include directories, the last one the root of the repository
  as seen from where the command runs, and then a plugin with its output directory.
Main exports: Toolchain, Toolchain.ofRoot, Command, Command.text, Toolchain.forgeCommand,
  Toolchain.goCommand
-/
import MethodForge.Parameters.Codec

namespace MethodForge

/-- The release of the protobuf compiler that a toolchain holds. -/
def compilerVersion : String := "3.7.0"

/-- Where the programs and the directories are. -/
structure Toolchain where
  /-- The protobuf compiler. -/
  protoc : String
  /-- The directory of the files that come with the compiler. -/
  protocInclude : String
  /-- The directory of the file that declares the deployment options. -/
  optionsInclude : String
  /-- The plugin that runs the generators. -/
  plugin : String
  /-- The plugin that writes messages and services in Go. -/
  goPlugin : String
deriving Repr, DecidableEq, Inhabited

/-- A program and its arguments. -/
structure Command where
  program : String
  arguments : List String
deriving Repr, DecidableEq, Inhabited

/-- A command on one line. Nothing is quoted. -/
def Command.text (command : Command) : String :=
  " ".intercalate (command.program :: command.arguments)

namespace Toolchain

/-- The usual places below a root. -/
def ofRoot (root : String) : Toolchain :=
  let compiler := Path.join [root, "protoc-" ++ compilerVersion]
  { protoc := Path.join [compiler, "bin", "protoc"]
    protocInclude := Path.join [compiler, "include"]
    optionsInclude := Path.join [root, "include"]
    plugin := Path.join [root, "bin", "korpc"]
    goPlugin := Path.join [root, "bin", "protoc-gen-go"] }

/-- What a command starts with: the include directories and the plugin under the name of the run. -/
def commonArguments (toolchain : Toolchain) (out : String) (parameters : Parameters)
    (plugin : String) : List String :=
  [ "-I" ++ toolchain.protocInclude,
    "-I" ++ toolchain.optionsInclude,
    "-I" ++ Path.toRoot out parameters.nestedDirectory,
    "--plugin=protoc-gen-" ++ parameters.name ++ "=" ++ plugin ]

/-- Runs the generator that the record names. `out` is the output directory from where the command
runs. -/
def forgeCommand (toolchain : Toolchain) (out : String) (parameters : Parameters)
    (protos : List String) : Command where
  program := toolchain.protoc
  arguments :=
    toolchain.commonArguments out parameters toolchain.plugin ++
      [ "--" ++ parameters.name ++ "_out=" ++ out,
        "--" ++ parameters.name ++ "_opt=" ++ parameters.encode ] ++
      protos

/-- Runs the plugin that writes messages and services in Go. -/
def goCommand (toolchain : Toolchain) (out : String) (parameters : Parameters)
    (protos : List String) : Command where
  program := toolchain.protoc
  arguments :=
    toolchain.commonArguments out parameters toolchain.goPlugin ++
      ["--" ++ parameters.name ++ "_out=plugins=grpc:" ++ out] ++
      protos

end Toolchain

end MethodForge

/-
Module: MethodForge.Host.Environment
Purpose: What a run finds around it: the home of the user, where the user keeps configuration, and the
  program itself. Also what looking for a file can come to.
Main exports: Environment, Environment.homeDirectory?, Environment.configDirectory?, FileState
-/
import MethodForge.Host.NativePath

namespace MethodForge.Host

/-- What a run finds around it. -/
structure Environment where
  /-- The home directory that the user has set. -/
  home? : Option NativePath := none
  /-- The home directory of the user's account. -/
  accountHome? : Option NativePath := none
  /-- The directory for configuration that the user has set. -/
  configHome? : Option NativePath := none
  /-- The program that is running. -/
  executable? : Option NativePath := none
  /-- The log filter that the user has set. -/
  logFilter? : Option Text.Bytes := none
deriving Repr, DecidableEq, Inhabited

namespace Environment

/-- The home directory: the one set, unless it is empty, else that of the account. -/
def homeDirectory? (environment : Environment) : Option NativePath :=
  environment.home?.filter (fun path => !path.bytes.isEmpty) <|> environment.accountHome?

/-- The directory for configuration: the one set, if it is absolute, else the usual one below the
home directory. -/
def configDirectory? (environment : Environment) : Option NativePath :=
  environment.configHome?.filter NativePath.isAbsolute <|>
    environment.homeDirectory?.map (·.join (.ofText ".config"))

end Environment

/-- What looking for a file comes to. -/
inductive FileState where
  | missing
  /-- There is something that cannot be read. -/
  | unreadable (reason : String)
  | content (bytes : Text.Bytes)
deriving Repr, DecidableEq, Inhabited

end MethodForge.Host

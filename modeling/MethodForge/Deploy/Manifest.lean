/-
Module: MethodForge.Deploy.Manifest
Purpose: The manifest that deploys one method as a Knative service. What the deployment options leave
  at zero or empty is left out, so that the platform's own defaults hold. Values that a user may
  write freely are quoted; names and keys stand as they are.
Main exports: Manifest, Manifest.lines
-/
import MethodForge.JsonText.StringLiteral
import MethodForge.Schema.Basic
import MethodForge.Text.Lines

namespace MethodForge.Deploy

open Schema (DeployOptions EnvironmentVariable Resources)

/-- The port on which a container listens. -/
def containerPort : Nat := 8080

/-- What a manifest is written from. -/
structure Manifest where
  /-- The name of the service. -/
  name : String
  kubeNamespace : String
  /-- The path of the image. -/
  image : String
  /-- The program in the image, which also runs the probes. -/
  binary : String
  deploy? : Option DeployOptions
deriving Repr, DecidableEq, Inhabited

namespace Manifest

/-- A value as a quoted scalar. -/
def quote (value : String) : String :=
  JsonText.quote value

/-- The lines of a variable. -/
def variableLines (envVariable : EnvironmentVariable) : List String :=
  [ "        - name: " ++ envVariable.name,
    "          value: " ++ quote envVariable.value ]

/-- The lines of the environment. -/
def envLines (env : List EnvironmentVariable) : List String :=
  if env.isEmpty then [] else "        env:" :: env.flatMap variableLines

/-- The lines of one section of quantities. -/
def quantityLines (heading : String) (quantities : SortedMap String) : List String :=
  if quantities.isEmpty then []
  else
    ("          " ++ heading ++ ":") ::
      quantities.entries.map fun entry => "            " ++ entry.1 ++ ": " ++ quote entry.2

/-- The lines of the quantities. -/
def resourceLines (resources : Resources) : List String :=
  if resources.limits.isEmpty && resources.requests.isEmpty then []
  else
    "        resources:" ::
      (quantityLines "limits" resources.limits ++ quantityLines "requests" resources.requests)

/-- A line for a number that is not zero. -/
def numberLine (key : String) (value : Int64) : List String :=
  if value = 0 then [] else ["      " ++ key ++ ": " ++ toString value.toInt]

/-- The lines of a probe. -/
def probeLines (manifest : Manifest) (probe : String) : List String :=
  [ "        " ++ probe ++ ":",
    "          exec:",
    "            command: [\"/ko-app/" ++ manifest.binary ++ "\", \"probe\"]" ]

/-- The deployment options, the default ones if there are none. -/
def deploy (manifest : Manifest) : DeployOptions :=
  manifest.deploy?.getD {}

/-- The lines of the manifest. -/
def lines (manifest : Manifest) : List String :=
  [ "apiVersion: serving.knative.dev/v1alpha1",
    "kind: Service",
    "metadata:",
    "  name: " ++ manifest.name,
    "  namespace: " ++ manifest.kubeNamespace,
    "spec:",
    "  template:",
    "    spec:" ] ++
    (if manifest.deploy.serviceAccount.isEmpty then []
      else ["      serviceAccountName: " ++ manifest.deploy.serviceAccount]) ++
    numberLine "containerConcurrency" manifest.deploy.containerConcurrency ++
    numberLine "timeoutSeconds" manifest.deploy.timeoutSeconds ++
    [ "      containers:",
      "      - image: " ++ manifest.image,
      "        ports:",
      "        - name: h2c",
      "          containerPort: " ++ toString containerPort ] ++
    manifest.probeLines "readinessProbe" ++
    manifest.probeLines "livenessProbe" ++
    envLines manifest.deploy.env ++
    (match manifest.deploy.resources? with
      | some resources => resourceLines resources
      | none => [])

/-- The text of the manifest. -/
def text (manifest : Manifest) : String :=
  Text.unlines manifest.lines

end Manifest

end MethodForge.Deploy

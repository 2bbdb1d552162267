import MethodForge.Main
import MethodForge.CommandLine.Run
import MethodForge.PluginRun
import MethodForge.Host.FileTree
import MethodForge.Toml.Reader
import MethodForge.Pipeline
import MethodForge.Protocol
import MethodForge.Log.Filter
import MethodForge.Deploy.Routing
import MethodForge.Deploy.Manifest
import MethodForge.DispatchFile
import MethodForge.Go.Stubs
import MethodForge.Go.Types
import MethodForge.Response
import MethodForge.Schema.Codec
import MethodForge.Wire.Field
import MethodForge.SortedMap
import MethodForge.Parameters.Codec
import MethodForge.JsonText.Value
import MethodForge.JsonText.StringLiteral
import MethodForge.Path
import MethodForge.Text.Base64
import MethodForge.Text.Lines
import MethodForge.Text.Lowercase
import MethodForge.Text.Quoted
import MethodForge.Text.Shortest
import MethodForge.Text.Utf8
import MethodForge.Proofs.DispatchFile.Paths
import MethodForge.Proofs.CommandLine.Plan
import MethodForge.Proofs.DispatchFile.Scaffolded
import MethodForge.Proofs.EmbeddedPaths
import MethodForge.Proofs.Generator.Dependencies
import MethodForge.Proofs.PlannedAgreement
import MethodForge.Proofs.Deploy.Agreement
import MethodForge.Proofs.Deploy.Deployments
import MethodForge.Proofs.Go.ServerInterface
import MethodForge.Proofs.Parameters.TextForm
import MethodForge.Proofs.Wire.Layout
import MethodForge.Proofs.Wire.Merging
import MethodForge.Proofs.Wire.Reading
import MethodForge.Proofs.Schema.Layout
import MethodForge.Proofs.Schema.Decoding
import MethodForge.Proofs.Go.History
import MethodForge.Proofs.Go.PackageNames
import MethodForge.Proofs.Go.Declarations
import MethodForge.Proofs.Protocol
import MethodForge.Proofs.Generator.Toolchains
import MethodForge.Proofs.Registry.Sharing
import MethodForge.Proofs.Registry.FirstClaim
import MethodForge.Proofs.Pipeline
import MethodForge.Proofs.Deploy.Unambiguous
import MethodForge.Proofs.Deploy.Rules
import MethodForge.Proofs.Generator.Coverage
import MethodForge.Proofs.Path.RootInclude
import MethodForge.Proofs.Go.ScaffoldImports
import MethodForge.Proofs.Text.Tidy
import MethodForge.Proofs.Path.Parent
import MethodForge.Proofs.Config.Overrides

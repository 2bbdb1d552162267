/-
Module: MethodForge.Deploy.Routing
Purpose: The Istio rules that send the calls of one host to the deployments of its methods. A call
  carries the path of its method, so one rule for each path is enough.
Main exports: Route, routes, Routing, Routing.lines
-/
import MethodForge.Naming
import MethodForge.Schema.Target
import MethodForge.Text.Lines

namespace MethodForge.Deploy

open Schema (Request Target)

/-- The name of the rules. -/
def gatewayName : String := "grpc-gateway"

/-- A rule for one path. -/
structure Route where
  /-- The path of the call. -/
  path : String
  /-- The name under which the method is deployed. -/
  serviceName : String
deriving Repr, DecidableEq, Inhabited

/-- The rule for a target. -/
def Route.ofTarget (target : Target) : Route :=
  ⟨target.rpcPath, Naming.serviceName target.serviceName target.methodName⟩

/-- The rules for all targets of a request. -/
def routes (request : Request) : List Route :=
  request.targets.map Route.ofTarget

/-- What the rules are written from. -/
structure Routing where
  kubeNamespace : String
  /-- The host whose calls are routed; every host if it is empty. -/
  domain : String
  routes : List Route
deriving Repr, DecidableEq, Inhabited

namespace Routing

/-- The host as it is written. -/
def host (routing : Routing) : String :=
  if routing.domain.isEmpty then "\"*\"" else routing.domain

/-- The lines of one rule. -/
def routeLines (routing : Routing) (route : Route) : List String :=
  [ "  - match:",
    "    - uri:",
    "        exact: " ++ route.path,
    "    rewrite:",
    "      authority: " ++ route.serviceName ++ "." ++ routing.kubeNamespace ++ ".svc.cluster.local",
    "    route:",
    "    - destination:",
    "        host: istio-ingressgateway.istio-system.svc.cluster.local",
    "        port:",
    "          number: 80",
    "      weight: 100" ]

/-- The lines of the rules. -/
def lines (routing : Routing) : List String :=
  [ "apiVersion: networking.istio.io/v1alpha3",
    "kind: VirtualService",
    "metadata:",
    "  name: " ++ gatewayName,
    "  namespace: " ++ routing.kubeNamespace,
    "spec:",
    "  gateways:",
    "  - knative-ingress-gateway.knative-serving.svc.cluster.local",
    "  - mesh",
    "  hosts:",
    "  - " ++ routing.host ] ++
    (if routing.routes.isEmpty then ["  http: []"]
      else "  http:" :: routing.routes.flatMap routing.routeLines)

/-- The text of the rules. -/
def text (routing : Routing) : String :=
  Text.unlines routing.lines

end Routing

end MethodForge.Deploy

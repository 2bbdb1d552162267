/-
Module: MethodForge.Proofs.Deploy.Reading
Purpose: Manifests and rules read back from their texts. The metadata of a manifest stands before
  anything in it that a user may write freely, so its name and namespace are read back whatever
  follows them. The rules are cut into blocks at the lines that start one, and there is a block for
  each route, in order.
Main exports: endedLines, endedLines_unlines, metadata?, metadata?_text, routeBlocks,
  routeBlocks_text, valuesUnder_path, valuesUnder_authority
-/
import MethodForge.Deploy.Manifest
import MethodForge.Deploy.Routing
import MethodForge.Proofs.Text.Lines

namespace MethodForge.Text

/-- The lines of a text of which each is ended by a line feed. -/
def endedLines (text : String) : List String :=
  ((text.toList.splitOn '\n').dropLast).map String.ofList

theorem endedLines_unlines_cons {line : String} (closed : '\n' ∉ line.toList)
    (rest : List String) :
    endedLines (unlines (line :: rest)) = line :: endedLines (unlines rest) := by
  rw [endedLines, splitOn_unlines, List.dropLast_concat, List.flatMap_cons,
    List.splitOn_eq_singleton closed, endedLines, splitOn_unlines, List.dropLast_concat]
  simp

/-- Lines without a line feed are read back as they were written. -/
theorem endedLines_unlines {lines : List String} (closed : ∀ line ∈ lines, '\n' ∉ line.toList) :
    endedLines (unlines lines) = lines := by
  induction lines with
  | nil => rfl
  | cons line rest ih =>
      rw [endedLines_unlines_cons (closed line List.mem_cons_self),
        ih fun other member => closed other (List.mem_cons_of_mem _ member)]

end MethodForge.Text

namespace MethodForge.Deploy

open Text (after? endedLines valuesUnder)

/-! ### Manifests -/

/-- The name and the namespace in the metadata of a manifest. -/
def metadata? (text : String) : Option (String × String) :=
  match (endedLines text).dropWhile (· != "metadata:") with
  | _ :: name :: kubeNamespace :: _ =>
      match after? "  name: ".toList name.toList,
          after? "  namespace: ".toList kubeNamespace.toList with
      | some name, some kubeNamespace => some (String.ofList name, String.ofList kubeNamespace)
      | _, _ => none
  | _ => none

/-- The metadata of a manifest are read back, as long as they are of one line each. -/
theorem metadata?_text {manifest : Manifest} (closedName : '\n' ∉ manifest.name.toList)
    (closedNamespace : '\n' ∉ manifest.kubeNamespace.toList) :
    metadata? manifest.text = some (manifest.name, manifest.kubeNamespace) := by
  obtain ⟨rest, order⟩ : ∃ rest, manifest.lines =
      "apiVersion: serving.knative.dev/v1alpha1" :: "kind: Service" :: "metadata:" ::
        ("  name: " ++ manifest.name) :: ("  namespace: " ++ manifest.kubeNamespace) :: rest :=
    ⟨_, rfl⟩
  rw [metadata?, Manifest.text, order, Text.endedLines_unlines_cons (by decide),
    Text.endedLines_unlines_cons (by decide), Text.endedLines_unlines_cons (by decide),
    Text.endedLines_unlines_cons (by simp [closedName]),
    Text.endedLines_unlines_cons (by simp [closedNamespace]),
    List.dropWhile_cons_of_pos (by decide), List.dropWhile_cons_of_pos (by decide),
    List.dropWhile_cons_of_neg (by decide)]
  simp only [String.toList_append, Text.after?_append, String.ofList_toList]

/-! ### Rules -/

/-- The blocks of the rules in a text: what stands between the lines that start a rule. -/
def routeBlocks (text : String) : List (List String) :=
  (((endedLines text).dropWhile (· != "  http:")).splitOn "  - match:").tail

namespace Routing

/-- The lines of a rule behind the one that starts it. -/
def blockLines (routing : Routing) (route : Route) : List String :=
  (routing.routeLines route).tail

theorem start_not_mem_blockLines (routing : Routing) (route : Route) :
    "  - match:" ∉ routing.blockLines route := by
  simp [blockLines, routeLines, ← String.toList_inj]

theorem closed_of_mem_blockLines {routing : Routing} {route : Route}
    (closedNamespace : '\n' ∉ routing.kubeNamespace.toList) (closedPath : '\n' ∉ route.path.toList)
    (closedName : '\n' ∉ route.serviceName.toList) :
    ∀ line ∈ routing.blockLines route, '\n' ∉ line.toList := by
  simp [blockLines, routeLines, closedNamespace, closedPath, closedName]

/-- Blocks that each start with a line of their own are cut apart at this line. -/
theorem splitOn_blocks {start : String} {before : List String} (outside : start ∉ before)
    {blocks : List (List String)} (inside : ∀ block ∈ blocks, start ∉ block) :
    (before ++ blocks.flatMap (start :: ·)).splitOn start = before :: blocks := by
  rw [← Text.intercalate_cons]
  apply List.splitOn_intercalate
  · intro block member
    rcases List.mem_cons.1 member with rfl | inBlocks
    · exact outside
    · exact inside block inBlocks
  · exact List.cons_ne_nil _ _

/-- The lines before the rules. -/
def headLines (routing : Routing) : List String :=
  [ "apiVersion: networking.istio.io/v1alpha3",
    "kind: VirtualService",
    "metadata:",
    "  name: " ++ gatewayName,
    "  namespace: " ++ routing.kubeNamespace,
    "spec:",
    "  gateways:",
    "  - knative-ingress-gateway.knative-serving.svc.cluster.local",
    "  - mesh",
    "  hosts:",
    "  - " ++ routing.host ]

theorem lines_eq (routing : Routing) :
    routing.lines =
      routing.headLines ++
        if routing.routes.isEmpty then ["  http: []"]
        else "  http:" :: (routing.routes.map routing.blockLines).flatMap ("  - match:" :: ·) := by
  rw [List.flatMap_map]
  rfl

theorem rules_not_mem_headLines (routing : Routing) : "  http:" ∉ routing.headLines := by
  simp [headLines, ← String.toList_inj]

theorem closed_of_mem_headLines {routing : Routing}
    (closedNamespace : '\n' ∉ routing.kubeNamespace.toList)
    (closedDomain : '\n' ∉ routing.domain.toList) :
    ∀ line ∈ routing.headLines, '\n' ∉ line.toList := by
  have closedHost : '\n' ∉ routing.host.toList := by
    unfold host
    split
    · decide
    · exact closedDomain
  simp [headLines, gatewayName, closedNamespace, closedHost]

/-- Rules are written line by line, as long as what they are written from is of one line each. -/
theorem closed_of_mem_lines (routing : Routing)
    (closedNamespace : '\n' ∉ routing.kubeNamespace.toList)
    (closedDomain : '\n' ∉ routing.domain.toList)
    (closedRoutes : ∀ route ∈ routing.routes,
      '\n' ∉ route.path.toList ∧ '\n' ∉ route.serviceName.toList) :
    ∀ line ∈ routing.lines, '\n' ∉ line.toList := by
  intro line member
  rw [lines_eq] at member
  rcases List.mem_append.1 member with inHead | inRules
  · exact closed_of_mem_headLines closedNamespace closedDomain line inHead
  · split at inRules
    · rw [List.mem_singleton.1 inRules]
      decide
    · rcases List.mem_cons.1 inRules with rfl | inBlocks
      · decide
      · obtain ⟨block, written, inBlock⟩ := List.mem_flatMap.1 inBlocks
        obtain ⟨route, inRoutes, rfl⟩ := List.mem_map.1 written
        obtain ⟨closedPath, closedName⟩ := closedRoutes route inRoutes
        rcases List.mem_cons.1 inBlock with rfl | inside
        · decide
        · exact closed_of_mem_blockLines closedNamespace closedPath closedName line inside

/-- There is a block for each route, in order. -/
theorem routeBlocks_text {routing : Routing} (closed : ∀ line ∈ routing.lines, '\n' ∉ line.toList) :
    routeBlocks routing.text = routing.routes.map routing.blockLines := by
  have head : ∀ line ∈ routing.headLines, (line != "  http:") = true := by
    intro line member
    exact bne_iff_ne.2 (ne_of_mem_of_not_mem member routing.rules_not_mem_headLines)
  rw [routeBlocks, text, Text.endedLines_unlines closed, lines_eq,
    List.dropWhile_append_of_pos head]
  cases order : routing.routes with
  | nil =>
      rw [List.isEmpty_nil, if_pos rfl, List.map_nil]
      decide
  | cons route rest =>
      rw [List.isEmpty_cons, if_neg Bool.false_ne_true,
        List.dropWhile_cons_of_neg (by decide), ← List.singleton_append,
        splitOn_blocks (by decide), List.tail_cons]
      intro block member
      obtain ⟨other, -, rfl⟩ := List.mem_map.1 member
      exact routing.start_not_mem_blockLines other

/-! ### Values in a block -/

/-- The line of a block that names the path, up to the path. -/
def pathKey : String := "        exact: "

/-- The line of a block that names the host, up to the host. -/
def authorityKey : String := "      authority: "

/-- The host of the service that a route leads to. -/
def authority (routing : Routing) (route : Route) : String :=
  route.serviceName ++ "." ++ routing.kubeNamespace ++ ".svc.cluster.local"

theorem blockLines_eq (routing : Routing) (route : Route) :
    routing.blockLines route =
      [ "    - uri:",
        pathKey ++ route.path,
        "    rewrite:",
        authorityKey ++ routing.authority route ] ++
        [ "    route:",
          "    - destination:",
          "        host: istio-ingressgateway.istio-system.svc.cluster.local",
          "        port:",
          "          number: 80",
          "      weight: 100" ] := by
  have authority : authorityKey ++ routing.authority route =
      "      authority: " ++ route.serviceName ++ "." ++ routing.kubeNamespace ++
        ".svc.cluster.local" := by
    simp [authorityKey, Routing.authority, ← String.toList_inj]
  rw [authority]
  rfl

/-- A block names the path of its route and no other one. -/
theorem valuesUnder_path (routing : Routing) (route : Route) :
    valuesUnder pathKey (routing.blockLines route) = [route.path] := by
  rw [blockLines_eq, Text.valuesUnder_append, Text.valuesUnder_cons_of_not (by decide),
    Text.valuesUnder_cons, Text.valuesUnder_cons_of_not (by decide),
    Text.valuesUnder_cons_of_not (by simp [pathKey, authorityKey]),
    Text.valuesUnder_eq_nil (by decide)]
  rfl

/-- A block names the host of its route and no other one. -/
theorem valuesUnder_authority (routing : Routing) (route : Route) :
    valuesUnder authorityKey (routing.blockLines route) = [routing.authority route] := by
  rw [blockLines_eq, Text.valuesUnder_append, Text.valuesUnder_cons_of_not (by decide),
    Text.valuesUnder_cons_of_not (by simp [pathKey, authorityKey]),
    Text.valuesUnder_cons_of_not (by decide), Text.valuesUnder_cons,
    Text.valuesUnder_eq_nil (by decide)]
  rfl

end Routing

end MethodForge.Deploy

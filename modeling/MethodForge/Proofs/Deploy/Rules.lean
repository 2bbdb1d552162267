/-
Module: MethodForge.Proofs.Deploy.Rules
Purpose: Rules are read back from their text, and no rule stands in for another one. The namespace
  comes from its own line, the host from the line behind that of the hosts, and each route from its
  block, where the namespace is taken off the host that the block leads to. The path of a call has
  the name of the method behind its last slash and that of the service behind the last dot before
  it, so it leaves no choice of what is called.
Main exports: Routing.read?, Routing.read?_text, Target.fullName, rpcPath_eq_iff,
  rules_read_back
-/
import MethodForge.Proofs.Deploy.Deployments
import MethodForge.Proofs.Deploy.Reading

namespace MethodForge

/-! ### Texts by their ends -/

namespace Text

/-- What precedes `ending` in a text that ends with it. -/
def before? (ending text : List Char) : Option (List Char) :=
  (after? ending.reverse text.reverse).map List.reverse

theorem before?_append (start ending : List Char) : before? ending (start ++ ending) = some start := by
  simp [before?]

/-- Texts are cut apart in one way only at the last of a sign. -/
theorem append_cons_inj_of_last {sign : Char} {first second before after : List Char}
    (outsideBefore : sign ∉ before) (outsideAfter : sign ∉ after)
    (same : first ++ sign :: before = second ++ sign :: after) :
    first = second ∧ before = after := by
  have late {middle one other : List Char} (outside : sign ∉ one)
      (order : sign :: one = middle ++ sign :: other) : middle = [] := by
    cases middle with
    | nil => rfl
    | cons _ rest =>
        rw [List.cons_append, List.cons.injEq] at order
        exact absurd (order.2 ▸ List.mem_append_right _ List.mem_cons_self) outside
  rcases List.append_eq_append_iff.1 same with ⟨middle, rfl, order⟩ | ⟨middle, rfl, order⟩
  · cases late outsideBefore order
    simpa using order
  · cases late outsideAfter order
    simpa using order.symm

end Text

namespace Deploy

open Schema (Request Target)
open Text (after? before? endedLines valuesUnder)

/-! ### Reading rules -/

namespace Routing

/-- What follows the name of a service in the host that a block leads to. -/
def hostEnd (kubeNamespace : String) : String :=
  "." ++ kubeNamespace ++ ".svc.cluster.local"

/-- The route that a block stands for, among rules for a namespace. -/
def routeOfBlock? (kubeNamespace : String) (block : List String) : Option Route :=
  match valuesUnder pathKey block, valuesUnder authorityKey block with
  | [path], [authority] =>
      (before? (hostEnd kubeNamespace).toList authority.toList).map fun name =>
        ⟨path, String.ofList name⟩
  | _, _ => none

/-- The line that names the namespace, up to the namespace. -/
def namespaceKey : String := "  namespace: "

/-- The line that names the host, up to the host. -/
def hostKey : String := "  - "

/-- The host in the text of rules: the first one in the list of hosts. -/
def host? (text : String) : Option String :=
  (valuesUnder hostKey ((endedLines text).dropWhile (· != "  hosts:"))).head?

/-- What the rules in a text are written from. -/
def read? (text : String) : Option Routing := do
  let kubeNamespace ← (valuesUnder namespaceKey (endedLines text)).head?
  let host ← host? text
  let routes ← (routeBlocks text).mapM (routeOfBlock? kubeNamespace)
  return { kubeNamespace, domain := if host = "\"*\"" then "" else host, routes }

/-- Whether what rules are written from is of one line each. -/
structure Closed (routing : Routing) : Prop where
  kubeNamespace : '\n' ∉ routing.kubeNamespace.toList
  domain : '\n' ∉ routing.domain.toList
  path : ∀ route ∈ routing.routes, '\n' ∉ route.path.toList
  serviceName : ∀ route ∈ routing.routes, '\n' ∉ route.serviceName.toList

theorem Closed.lines {routing : Routing} (closed : routing.Closed) :
    ∀ line ∈ routing.lines, '\n' ∉ line.toList :=
  routing.closed_of_mem_lines closed.kubeNamespace closed.domain fun route member =>
    ⟨closed.path route member, closed.serviceName route member⟩

theorem routeOfBlock?_blockLines (routing : Routing) (route : Route) :
    routeOfBlock? routing.kubeNamespace (routing.blockLines route) = some route := by
  have authority : routing.authority route =
      route.serviceName ++ hostEnd routing.kubeNamespace := by
    simp only [Routing.authority, hostEnd, String.append_assoc]
  rw [routeOfBlock?, valuesUnder_path, valuesUnder_authority, authority]
  simp only [String.toList_append, Text.before?_append, Option.map_some, String.ofList_toList]

theorem mapM_map_of_some {α β : Type} {write : α → β} {read : β → Option α}
    (reads : ∀ entry, read (write entry) = some entry) (entries : List α) :
    (entries.map write).mapM read = some entries := by
  induction entries with
  | nil => rfl
  | cons entry rest ih =>
      rw [List.map_cons, List.mapM_cons, reads, ih]
      rfl

theorem namespace_of_lines (routing : Routing) :
    (valuesUnder namespaceKey routing.lines).head? = some routing.kubeNamespace := by
  rw [lines_eq, headLines]
  simp only [List.cons_append]
  rw [Text.valuesUnder_cons_of_not (by decide), Text.valuesUnder_cons_of_not (by decide),
    Text.valuesUnder_cons_of_not (by decide), Text.valuesUnder_cons_of_not (by decide)]
  exact congrArg List.head? (Text.valuesUnder_cons namespaceKey _ _)

theorem host_of_lines (routing : Routing) :
    (valuesUnder hostKey (routing.lines.dropWhile (· != "  hosts:"))).head? =
      some routing.host := by
  have spaceLine : ("  namespace: " ++ routing.kubeNamespace != "  hosts:") = true := by
    rw [bne_iff_ne, ne_eq, ← String.toList_inj]
    simp
  rw [lines_eq, headLines]
  simp only [List.cons_append]
  rw [List.dropWhile_cons_of_pos (by decide), List.dropWhile_cons_of_pos (by decide),
    List.dropWhile_cons_of_pos (by decide), List.dropWhile_cons_of_pos (by decide),
    List.dropWhile_cons_of_pos (by exact spaceLine), List.dropWhile_cons_of_pos (by decide),
    List.dropWhile_cons_of_pos (by decide), List.dropWhile_cons_of_pos (by decide),
    List.dropWhile_cons_of_pos (by decide), List.dropWhile_cons_of_neg (by decide),
    Text.valuesUnder_cons_of_not (by decide)]
  exact congrArg List.head? (Text.valuesUnder_cons hostKey _ _)

theorem domain_of_host {routing : Routing} (other : routing.domain ≠ "\"*\"") :
    (if routing.host = "\"*\"" then "" else routing.host) = routing.domain := by
  by_cases empty : routing.domain = ""
  · simp [host, empty]
  · simp [host, empty, other]

/-- Rules of one line each are read back from their text. -/
theorem read?_text {routing : Routing} (closed : routing.Closed)
    (other : routing.domain ≠ "\"*\"") : read? routing.text = some routing := by
  have lines : endedLines routing.text = routing.lines := Text.endedLines_unlines closed.lines
  have space := routing.namespace_of_lines
  have host : host? routing.text = some routing.host := by
    rw [host?, lines, host_of_lines]
  have routes : (routeBlocks routing.text).mapM (routeOfBlock? routing.kubeNamespace) =
      some routing.routes := by
    rw [routeBlocks_text closed.lines]
    exact mapM_map_of_some routing.routeOfBlock?_blockLines routing.routes
  rw [read?, lines, space]
  simp only [Option.bind_eq_bind, Option.bind_some, host, routes, domain_of_host other]
  rfl

end Routing

end Deploy

/-! ### Paths of calls -/

open Deploy (Route Routing routes)
open Schema (Request Target)

/-- The name that a target is called by: its package, its service and its own name. -/
def Schema.Target.fullName (target : Target) : String × String × String :=
  (target.file.package, target.serviceName, target.methodName)

/-- The name of the service in a path, with the package before it. -/
def Schema.Target.scopedService (target : Target) : List Char :=
  (if target.file.package.isEmpty then [] else target.file.package.toList ++ ['.']) ++
    target.serviceName.toList

theorem Schema.Target.rpcPath_toList (target : Target) :
    target.rpcPath.toList =
      '/' :: target.scopedService ++ '/' :: target.methodName.toList := by
  unfold rpcPath scopedService
  split
  · simp
  · simp

/-- Services are called by one name only if their packages and their names agree. -/
theorem Schema.Target.scopedService_eq_iff {first second : Target}
    (outsideFirst : '.' ∉ first.serviceName.toList)
    (outsideSecond : '.' ∉ second.serviceName.toList) :
    first.scopedService = second.scopedService ↔
      first.file.package = second.file.package ∧ first.serviceName = second.serviceName := by
  constructor
  · intro same
    unfold scopedService at same
    -- A service with a package has a dot before its name, and one without has none.
    split at same <;> rename_i firstPackage <;> split at same <;> rename_i secondPackage
    · rw [String.isEmpty_iff] at firstPackage secondPackage
      rw [firstPackage, secondPackage]
      exact ⟨rfl, String.toList_inj.1 (by simpa using same)⟩
    · exact absurd (by simpa using congrArg ('.' ∈ ·) same) outsideFirst
    · exact absurd (by simpa using congrArg ('.' ∈ ·) same) outsideSecond
    · rw [List.append_assoc, List.append_assoc, List.singleton_append, List.singleton_append]
        at same
      obtain ⟨package, service⟩ :=
        Text.append_cons_inj_of_last outsideFirst outsideSecond same
      exact ⟨String.toList_inj.1 package, String.toList_inj.1 service⟩
  · rintro ⟨package, service⟩
    rw [scopedService, scopedService, package, service]

/-- Methods are called under one path exactly when they have one name in one service of one
package. -/
theorem rpcPath_eq_iff {first second : Target} (identifiersFirst : first.HasIdentifiers)
    (identifiersSecond : second.HasIdentifiers) :
    first.rpcPath = second.rpcPath ↔ first.fullName = second.fullName := by
  have dotless {target : Target} (identifiers : target.HasIdentifiers) :
      '.' ∉ target.serviceName.toList := identifiers.1.not_mem (by decide)
  have slashless {target : Target} (identifiers : target.HasIdentifiers) :
      '/' ∉ target.methodName.toList := identifiers.2.not_mem (by decide)
  have services := Target.scopedService_eq_iff (dotless identifiersFirst)
    (dotless identifiersSecond)
  have names : first.fullName = second.fullName ↔
      (first.file.package = second.file.package ∧ first.serviceName = second.serviceName) ∧
        first.methodName = second.methodName := by
    simp only [Target.fullName, Prod.mk.injEq, and_assoc]
  rw [names, ← services, ← String.toList_inj, Target.rpcPath_toList, Target.rpcPath_toList]
  constructor
  · intro same
    obtain ⟨service, method⟩ := Text.append_cons_inj_of_last (slashless identifiersFirst)
      (slashless identifiersSecond) same
    exact ⟨(List.cons.inj service).2, String.toList_inj.1 method⟩
  · rintro ⟨service, method⟩
    rw [service, method]

/-- Of the rules of a request, the first one with the path of a method is for a method of its name. -/
theorem find?_routes {request : Request}
    (identifiers : ∀ target ∈ request.targets, target.HasIdentifiers) {target : Target}
    (member : target ∈ request.targets) :
    ∃ owner ∈ request.targets, owner.fullName = target.fullName ∧
      (routes request).find? (·.path == target.rpcPath) = some (Route.ofTarget owner) := by
  have present : (request.targets.find? fun other => other.rpcPath == target.rpcPath).isSome :=
    List.find?_isSome.2 ⟨target, member, beq_self_eq_true _⟩
  obtain ⟨owner, search⟩ := Option.isSome_iff_exists.1 present
  have inRequest := List.mem_of_find?_eq_some search
  have path : owner.rpcPath = target.rpcPath := by simpa using List.find?_some search
  refine ⟨owner, inRequest, ?_, ?_⟩
  · exact (rpcPath_eq_iff (identifiers owner inRequest) (identifiers target member)).1 path
  · rw [routes, List.find?_map]
    exact congrArg _ search

/-- Rules are read back from their text, so two texts are the same only for the same rules; and the
path of a rule tells which method it is for, so no rule takes the calls of another method. -/
theorem rules_read_back :
    (∀ routing : Routing, routing.Closed → routing.domain ≠ "\"*\"" →
        Routing.read? routing.text = some routing) ∧
      (∀ first second : Routing, first.Closed → second.Closed → first.domain ≠ "\"*\"" →
        second.domain ≠ "\"*\"" → (first.text = second.text ↔ first = second)) ∧
      ∀ request : Request, (∀ target ∈ request.targets, target.HasIdentifiers) →
        (∀ (place otherPlace : Nat) (target other : Target),
          request.targets[place]? = some target → request.targets[otherPlace]? = some other →
            ((routes request)[place]?.map Route.path = (routes request)[otherPlace]?.map Route.path ↔
              target.fullName = other.fullName)) ∧
          ∀ target ∈ request.targets, ∃ owner ∈ request.targets,
            owner.fullName = target.fullName ∧
              (routes request).find? (·.path == target.rpcPath) = some (Route.ofTarget owner) := by
  refine ⟨fun _ => Routing.read?_text, ?_, fun request identifiers => ⟨?_, fun target member => ?_⟩⟩
  · intro first second closedFirst closedSecond otherFirst otherSecond
    constructor
    · intro same
      have read := Routing.read?_text closedFirst otherFirst
      rw [same, Routing.read?_text closedSecond otherSecond] at read
      exact (Option.some.inj read).symm
    · rintro rfl
      rfl
  · intro place otherPlace target other found otherFound
    rw [routes, List.getElem?_map, List.getElem?_map, found, otherFound]
    simp only [Option.map_some, Option.some.injEq]
    exact rpcPath_eq_iff (identifiers target (List.mem_of_getElem? found))
      (identifiers other (List.mem_of_getElem? otherFound))
  · exact find?_routes identifiers member

/-- A request with a service of the same name outside any package and in one. -/
def Schema.Request.scoped : Request where
  fileNames := ["users.proto", "acme/users.proto"]
  files :=
    [ (File.named "users.proto" "").withService (.named "Users" [.named "Get" ".Key" ".User"]),
      (File.named "acme/users.proto" "acme").withService
        (.named "Users" [.named "Get" ".acme.Key" ".acme.User"]) ]

/-- Rules for every host are read back and differ from those without a route, and the two services of
one name are called under two paths. -/
theorem rules_read_back_scoped :
    let request := Request.scoped
    let routing : Routing := ⟨"blue", "", routes request⟩
    let routeless : Routing := ⟨"blue", "", []⟩
    routing.Closed ∧ routeless.Closed ∧ (∀ target ∈ request.targets, target.HasIdentifiers) ∧
      Routing.read? routing.text = some routing ∧ routing.text ≠ routeless.text ∧
      (routes request)[0]?.map Route.path ≠ (routes request)[1]?.map Route.path ∧
      ∃ owner ∈ request.targets, owner.fullName = ("acme", "Users", "Get") ∧
        (routes request).find? (·.path == "/acme.Users/Get") = some (Route.ofTarget owner) := by
  intro request routing routeless
  have closed : routing.Closed := ⟨by decide, by decide, by decide, by decide⟩
  have closedRouteless : routeless.Closed := ⟨by decide, by decide, by decide, by decide⟩
  have identifiers : ∀ target ∈ request.targets, target.HasIdentifiers := by decide
  obtain ⟨readBack, tellsApart, unshadowed⟩ := rules_read_back
  obtain ⟨paths, owners⟩ := unshadowed request identifiers
  refine ⟨closed, closedRouteless, identifiers, readBack routing closed (by decide), ?_, ?_, ?_⟩
  · intro same
    exact absurd ((tellsApart _ _ closed closedRouteless (by decide) (by decide)).1 same) (by decide)
  · intro same
    exact absurd ((paths 0 1 _ _ rfl rfl).1 same) (by decide)
  · exact owners _ (List.mem_of_getElem? (show request.targets[1]? = some _ from rfl))

end MethodForge

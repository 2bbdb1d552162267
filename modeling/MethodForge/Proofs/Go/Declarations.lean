/-
Module: MethodForge.Proofs.Go.Declarations
Purpose: Finding the file that declares a message. A message is placed by the names on the way to it,
  from the message at the top of its file inward; its full name has them behind the package with dots
  between, its Go name has them with underscores. When no two messages that Go code can use have the
  same full name, resolving the name of one leads to the package of its file, and any other name is
  taken to be at home.
Main exports: Message.paths, nestedPaths, File.fullName, Request.isImportable, Request.fullNames,
  nestedDeclarations_eq, resolve_declared
-/
import MethodForge.Proofs.Go.History
import Mathlib.Data.List.TakeWhile

namespace MethodForge

namespace Schema

mutual

/-- The names on the way to each message from a message inward, those inside it first. -/
def Message.paths : Message → List (List String)
  | ⟨name?, nested⟩ =>
      (nestedPaths nested).map (name?.getD "" :: ·) ++ [[name?.getD ""]]

/-- The names on the way to each message from several messages inward. -/
def nestedPaths : List Message → List (List String)
  | [] => []
  | message :: rest => message.paths ++ nestedPaths rest

end

/-- The full name of the message to which the names lead: behind the package, if there is one, with a
dot before each. -/
def File.fullName (file : File) (path : List String) : String :=
  "." ++ ".".intercalate (if file.package.isEmpty then path else file.package :: path)

/-- The full names of all messages of a file. -/
def File.fullNames (file : File) : List String :=
  (nestedPaths file.messages).map file.fullName

namespace Request

/-- Whether Go code can import what a file declares: the file is generated for, or it names its
package. -/
def isImportable (request : Request) (file : File) : Bool :=
  request.isGenerated file || file.goImportPath?.isSome

/-- The full names of all messages that Go code can use. -/
def fullNames (request : Request) : List String :=
  (request.files.filter request.isImportable).flatMap File.fullNames

end Request

theorem nil_not_mem_paths : ∀ message : Message, [] ∉ message.paths
  | ⟨name?, nested⟩ => by
      rw [Message.paths]
      simp

theorem nil_not_mem_nestedPaths (messages : List Message) : [] ∉ nestedPaths messages := by
  induction messages with
  | nil => simp [nestedPaths]
  | cons message rest ih =>
      rw [nestedPaths, List.mem_append, not_or]
      exact ⟨nil_not_mem_paths message, ih⟩

end Schema

/-! ### What comes after the last dot -/

namespace Naming

theorem toList_lastSegment (qualified : String) :
    (lastSegment qualified).toList = (qualified.toList.reverse.takeWhile (· != '.')).reverse := by
  rw [lastSegment, String.toList_ofList]

theorem dot_not_mem_lastSegment (qualified : String) : '.' ∉ (lastSegment qualified).toList := by
  rw [toList_lastSegment, List.mem_reverse]
  intro member
  have differs := List.mem_takeWhile_imp member
  simp at differs

/-- A name is its last segment, or ends in a dot and its last segment. -/
theorem eq_or_eq_append_lastSegment (qualified : String) :
    qualified = lastSegment qualified ∨
      ∃ outer, qualified = outer ++ "." ++ lastSegment qualified := by
  have parts := List.takeWhile_append_dropWhile (p := (· != '.')) (l := qualified.toList.reverse)
  cases remaining : qualified.toList.reverse.dropWhile (· != '.') with
  | nil =>
      left
      rw [remaining, List.append_nil] at parts
      rw [← String.toList_inj, toList_lastSegment, parts, List.reverse_reverse]
  | cons dot rest =>
      right
      have isDot : dot = '.' := by
        have stopped := List.head?_dropWhile_not (· != '.') qualified.toList.reverse
        rw [remaining] at stopped
        simpa using stopped
      refine ⟨String.ofList rest.reverse, ?_⟩
      have whole := congrArg List.reverse parts
      rw [remaining, List.reverse_append, List.reverse_reverse, isDot, ← toList_lastSegment] at whole
      rw [← String.toList_inj, String.toList_append, String.toList_append, String.toList_ofList,
        ← whole]
      simp

end Naming

namespace Go

open Schema (File Message Request nestedPaths)

/-! ### Names behind names -/

/-- The declaration of the message to which the names lead, from what is around the first of them. -/
def declarationAt (path scope outer : String) (names : List String) : Declaration where
  qualified := names.foldl (fun scope name => scope ++ "." ++ name) scope
  path := path
  goName := names.foldl nestedName outer

mutual

theorem messageDeclarations_eq (path : String) :
    ∀ (scope outer : String) (message : Message), messageDeclarations path scope outer message =
      message.paths.map (declarationAt path scope outer)
  | scope, outer, ⟨name?, nested⟩ => by
      rw [messageDeclarations, Message.paths, List.map_append, List.map_map,
        nestedDeclarations_eq]
      rfl

/-- The declarations are those of all messages, each under the names that lead to it. -/
theorem nestedDeclarations_eq (path : String) :
    ∀ (scope outer : String) (messages : List Message),
      nestedDeclarations path scope outer messages =
        (nestedPaths messages).map (declarationAt path scope outer)
  | _, _, [] => by rw [nestedDeclarations, nestedPaths, List.map_nil]
  | scope, outer, message :: rest => by
      rw [nestedDeclarations, nestedPaths, List.map_append, messageDeclarations_eq,
        nestedDeclarations_eq]

end

theorem foldl_dot {names : List String} (some : names ≠ []) (scope : String) :
    names.foldl (fun scope name => scope ++ "." ++ name) scope =
      scope ++ "." ++ ".".intercalate names := by
  induction names generalizing scope with
  | nil => exact absurd rfl some
  | cons name rest ih =>
      cases rest with
      | nil => rw [String.intercalate_singleton, List.foldl_cons, List.foldl_nil]
      | cons next rest =>
          rw [List.foldl_cons, ih (List.cons_ne_nil _ _), String.intercalate_cons_cons]
          simp only [String.append_assoc]

/-- Names without gaps are joined by underscores. -/
theorem foldl_nestedName {outer : String} (named : outer ≠ "") (names : List String) :
    names.foldl nestedName outer = "_".intercalate (outer :: names) := by
  induction names generalizing outer with
  | nil => rw [String.intercalate_singleton, List.foldl_nil]
  | cons name rest ih =>
      have notEmpty : outer.isEmpty = false := by simpa using named
      have joined : nestedName outer name = outer ++ "_" ++ name := by
        rw [nestedName, notEmpty]
        rfl
      have someName : nestedName outer name ≠ "" := by
        rw [joined]
        simp [named]
      rw [List.foldl_cons, ih someName, joined, String.intercalate_cons_cons]
      cases rest with
      | nil => simp only [String.intercalate_singleton, String.append_assoc]
      | cons next rest => simp only [String.intercalate_cons_cons, String.append_assoc]

theorem goName_declarationAt {path scope : String} {names : List String} (some : names ≠ [])
    (named : "" ∉ names) : (declarationAt path scope "" names).goName = "_".intercalate names := by
  obtain ⟨first, rest, rfl⟩ := List.exists_cons_of_ne_nil some
  have outer : first ≠ "" := fun same => named (same ▸ List.mem_cons_self)
  exact foldl_nestedName outer rest

theorem qualified_declarationAt {file : File} {path : String} {names : List String}
    (some : names ≠ []) :
    (declarationAt path (packageScope file) "" names).qualified = file.fullName names := by
  obtain ⟨first, rest, rfl⟩ := List.exists_cons_of_ne_nil some
  rw [declarationAt, foldl_dot some, packageScope, File.fullName]
  split
  · rw [String.empty_append]
  · rw [String.intercalate_cons_cons]
    simp only [String.append_assoc]

/-! ### All files -/

section

variable {request : Request} {base genDir : String} {file : File}

theorem isImportable_eq :
    request.isImportable file = (packagePath? request base genDir file).isSome := by
  unfold Request.isImportable packagePath?
  cases request.isGenerated file <;> rfl

theorem fileDeclarations_eq {path : String}
    (importable : packagePath? request base genDir file = some path) :
    fileDeclarations request base genDir file =
      (nestedPaths file.messages).map (declarationAt path (packageScope file) "") := by
  rw [fileDeclarations, importable]
  exact nestedDeclarations_eq path (packageScope file) "" file.messages

theorem qualified_fileDeclarations :
    (fileDeclarations request base genDir file).map (·.qualified) =
      if request.isImportable file then file.fullNames else [] := by
  rw [isImportable_eq]
  cases importable : packagePath? request base genDir file with
  | none =>
      rw [fileDeclarations, importable]
      rfl
  | some path =>
      rw [fileDeclarations_eq importable, List.map_map, Option.isSome_some, if_pos rfl]
      refine List.map_congr_left fun names member => qualified_declarationAt ?_
      rintro rfl
      exact Schema.nil_not_mem_nestedPaths _ member

theorem qualified_declarations :
    (declarations request base genDir).map (·.qualified) = request.fullNames := by
  rw [declarations, Request.fullNames]
  induction request.files with
  | nil => rfl
  | cons file rest ih =>
      rw [List.flatMap_cons, List.map_append, ih, qualified_fileDeclarations, List.filter_cons]
      split
      · rw [List.flatMap_cons]
      · rfl

end

/-! ### Finding declarations -/

section

variable {request : Request} {home : File} {base genDir : String} {earlier : List String}

/-- What is known does not change with what is resolved. -/
theorem find?_resolveAll (qualified : String) :
    ((Resolver.start request home base genDir).resolveAll earlier).2.find? qualified =
      (declarations request base genDir).reverse.find? (·.qualified == qualified) := by
  rw [Resolver.find?, (Resolver.resolveAll_extends _ earlier).known]
  rfl

/-- Where no two messages share a full name, a message is found under its own. -/
theorem find?_declared (distinct : request.fullNames.Nodup) {file : File}
    (member : file ∈ request.files) {path : String}
    (importable : packagePath? request base genDir file = some path) {names : List String}
    (declared : names ∈ nestedPaths file.messages) :
    ((Resolver.start request home base genDir).resolveAll earlier).2.find? (file.fullName names) =
      some (declarationAt path (packageScope file) "" names) := by
  have some : names ≠ [] := by
    rintro rfl
    exact Schema.nil_not_mem_nestedPaths _ declared
  have known : declarationAt path (packageScope file) "" names ∈
      (declarations request base genDir).reverse := by
    refine List.mem_reverse.2 (List.mem_flatMap.2 ⟨file, member, ?_⟩)
    rw [fileDeclarations_eq importable]
    exact List.mem_map_of_mem declared
  have separate : ((declarations request base genDir).reverse.map (·.qualified)).Nodup := by
    rw [List.map_reverse, List.nodup_reverse, qualified_declarations]
    exact distinct
  rw [find?_resolveAll, ← qualified_declarationAt some]
  exact find?_of_nodup_keys separate known

/-- Nothing is found under any other name. -/
theorem find?_undeclared {qualified : String} (absent : qualified ∉ request.fullNames) :
    ((Resolver.start request home base genDir).resolveAll earlier).2.find? qualified = none := by
  rw [find?_resolveAll, List.find?_eq_none]
  intro declaration member same
  have names : (declarations request base genDir).map (·.qualified) = request.fullNames :=
    qualified_declarations
  rw [← names] at absent
  exact absent (List.mem_map.2 ⟨declaration, List.mem_reverse.1 member, beq_iff_eq.1 same⟩)

end

/-- When the messages that Go code can use have names and no two of them the same full name, the full
name of each leads to the package of its file, the one in the generated tree if the file is generated
for and the one that it names if not, and to the names on the way to it joined by underscores. Any
other name is the text after its last dot, at home. -/
theorem resolve_declared {request : Request}
    (named : ∀ file ∈ request.files, ∀ path ∈ nestedPaths file.messages, "" ∉ path)
    (distinct : request.fullNames.Nodup) (home : File) (base genDir : String)
    (earlier : List String) :
    let resolver := ((Resolver.start request home base genDir).resolveAll earlier).2
    let expanded := fun qualified =>
      (resolver.resolve qualified).2.expand? (resolver.resolve qualified).1
    (∀ file ∈ request.files, ∀ path ∈ nestedPaths file.messages,
      (request.isGenerated file = true → expanded (file.fullName path) =
        some (Path.join [base, genDir, "proto", Path.parent file.name], "_".intercalate path)) ∧
      (request.isGenerated file = false → ∀ goPath, file.goImportPath? = some goPath →
        expanded (file.fullName path) = some (goPath, "_".intercalate path))) ∧
    ∀ qualified ∉ request.fullNames, ∃ name, (resolver.resolve qualified).1 = ⟨"pb", name⟩ ∧
      '.' ∉ name.toList ∧ (qualified = name ∨ ∃ outer, qualified = outer ++ "." ++ name) := by
  intro resolver expanded
  have sound : resolver.Sound :=
    (Resolver.sound_start request home base genDir).resolveAll earlier
  have found : ∀ file ∈ request.files, ∀ path ∈ nestedPaths file.messages, ∀ goPath,
      packagePath? request base genDir file = some goPath →
        expanded (file.fullName path) = some (goPath, "_".intercalate path) := by
    intro file member path declared goPath importable
    have some : path ≠ [] := by
      rintro rfl
      exact Schema.nil_not_mem_nestedPaths _ declared
    have stands := Resolver.expand?_resolve sound (file.fullName path) []
    rw [Resolver.denoted, find?_declared distinct member importable declared] at stands
    exact stands.trans (congrArg (fun name => Option.some (goPath, name))
      (goName_declarationAt some (named file member path declared)))
  refine ⟨fun file member path declared => ⟨fun generated => ?_, fun other goPath own => ?_⟩, ?_⟩
  · refine found file member path declared _ ?_
    rw [packagePath?, generated]
    rfl
  · refine found file member path declared goPath ?_
    rw [packagePath?, other, ← own]
    rfl
  · intro qualified absent
    refine ⟨Naming.lastSegment qualified, ?_, Naming.dot_not_mem_lastSegment qualified,
      Naming.eq_or_eq_append_lastSegment qualified⟩
    have unknown : resolver.find? qualified = none := find?_undeclared absent
    rw [Resolver.resolve, unknown]
    rfl

/-- A file whose message holds another one. -/
def addressesFile : File :=
  (File.named "acme/users.proto" "acme").withMessage
    ((Message.named "User").withNested (.named "Address"))

/-- A file that names its package. -/
def emptiesFile : File :=
  ((File.named "google/protobuf/empty.proto" "google.protobuf").withGoPackage
    "example.com/known/emptypb;emptypb").withMessage (.named "Empty")

/-- The message inside a message is found in the generated tree, the one of the other file in its
package. -/
theorem resolve_declared_addresses :
    let request : Request :=
      { fileNames := ["acme/users.proto"], files := [emptiesFile, addressesFile] }
    let resolver :=
      ((Resolver.start request addressesFile "api" "gen").resolveAll [".google.protobuf.Empty"]).2
    let expanded := fun qualified =>
      (resolver.resolve qualified).2.expand? (resolver.resolve qualified).1
    (∀ file ∈ request.files, ∀ path ∈ nestedPaths file.messages, "" ∉ path) ∧
      request.fullNames.Nodup ∧
      expanded ".acme.User.Address" = some ("api/gen/proto/acme", "User_Address") ∧
      expanded ".google.protobuf.Empty" = some ("example.com/known/emptypb", "Empty") ∧
      ∃ name, (resolver.resolve ".legacy.Record").1 = ⟨"pb", name⟩ := by
  intro request resolver expanded
  have named : ∀ file ∈ request.files, ∀ path ∈ nestedPaths file.messages, "" ∉ path := by decide
  have distinct : request.fullNames.Nodup := by decide
  obtain ⟨declared, others⟩ :=
    resolve_declared named distinct addressesFile "api" "gen" [".google.protobuf.Empty"]
  have addressName : ".acme.User.Address" = addressesFile.fullName ["User", "Address"] := by decide
  have addressPath : Path.join ["api", "gen", "proto", Path.parent addressesFile.name] =
      "api/gen/proto/acme" := by decide
  have address := (declared addressesFile (List.mem_cons_of_mem _ List.mem_cons_self)
    ["User", "Address"] (by decide)).1 (by decide)
  rw [addressPath, ← addressName] at address
  have emptyName : ".google.protobuf.Empty" = emptiesFile.fullName ["Empty"] := by decide
  have empty := (declared emptiesFile List.mem_cons_self ["Empty"] (by decide)).2 (by decide)
    "example.com/known/emptypb" (by decide)
  rw [← emptyName] at empty
  obtain ⟨name, atHome, -⟩ := others ".legacy.Record" (by decide)
  exact ⟨named, distinct, address, empty, name, atHome⟩

end Go

end MethodForge

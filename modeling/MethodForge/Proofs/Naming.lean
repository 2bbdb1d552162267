/-
Module: MethodForge.Proofs.Naming
Purpose: The names that methods have outside their services. An identifier stays one in small letters,
  so it can stand as a directory of its own, and the directory of a method goes two levels down,
  never up and never to the root. The paths made of it may therefore be put together in any
  grouping, and the last component of an image is the name of the program in it.
Main exports: IsIdentifier, IsIdentifier.lowercase, inward_methodDirectory,
  implementationImportPath_eq, entrypointImage_eq, protoImportPath_eq, lastComponent_entrypointImage
-/
import MethodForge.Naming
import MethodForge.Proofs.Path.Escape

namespace MethodForge.Text

/-- Whether a character may stand in an identifier. -/
def isIdentifierCharacter (character : Char) : Bool :=
  isLetter character || isDigit character || character == '_'

/-- Whether a text is an identifier: letters, digits and underscores, with no digit first. -/
def IsIdentifier (text : String) : Prop :=
  text ≠ "" ∧ (∀ character ∈ text.toList, isIdentifierCharacter character = true) ∧
    text.toList.head?.any isDigit = false

instance (text : String) : Decidable (IsIdentifier text) :=
  have := List.decidableBAll (fun character => isIdentifierCharacter character = true) text.toList
  inferInstanceAs (Decidable (_ ∧ _ ∧ _))

theorem isIdentifierCharacter_iff (character : Char) :
    isIdentifierCharacter character = true ↔
      0x61 ≤ character.toNat ∧ character.toNat ≤ 0x7A ∨
        0x41 ≤ character.toNat ∧ character.toNat ≤ 0x5A ∨
          0x30 ≤ character.toNat ∧ character.toNat ≤ 0x39 ∨ character.toNat = 0x5F := by
  have underscore : character = '_' ↔ character.toNat = 0x5F := by
    constructor
    · rintro rfl
      rfl
    · intro code
      rw [← Char.ofNat_toNat character, code]
  simp only [isIdentifierCharacter, Bool.or_eq_true, beq_iff_eq, isLetter_iff, isDigit_iff,
    underscore, or_assoc]

theorem isBlank_of_isIdentifierCharacter {character : Char}
    (allowed : isIdentifierCharacter character = true) : isBlank character = false := by
  rw [isIdentifierCharacter_iff] at allowed
  exact isBlank_eq_false_of_toNat (by omega) (by omega)

/-! ### Small letters -/

theorem lowercaseAt_ne_nil (before : List Char) (character : Char) (after : List Char) :
    lowercaseAt before character after ≠ [] := by
  unfold lowercaseAt
  split
  · split <;> simp
  · split <;> simp

/-- A text that is not empty is not empty in small letters. -/
theorem lowercase_ne_empty {text : String} (nonempty : text ≠ "") : lowercase text ≠ "" := by
  obtain ⟨first, rest, order⟩ := List.exists_cons_of_ne_nil (show text.toList ≠ [] by simpa)
  rw [lowercase, order, lowercaseFrom, ne_eq, String.ofList_eq_empty_iff, List.append_eq_nil_iff]
  intro empty
  exact lowercaseAt_ne_nil [] first rest empty.1

/-- The small form of an ASCII text is that of its characters. -/
theorem lowercaseFrom_of_ascii {characters : List Char}
    (ascii : ∀ character ∈ characters, character.toNat < 0x80) (before : List Char) :
    lowercaseFrom before characters = characters.map lowercaseChar := by
  induction characters generalizing before with
  | nil => rfl
  | cons character rest ih =>
      have small := ascii character List.mem_cons_self
      have notSigma : character ≠ 'Σ' := by
        rintro rfl
        revert small
        decide
      have notDotted : character ≠ 'İ' := by
        rintro rfl
        revert small
        decide
      rw [lowercaseFrom, ih fun other member => ascii other (List.mem_cons_of_mem _ member)]
      simp [lowercaseAt, notSigma, notDotted]

theorem isIdentifierCharacter_lowercaseChar {character : Char}
    (allowed : isIdentifierCharacter character = true) :
    isIdentifierCharacter (lowercaseChar character) = true := by
  rw [isIdentifierCharacter_iff] at allowed
  have ascii : character.toNat < 0x80 := by omega
  by_cases capital : 0x41 ≤ character.toNat ∧ character.toNat ≤ 0x5A
  · have small : (lowercaseChar character).toNat = character.toNat + 0x20 := by
      simp only [lowercaseChar, ascii, capital, decide_true, Bool.and_self, if_true]
      exact toNat_ofNat_of_valid (.inl (by omega))
    rw [isIdentifierCharacter_iff, small]
    omega
  · have same : lowercaseChar character = character := by
      simp only [lowercaseChar, ascii, if_true, ite_eq_right_iff, Bool.and_eq_true,
        decide_eq_true_eq]
      exact fun within => absurd within capital
    rw [same, isIdentifierCharacter_iff]
    exact allowed

/-- The small form of an identifier is not empty and holds what identifiers do. -/
theorem IsIdentifier.lowercase {text : String} (identifier : IsIdentifier text) :
    lowercase text ≠ "" ∧
      ∀ character ∈ (lowercase text).toList, isIdentifierCharacter character = true := by
  obtain ⟨nonempty, allowed, -⟩ := identifier
  refine ⟨lowercase_ne_empty nonempty, ?_⟩
  have ascii : ∀ character ∈ text.toList, character.toNat < 0x80 := by
    intro character member
    have bounds := (isIdentifierCharacter_iff character).1 (allowed character member)
    omega
  rw [Text.lowercase, String.toList_ofList, lowercaseFrom_of_ascii ascii]
  intro character member
  obtain ⟨capital, inText, rfl⟩ := List.mem_map.1 member
  exact isIdentifierCharacter_lowercaseChar (allowed capital inText)

theorem IsIdentifier.isWord_lowercase {text : String} (identifier : IsIdentifier text) :
    IsWord (Text.lowercase text) :=
  ⟨identifier.lowercase.1, fun character member =>
    isBlank_of_isIdentifierCharacter (identifier.lowercase.2 character member)⟩

end MethodForge.Text

namespace MethodForge.Naming

open Path (Inward components isName isRooted join startsAtRoot)
open Text (IsIdentifier IsWord lowercase)

/-! ### Directories of methods -/

/-- An identifier in small letters is the name of one directory. -/
theorem isName_lowercase {text : String} (identifier : IsIdentifier text) :
    isName (lowercase text).toList = true ∧ '/' ∉ (lowercase text).toList := by
  obtain ⟨nonempty, allowed⟩ := identifier.lowercase
  have noSlash : '/' ∉ (lowercase text).toList := fun member => by
    have slash := allowed '/' member
    revert slash
    decide
  have noDot : '.' ∉ (lowercase text).toList := fun member => by
    have dot := allowed '.' member
    revert dot
    decide
  refine ⟨?_, noSlash⟩
  cases characters : (lowercase text).toList with
  | nil => exact absurd (by simpa using characters) nonempty
  | cons first rest =>
      rw [characters] at noDot
      have notDot : first ≠ '.' := fun same => noDot (same ▸ List.mem_cons_self)
      simp [isName, Path.isIdle, Path.up, notDot]

section

variable {service method : String}

/-- The directory of a method is that of the service and one for the method in it. -/
theorem methodDirectory_eq (serviceName : IsIdentifier service) (methodName : IsIdentifier method) :
    (methodDirectory service method).toList =
      Path.ofComponents [(lowercase service).toList, (lowercase method).toList] := by
  obtain ⟨serviceSolid, serviceSlashless⟩ := isName_lowercase serviceName
  obtain ⟨methodSolid, methodSlashless⟩ := isName_lowercase methodName
  have start : startsAtRoot [lowercase service, lowercase method] = false :=
    Path.startsAtRoot_pair (Path.isRooted_eq_false_of_slashless serviceSlashless)
      (Path.isRooted_eq_false_of_slashless methodSlashless)
  have stack : Path.joinStack [lowercase service, lowercase method] =
      [(lowercase method).toList, (lowercase service).toList] := by
    rw [Path.joinStack, Path.elementParts_cons, Path.elementParts_cons, Path.elementParts_nil,
      Path.components_of_slashless serviceSlashless, Path.components_of_slashless methodSlashless,
      List.append_nil, Path.walk_append, Path.walk_cons, Path.walk_nil, Path.walk_cons,
      Path.walk_nil, Path.descend_of_isName serviceSolid, Path.descend_of_isName methodSolid]
  rw [methodDirectory, Path.join_eq, if_neg (by simp [serviceName.lowercase.1]), start, stack,
    String.toList_ofList, Path.written, if_neg (by simp), if_neg (by simp)]
  rfl

/-- The directory of a method has two components, one for the service and one for the method. -/
theorem components_methodDirectory (serviceName : IsIdentifier service)
    (methodName : IsIdentifier method) :
    components (methodDirectory service method).toList =
        [(lowercase service).toList, (lowercase method).toList] ∧
      isRooted (methodDirectory service method).toList = false := by
  have serviceSlashless := (isName_lowercase serviceName).2
  have methodSlashless := (isName_lowercase methodName).2
  rw [methodDirectory_eq serviceName methodName]
  constructor
  · exact Path.components_ofComponents_of_slashless (by simp)
      (by simp [serviceSlashless, methodSlashless])
  · rw [Path.isRooted_ofComponents_cons (by simp [serviceName.lowercase.1])]
    exact Path.isRooted_eq_false_of_slashless serviceSlashless

/-- The directory of a method is a word. -/
theorem isWord_methodDirectory (serviceName : IsIdentifier service)
    (methodName : IsIdentifier method) : IsWord (methodDirectory service method) := by
  have serviceWord := serviceName.isWord_lowercase
  have methodWord := methodName.isWord_lowercase
  have text : methodDirectory service method = lowercase service ++ ("/" ++ lowercase method) := by
    rw [← String.toList_inj, methodDirectory_eq serviceName methodName, Path.ofComponents_cons]
    simp
  rw [text]
  exact serviceWord.append ((by decide : Text.Solid "/").append methodWord.2)

/-- The directory of a method goes down from where it is seen. -/
theorem inward_methodDirectory (serviceName : IsIdentifier service)
    (methodName : IsIdentifier method) : Inward (methodDirectory service method) := by
  obtain ⟨parts, relative⟩ := components_methodDirectory serviceName methodName
  refine ⟨relative, ?_⟩
  rw [parts]
  have serviceUp := Path.ne_up_of_isName (isName_lowercase serviceName).1
  have methodUp := Path.ne_up_of_isName (isName_lowercase methodName).1
  simp [serviceUp.symm, methodUp.symm]

/-! ### Paths below a base -/

/-- The implementation of a method stands where its planned run writes, below the base. -/
theorem implementationImportPath_eq {methodsDir : String}
    (relative : isRooted methodsDir.toList = false) (serviceName : IsIdentifier service)
    (methodName : IsIdentifier method) (base : String) :
    implementationImportPath base methodsDir service method =
      join [base, join [join [methodsDir], methodDirectory service method]] := by
  have directory := (components_methodDirectory serviceName methodName).2
  rw [Path.join_join_below base (by simp [relative, directory])]
  rfl

/-- The image of a method stands where its planned run writes, below the base. -/
theorem entrypointImage_eq {genDir : String} (relative : isRooted genDir.toList = false)
    (serviceName : IsIdentifier service) (methodName : IsIdentifier method) (base : String) :
    entrypointImage base genDir service method =
      join [base, join [join [genDir, "entrypoint"], methodDirectory service method]] := by
  have directory := (components_methodDirectory serviceName methodName).2
  have parts : ∀ element ∈ [genDir, "entrypoint"] ++ [methodDirectory service method],
      isRooted element.toList = false := by
    intro element member
    simp only [List.cons_append, List.nil_append, List.mem_cons, List.not_mem_nil, or_false]
      at member
    rcases member with rfl | rfl | rfl
    · exact relative
    · decide
    · exact directory
  rw [Path.join_join_below base parts]
  rfl

/-- The last component of an image is the name of the program in it. -/
theorem lastComponent_entrypointImage (serviceName : IsIdentifier service)
    (methodName : IsIdentifier method) (base genDir : String) :
    Path.lastComponent (entrypointImage base genDir service method) = methodPackage method := by
  obtain ⟨solid, slashless⟩ := isName_lowercase methodName
  have service := Path.isRooted_eq_false_of_slashless (isName_lowercase serviceName).2
  have method := Path.isRooted_eq_false_of_slashless slashless
  have regrouped := Path.join_regroup [base, genDir, "entrypoint"] _ [] fun rooted => by
    rw [Path.startsAtRoot_pair service method] at rooted
    cases rooted
  rw [entrypointImage, methodDirectory]
  exact (congrArg Path.lastComponent regrouped).trans
    (Path.lastComponent_join solid slashless [base, genDir, "entrypoint", lowercase _])

end

/-- The Go code for the messages of a file stands below the directory of the run that writes it. -/
theorem protoImportPath_eq {genDir : String} (relative : isRooted genDir.toList = false)
    (base fileName : String) :
    protoImportPath base genDir fileName =
      join [base, join [genDir, "proto"], Path.parent fileName] := by
  have below : startsAtRoot [genDir, "proto"] = false := Path.startsAtRoot_pair relative (by decide)
  have regrouped := Path.join_regroup [base] [genDir, "proto"] [Path.parent fileName]
    fun rooted => by
      rw [below] at rooted
      cases rooted
  exact regrouped.symm

end MethodForge.Naming

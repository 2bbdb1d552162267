/-
Module: MethodForge.Proofs.Response
Purpose: Answers are read back from the wire. An answer is a tree of fields like a request, so the same
  rules read it, among fields that it does not declare as well as alone. What is read back says which
  of the two kinds the answer was: either the error is set and there are no files, or it is not set
  and the files are there, in their order and with their names and contents.
Main exports: WireResponse.reads, WireResponse.decode_encode, WireResponse.Carries, Response.IsProper,
  Response.decode_encode, Response.carries_toWire
-/
import MethodForge.Proofs.Wire.Reading
import MethodForge.Response

namespace MethodForge

open Wire
open Text (Bytes)

/-! ### Fields -/

namespace WireFile

/-- The numbers that a file declares. -/
def declared : List Nat := [1, 2, 15]

/-- The fields of a file. -/
def parts (file : WireFile) : List Part :=
  textParts? 1 file.name? ++ textParts? 2 file.insertionPoint? ++ textParts? 15 file.content?

theorem writeParts_parts (file : WireFile) : writeParts file.parts = file.encode := by
  simp [parts, encode]

theorem skips (budget : Nat) : Skips (step (budget + 1)) declared := by
  refine skips_of_unknown budget fun key value bytes undeclared => ?_
  unfold step
  split <;> simp_all [declared]

theorem reads (budget : Nat) (file : WireFile) :
    Reads (step (budget + 1)) declared file.parts {} file := by
  obtain ⟨name?, insertionPoint?, content?⟩ := file
  have named : Reads (step (budget + 1)) declared (textParts? 1 name?) {} { name? } :=
    reads_textParts? (skips budget) (by decide) (by rintro rfl; rfl)
      (by rintro _ _ _ rfl; exact within_mapValue_ok)
  have placed : Reads (step (budget + 1)) declared (textParts? 2 insertionPoint?) { name? }
      { name?, insertionPoint? } :=
    reads_textParts? (skips budget) (by decide) (by rintro rfl; rfl)
      (by rintro _ _ _ rfl; exact within_mapValue_ok)
  have filled : Reads (step (budget + 1)) declared (textParts? 15 content?)
      { name?, insertionPoint? } { name?, insertionPoint?, content? } :=
    reads_textParts? (skips budget) (by decide) (by rintro rfl; rfl)
      (by rintro _ _ _ rfl; exact within_mapValue_ok)
  exact (named.append placed).append filled

end WireFile

namespace WireResponse

/-- The numbers that an answer declares. -/
def declared : List Nat := [1, 2, 15]

/-- The fields of an answer. -/
def parts (response : WireResponse) : List Part :=
  textParts? 1 response.error? ++ numberParts? 2 response.supportedFeatures? ++
    response.files.flatMap fun file => [.message 15 WireFile.declared file.parts]

theorem writeParts_parts (response : WireResponse) :
    writeParts response.parts = response.encode := by
  obtain ⟨error?, supportedFeatures?, files⟩ := response
  cases supportedFeatures? <;>
    simp [parts, encode, numberParts?, writeParts_flatMap, WireFile.writeParts_parts]

theorem skips (budget : Nat) : Skips (step (budget + 1)) declared := by
  refine skips_of_unknown budget fun key value bytes undeclared => ?_
  unfold step
  split <;> simp_all [declared]

theorem reads (budget : Nat) {response : WireResponse}
    (fits : ∀ features, response.supportedFeatures? = some features → features < 2 ^ 64) :
    Reads (step (budget + 2)) declared response.parts {} response := by
  obtain ⟨error?, supportedFeatures?, files⟩ := response
  have skips := skips (budget + 1)
  have failing : Reads (step (budget + 2)) declared (textParts? 1 error?) {} { error? } :=
    reads_textParts? skips (by decide) (by rintro rfl; rfl)
      (by rintro _ _ _ rfl; exact within_mapValue_ok)
  have featured : Reads (step (budget + 2)) declared (numberParts? 2 supportedFeatures?)
      { error? } { error?, supportedFeatures? } :=
    reads_numberParts? skips (by decide) fits (by rintro rfl; rfl)
      (by rintro _ _ _ rfl; exact within_mapValue_ok)
  have filed : Reads (step (budget + 2)) declared
      (files.flatMap fun each => [.message 15 WireFile.declared each.parts])
      { error?, supportedFeatures? } { error?, supportedFeatures?, files } :=
    reads_flatMap skips (fun files => { error?, supportedFeatures?, files }) fun _ each _ =>
      reads_message skips (by decide) (each.reads budget) within_mapValue_ok
  exact (failing.append featured).append filed

/-- An answer is read back. -/
theorem decode_encode {response : WireResponse}
    (fits : ∀ features, response.supportedFeatures? = some features → features < 2 ^ 64)
    (small : response.encode.length < 2 ^ 64) : decode response.encode = .ok response := by
  have padded := padded_writeParts declared response.parts
  rw [writeParts_parts] at padded
  have run : Merges (step recursionBudget) {} response.encode response :=
    reads 98 fits response.encode padded small
  exact decodeMessage_of_merges run

/-- Whether what stands on the wire is the given answer: its error and no files, or all its files, at
least one, and no error. -/
inductive Carries (wire : WireResponse) : Response → Prop
  | failure {message : String} (failed : wire.error? = some message) (empty : wire.files = []) :
      Carries wire (.failure message)
  | files {generated : List GeneratedFile} (fine : wire.error? = none)
      (nonempty : wire.files ≠ [])
      (same : wire.files.map (fun file => (file.name?, file.content?)) =
        generated.map fun file => (some file.name, some file.content)) :
      Carries wire (.files generated)

/-- There is an error exactly if there are no files. -/
theorem Carries.error_iff {wire : WireResponse} {response : Response}
    (carries : wire.Carries response) : wire.error?.isSome ↔ wire.files = [] := by
  cases carries with
  | failure failed empty => simp [failed, empty]
  | files fine nonempty => simp [fine, nonempty]

/-- Where there is no error, the answer was as many files as there are. -/
theorem Carries.files_of_fine {wire : WireResponse} {response : Response}
    (carries : wire.Carries response) (fine : wire.error? = none) :
    ∃ generated, response = .files generated ∧ wire.files.length = generated.length := by
  cases carries with
  | failure failed =>
      rw [failed] at fine
      cases fine
  | @files generated _ _ same =>
      have lengths := congrArg List.length same
      rw [List.length_map, List.length_map] at lengths
      exact ⟨generated, rfl, lengths⟩

end WireResponse

namespace Response

/-- The answers that the protocol allows: a successful one has a file. -/
def IsProper (response : Response) : Prop :=
  response ≠ .files []

theorem toWire_features (response : Response) :
    response.toWire.supportedFeatures? = some optionalFieldsFeature := by
  cases response <;> rfl

theorem decode_encode {response : Response} (small : response.encode.length < 2 ^ 64) :
    WireResponse.decode response.encode = .ok response.toWire := by
  have fits : ∀ features, response.toWire.supportedFeatures? = some features →
      features < 2 ^ 64 := by
    intro features known
    rw [toWire_features] at known
    cases known
    decide
  exact WireResponse.decode_encode fits small

theorem carries_toWire {response : Response} (proper : response.IsProper) :
    response.toWire.Carries response := by
  cases response with
  | failure message => exact .failure rfl rfl
  | files generated =>
      have nonempty : (toWire (.files generated)).files ≠ [] := by
        simpa [toWire, IsProper] using proper
      refine .files rfl nonempty ?_
      rw [toWire, List.map_map]
      rfl

end Response

end MethodForge

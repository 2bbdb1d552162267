/-
Module: MethodForge.Proofs.Schema.Decoding
Purpose: Requests are read back from the wire, whatever fields of other numbers a writer has put among
  those of the request and of the messages in it. Each kind of part passes over what it does not
  declare as long as a message within it could still be read, and its own fields lead from the empty
  part to the one that was written. The budget is a hundred messages; a file and the messages down to
  the ninety-eighth level leave one for a field that is passed over.
Main exports: Message.reads, File.reads, Request.reads, decode_of_padded
-/
import MethodForge.Proofs.Schema.Layout
import MethodForge.Proofs.Wire.Reading

namespace MethodForge.Schema

open Wire
open Text (Bytes)

/-! ### Deployments -/

namespace EnvironmentVariable

theorem skips (budget : Nat) : Skips (step (budget + 1)) declared := by
  refine skips_of_unknown budget fun key value bytes undeclared => ?_
  unfold step
  split <;> simp_all [declared]

theorem reads (budget : Nat) (envVariable : EnvironmentVariable) :
    Reads (step (budget + 1)) declared envVariable.parts {} envVariable := by
  obtain ⟨name, value⟩ := envVariable
  have named : Reads (step (budget + 1)) declared (textPartsNonempty 1 name) {} { name } :=
    reads_textPartsNonempty (skips budget) (by decide) (by rintro rfl; rfl) within_mapValue_ok
  have valued : Reads (step (budget + 1)) declared (textPartsNonempty 2 value) { name }
      { name, value } :=
    reads_textPartsNonempty (skips budget) (by decide) (by rintro rfl; rfl) within_mapValue_ok
  exact named.append valued

end EnvironmentVariable

theorem skips_entryStep (budget : Nat) : Skips (entryStep (budget + 1)) entryDeclared := by
  refine skips_of_unknown budget fun key entry bytes undeclared => ?_
  unfold entryStep
  split <;> simp_all [entryDeclared]

theorem reads_entryParts (budget : Nat) (entry : String × String) :
    Reads (entryStep (budget + 1)) entryDeclared (entryParts entry) ("", "") entry := by
  obtain ⟨key, value⟩ := entry
  have keyed : Reads (entryStep (budget + 1)) entryDeclared (textPartsNonempty 1 key) ("", "")
      (key, "") :=
    reads_textPartsNonempty (skips_entryStep budget) (by decide) (by rintro rfl; rfl)
      mapValue_of_ok
  have valued : Reads (entryStep (budget + 1)) entryDeclared (textPartsNonempty 2 value) (key, "")
      (key, value) :=
    reads_textPartsNonempty (skips_entryStep budget) (by decide) (by rintro rfl; rfl)
      mapValue_of_ok
  exact keyed.append valued

/-- `state` is the message when the given map has been read. The entries are written in their order,
so each comes behind those that are there already. -/
theorem reads_mapParts {α : Type} {step : Step α} {declared : List Nat}
    (skips : Skips step declared) {tag : Nat} (numbered : IsTag tag) (budget : Nat)
    (state : SortedMap String → α) (map : SortedMap String)
    (read : ∀ {done : SortedMap String} {entry : String × String} {bytes rest : Bytes},
      delimited (some (entryStep (budget + 1))) ("", "") bytes = .ok (entry, rest) →
        step ⟨tag, .lengthDelimited⟩ (state done) bytes =
          .ok (state (done.insert entry.1 entry.2), rest)) :
    Reads step declared (mapParts tag map) (state .empty) (state map) := by
  have one : ∀ (done : List (String × String)) (entry : String × String), entry ∈ map.entries →
      Reads step declared [.message tag entryDeclared (entryParts entry)] (state (.ofList done))
        (state (.ofList (done ++ [entry]))) := by
    intro done entry _
    rw [SortedMap.ofList_concat]
    exact reads_message skips numbered (reads_entryParts budget entry) read
  have all := reads_flatMap skips (fun entries => state (.ofList entries)) one
  rwa [SortedMap.ofList_entries] at all

namespace Resources

theorem skips (budget : Nat) : Skips (step (budget + 1)) declared := by
  refine skips_of_unknown budget fun key value bytes undeclared => ?_
  unfold step
  split <;> simp_all [declared]

theorem reads (budget : Nat) (resources : Resources) :
    Reads (step (budget + 2)) declared resources.parts {} resources := by
  obtain ⟨limits, requests⟩ := resources
  have first : Reads (step (budget + 2)) declared (mapParts 1 limits) {} { limits } :=
    reads_mapParts (skips _) (by decide) budget (fun map => { limits := map }) limits fun entry =>
      within_mapValue_ok (mapValue_of_ok entry)
  have second : Reads (step (budget + 2)) declared (mapParts 2 requests) { limits }
      { limits, requests } :=
    reads_mapParts (skips _) (by decide) budget (fun map => { limits, requests := map }) requests
      fun entry => within_mapValue_ok (mapValue_of_ok entry)
  exact first.append second

end Resources

namespace DeployOptions

theorem skips (budget : Nat) : Skips (step (budget + 1)) declared := by
  refine skips_of_unknown budget fun key value bytes undeclared => ?_
  unfold step
  split <;> simp_all [declared]

theorem reads (budget : Nat) (deploy : DeployOptions) :
    Reads (step (budget + 3)) declared deploy.parts {} deploy := by
  obtain ⟨serviceAccount, containerConcurrency, timeoutSeconds, env, resources?⟩ := deploy
  have skips := skips (budget + 2)
  have account : Reads (step (budget + 3)) declared (textPartsNonempty 1 serviceAccount) {}
      { serviceAccount } :=
    reads_textPartsNonempty skips (by decide) (by rintro rfl; rfl) within_mapValue_ok
  have concurrency : Reads (step (budget + 3)) declared (int64PartsNonzero 2 containerConcurrency)
      { serviceAccount } { serviceAccount, containerConcurrency } :=
    reads_int64PartsNonzero skips (by decide) (by rintro rfl; rfl) within_mapValue_ok
  have timeout : Reads (step (budget + 3)) declared (int64PartsNonzero 3 timeoutSeconds)
      { serviceAccount, containerConcurrency }
      { serviceAccount, containerConcurrency, timeoutSeconds } :=
    reads_int64PartsNonzero skips (by decide) (by rintro rfl; rfl) within_mapValue_ok
  have environment : Reads (step (budget + 3)) declared
      (env.flatMap fun each => [.message 4 EnvironmentVariable.declared each.parts])
      { serviceAccount, containerConcurrency, timeoutSeconds }
      { serviceAccount, containerConcurrency, timeoutSeconds, env } :=
    reads_flatMap skips
      (fun env => { serviceAccount, containerConcurrency, timeoutSeconds, env }) fun _ each _ =>
        reads_message skips (by decide) (each.reads (budget + 1)) within_mapValue_ok
  have quantities : Reads (step (budget + 3)) declared
      (messageParts? 5 Resources.declared Resources.parts resources?)
      { serviceAccount, containerConcurrency, timeoutSeconds, env }
      { serviceAccount, containerConcurrency, timeoutSeconds, env, resources? } :=
    reads_messageParts? skips (by decide) (fun each _ => each.reads budget) (by rintro rfl; rfl)
      (by rintro _ _ _ rfl; exact within_mapValue_ok)
  exact (((account.append concurrency).append timeout).append environment).append quantities

end DeployOptions

/-! ### Services -/

namespace MethodOptions

theorem skips (budget : Nat) : Skips (step (budget + 1)) declared := by
  refine skips_of_unknown budget fun key value bytes undeclared => ?_
  unfold step
  split <;> simp_all [declared]

theorem reads (budget : Nat) (options : MethodOptions) :
    Reads (step (budget + 4)) declared options.parts {} options := by
  obtain ⟨deploy?⟩ := options
  exact reads_messageParts? (skips (budget + 3)) (by decide) (fun each _ => each.reads budget)
    (by rintro rfl; rfl) (by rintro _ _ _ rfl; exact within_mapValue_ok)

end MethodOptions

namespace Method

theorem skips (budget : Nat) : Skips (step (budget + 1)) declared := by
  refine skips_of_unknown budget fun key value bytes undeclared => ?_
  unfold step
  split <;> simp_all [declared]

theorem reads (budget : Nat) (method : Method) :
    Reads (step (budget + 5)) declared method.parts {} method := by
  obtain ⟨name?, inputType?, outputType?, options?, clientStreaming?, serverStreaming?⟩ := method
  have skips := skips (budget + 4)
  have named : Reads (step (budget + 5)) declared (textParts? 1 name?) {} { name? } :=
    reads_textParts? skips (by decide) (by rintro rfl; rfl)
      (by rintro _ _ _ rfl; exact within_mapValue_ok)
  have input : Reads (step (budget + 5)) declared (textParts? 2 inputType?) { name? }
      { name?, inputType? } :=
    reads_textParts? skips (by decide) (by rintro rfl; rfl)
      (by rintro _ _ _ rfl; exact within_mapValue_ok)
  have output : Reads (step (budget + 5)) declared (textParts? 3 outputType?)
      { name?, inputType? } { name?, inputType?, outputType? } :=
    reads_textParts? skips (by decide) (by rintro rfl; rfl)
      (by rintro _ _ _ rfl; exact within_mapValue_ok)
  have optional : Reads (step (budget + 5)) declared
      (messageParts? 4 MethodOptions.declared MethodOptions.parts options?)
      { name?, inputType?, outputType? } { name?, inputType?, outputType?, options? } :=
    reads_messageParts? skips (by decide) (fun each _ => each.reads budget) (by rintro rfl; rfl)
      (by rintro _ _ _ rfl; exact within_mapValue_ok)
  have client : Reads (step (budget + 5)) declared (boolParts? 5 clientStreaming?)
      { name?, inputType?, outputType?, options? }
      { name?, inputType?, outputType?, options?, clientStreaming? } :=
    reads_boolParts? skips (by decide) (by rintro rfl; rfl)
      (by rintro _ _ _ rfl; exact within_mapValue_ok)
  have server : Reads (step (budget + 5)) declared (boolParts? 6 serverStreaming?)
      { name?, inputType?, outputType?, options?, clientStreaming? }
      { name?, inputType?, outputType?, options?, clientStreaming?, serverStreaming? } :=
    reads_boolParts? skips (by decide) (by rintro rfl; rfl)
      (by rintro _ _ _ rfl; exact within_mapValue_ok)
  exact ((((named.append input).append output).append optional).append client).append server

end Method

namespace Service

theorem skips (budget : Nat) : Skips (step (budget + 1)) declared := by
  refine skips_of_unknown budget fun key value bytes undeclared => ?_
  unfold step
  split <;> simp_all [declared]

theorem reads (budget : Nat) (service : Service) :
    Reads (step (budget + 6)) declared service.parts {} service := by
  obtain ⟨name?, methods⟩ := service
  have skips := skips (budget + 5)
  have named : Reads (step (budget + 6)) declared (textParts? 1 name?) {} { name? } :=
    reads_textParts? skips (by decide) (by rintro rfl; rfl)
      (by rintro _ _ _ rfl; exact within_mapValue_ok)
  have served : Reads (step (budget + 6)) declared
      (methods.flatMap fun each => [.message 2 Method.declared each.parts])
      { name? } { name?, methods } :=
    reads_flatMap skips (fun methods => { name?, methods }) fun _ each _ =>
      reads_message skips (by decide) (each.reads budget) within_mapValue_ok
  exact named.append served

end Service

/-! ### Files -/

namespace Message

theorem skips (budget : Nat) : Skips (step (budget + 1)) declared := by
  refine skips_of_unknown budget fun key value bytes undeclared => ?_
  unfold step stepWith
  split <;> simp_all [declared]

/-- A message is read when the budget is at least its depth: one for each message within, and one for
a field that is passed over. -/
theorem reads {budget : Nat} {message : Message} (shallow : message.depth ≤ budget) :
    Reads (step budget) declared message.parts {} message := by
  induction budget generalizing message with
  | zero => exact absurd message.depth_pos (Nat.not_lt.2 shallow)
  | succ budget ih =>
      have inner : ∀ each ∈ message.nested, each.depth ≤ budget := fun each member =>
        Nat.le_of_lt_succ (Nat.lt_of_lt_of_le (depth_lt_of_mem member) shallow)
      obtain ⟨name?, nested⟩ := message
      have skips := skips budget
      have named : Reads (step (budget + 1)) declared (textParts? 1 name?) {} { name? } :=
        reads_textParts? skips (by decide) (by rintro rfl; rfl)
          (by rintro _ _ _ rfl; exact within_mapValue_ok)
      have within : Reads (step (budget + 1)) declared
          (nested.flatMap fun each => [.message 3 declared each.parts])
          { name? } { name?, nested } :=
        reads_flatMap skips (fun nested => { name?, nested }) fun _ each member =>
          reads_message skips (by decide) (ih (inner each member)) within_mapValue_ok
      rw [parts, nestedParts_eq_flatMap]
      exact named.append within

end Message

namespace FileOptions

theorem skips (budget : Nat) : Skips (step (budget + 1)) declared := by
  refine skips_of_unknown budget fun key value bytes undeclared => ?_
  unfold step
  split <;> simp_all [declared]

theorem reads (budget : Nat) (options : FileOptions) :
    Reads (step (budget + 1)) declared options.parts {} options := by
  obtain ⟨goPackage?⟩ := options
  exact reads_textParts? (skips budget) (by decide) (by rintro rfl; rfl)
    (by rintro _ _ _ rfl; exact within_mapValue_ok)

end FileOptions

namespace File

theorem skips (budget : Nat) : Skips (step (budget + 1)) declared := by
  refine skips_of_unknown budget fun key value bytes undeclared => ?_
  unfold step
  split <;> simp_all [declared]

theorem reads {budget : Nat} {file : File}
    (shallow : ∀ message ∈ file.messages, message.depth ≤ budget + 6) :
    Reads (step (budget + 7)) declared file.parts {} file := by
  obtain ⟨name?, package?, messages, services, options?⟩ := file
  have skips := skips (budget + 6)
  have named : Reads (step (budget + 7)) declared (textParts? 1 name?) {} { name? } :=
    reads_textParts? skips (by decide) (by rintro rfl; rfl)
      (by rintro _ _ _ rfl; exact within_mapValue_ok)
  have packaged : Reads (step (budget + 7)) declared (textParts? 2 package?) { name? }
      { name?, package? } :=
    reads_textParts? skips (by decide) (by rintro rfl; rfl)
      (by rintro _ _ _ rfl; exact within_mapValue_ok)
  have declaring : Reads (step (budget + 7)) declared
      (messages.flatMap fun each => [.message 4 Message.declared each.parts])
      { name?, package? } { name?, package?, messages } :=
    reads_flatMap skips (fun messages => { name?, package?, messages }) fun _ each member =>
      reads_message skips (by decide) (Message.reads (shallow each member)) within_mapValue_ok
  have serving : Reads (step (budget + 7)) declared
      (services.flatMap fun each => [.message 6 Service.declared each.parts])
      { name?, package?, messages } { name?, package?, messages, services } :=
    reads_flatMap skips (fun services => { name?, package?, messages, services }) fun _ each _ =>
      reads_message skips (by decide) (each.reads budget) within_mapValue_ok
  have optional : Reads (step (budget + 7)) declared
      (messageParts? 8 FileOptions.declared FileOptions.parts options?)
      { name?, package?, messages, services } { name?, package?, messages, services, options? } :=
    reads_messageParts? skips (by decide) (fun each _ => each.reads (budget + 5))
      (by rintro rfl; rfl) (by rintro _ _ _ rfl; exact within_mapValue_ok)
  exact (((named.append packaged).append declaring).append serving).append optional

end File

namespace Request

theorem skips (budget : Nat) : Skips (step (budget + 1)) declared := by
  refine skips_of_unknown budget fun key value bytes undeclared => ?_
  unfold step
  split <;> simp_all [declared]

theorem reads {budget : Nat} {request : Request}
    (shallow : ∀ file ∈ request.files, ∀ message ∈ file.messages, message.depth ≤ budget + 6) :
    Reads (step (budget + 8)) declared request.parts {} request := by
  obtain ⟨fileNames, parameter?, files⟩ := request
  have skips := skips (budget + 7)
  have asked : Reads (step (budget + 8)) declared
      (fileNames.flatMap fun name => [.plain (writeText 1 name)]) {} { fileNames } :=
    reads_flatMap skips (fun fileNames => { fileNames }) fun _ _ _ =>
      reads_text skips (by decide) within_mapValue_ok
  have settings : Reads (step (budget + 8)) declared (textParts? 2 parameter?) { fileNames }
      { fileNames, parameter? } :=
    reads_textParts? skips (by decide) (by rintro rfl; rfl)
      (by rintro _ _ _ rfl; exact within_mapValue_ok)
  have parsed : Reads (step (budget + 8)) declared
      (files.flatMap fun each => [.message 15 File.declared each.parts])
      { fileNames, parameter? } { fileNames, parameter?, files } :=
    reads_flatMap skips (fun files => { fileNames, parameter?, files }) fun _ each member =>
      reads_message skips (by decide) (File.reads (shallow each member)) within_mapValue_ok
  exact (asked.append settings).append parsed

/-- A request is read back from its own encoding. -/
theorem decode_encode {request : Request}
    (shallow : ∀ file ∈ request.files, ∀ message ∈ file.messages, message.depth ≤ 98)
    (small : request.encode.length < 2 ^ 64) : decode request.encode = .ok request := by
  have padded := padded_writeParts declared request.parts
  rw [writeParts_parts] at padded
  exact decodeMessage_of_merges (reads shallow request.encode padded small)

end Request

/-! ### Requests -/

/-- The encoding of a request is its fields, and from them the request is read back, whatever fields
of other numbers stand among those of the request and of the messages in it. -/
theorem decode_of_padded {request : Request}
    (shallow : ∀ file ∈ request.files, ∀ message ∈ file.messages, message.depth ≤ 98) :
    writeParts request.parts = request.encode ∧
      (∀ bytes : Bytes, Padded Request.declared request.parts bytes → bytes.length < 2 ^ 64 →
        Request.decode bytes = .ok request) ∧
      (request.encode.length < 2 ^ 64 → Request.decode request.encode = .ok request) := by
  have written := request.writeParts_parts
  have reading : ∀ bytes : Bytes, Padded Request.declared request.parts bytes →
      bytes.length < 2 ^ 64 → Request.decode bytes = .ok request := by
    intro bytes padded small
    have run : Merges (Request.step recursionBudget) {} bytes request :=
      Request.reads shallow bytes padded small
    exact decodeMessage_of_merges run
  refine ⟨written, reading, fun small => ?_⟩
  have unpadded := padded_writeParts Request.declared request.parts
  rw [written] at unpadded
  exact reading request.encode unpadded small

/-- A service whose one method is deployed with options that say little: a negative timeout, and a
limit of nothing for a resource without a name. -/
def Service.terse : Service :=
  .named "S"
    [(Method.named "M" "" "").withDeployOptions
      { timeoutSeconds := -1, resources? := some { limits := .ofList [("", "")] } }]

/-- A request for a file that declares a message inside a message, and a service. -/
def Request.nested : Request where
  fileNames := ["a.proto"]
  files :=
    [((File.named "a.proto" "").withMessage
      ((Message.named "Outer").withNested (.named "Inner"))).withService .terse]

/-- A field in front of the request and one behind the name of the innermost message are passed
over. -/
theorem decode_of_padded_nested :
    let request := Request.nested
    let extra := writeNumber 7 300
    let inner := writeText 1 "Inner" ++ extra
    let outer := writeText 1 "Outer" ++ writeBytes 3 inner
    let file := writeText 1 "a.proto" ++ (writeText 2 "" ++
      (writeBytes 4 outer ++ writeBytes 6 Service.terse.encode))
    let bytes := extra ++ (writeText 1 "a.proto" ++ writeBytes 15 file)
    (∀ file ∈ request.files, ∀ message ∈ file.messages, message.depth ≤ 98) ∧
      Padded Request.declared request.parts bytes ∧ bytes.length < 2 ^ 64 ∧
      bytes.length ≠ request.encode.length ∧ Request.decode bytes = .ok request := by
  intro request extra inner outer file bytes
  have shallow : ∀ file ∈ request.files, ∀ message ∈ file.messages, message.depth ≤ 98 := by
    decide
  have whole : IsField 7 extra :=
    .varint (isVarint_writeKey (by decide)) (isVarint_varint (by decide))
  have innerPadded : Padded Message.declared [.plain (writeText 1 "Inner")] inner := by
    have last : Padded Message.declared [] (extra ++ []) :=
      Padded.extra (by decide) (by decide) whole .nil
    rw [List.append_nil] at last
    exact Padded.plain last
  have outerPadded : Padded Message.declared (Message.parts ⟨"Outer", [.named "Inner"]⟩) outer := by
    have last : Padded Message.declared _ (writeBytes 3 inner ++ []) :=
      Padded.message innerPadded .nil
    rw [List.append_nil] at last
    exact Padded.plain last
  have service : Padded Service.declared Service.terse.parts Service.terse.encode := by
    rw [← Service.writeParts_parts]
    exact padded_writeParts Service.declared Service.terse.parts
  have filePadded : Padded File.declared
      [.plain (writeText 1 "a.proto"), .plain (writeText 2 ""),
        .message 4 Message.declared (Message.parts ⟨"Outer", [.named "Inner"]⟩),
        .message 6 Service.declared Service.terse.parts] file := by
    have last : Padded File.declared _ (writeBytes 6 Service.terse.encode ++ []) :=
      Padded.message service .nil
    rw [List.append_nil] at last
    exact Padded.plain (.plain (.message outerPadded last))
  have padded : Padded Request.declared request.parts bytes := by
    have last : Padded Request.declared _ (writeBytes 15 file ++ []) :=
      Padded.message filePadded .nil
    rw [List.append_nil] at last
    exact Padded.extra (by decide) (by decide) whole (.plain last)
  have small : bytes.length < 2 ^ 64 := by decide
  have longer : bytes.length ≠ request.encode.length := by decide
  exact ⟨shallow, padded, small, longer, (decode_of_padded shallow).2.1 bytes padded small⟩

end MethodForge.Schema

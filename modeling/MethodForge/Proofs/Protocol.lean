/-
Module: MethodForge.Proofs.Protocol
Purpose: One request, one answer, all or nothing. A sink either takes all bytes or fails somewhere
  among them, however many it takes at a time. A run writes nothing before it has read its request,
  and then the one answer that the request gets; it succeeds exactly when the sink has taken all of
  that answer and was flushed. What a successful run has written is read back as an error without
  files or as files without an error, and with none but the five generators there is one file.
Main exports: Sink.write_cases, dispatch_files, dispatch_isProper, Sink.finish_cases, deliver_growing,
  serve_answers_once
-/
import MethodForge.Proofs.PlannedAgreement
import MethodForge.Proofs.Response
import MethodForge.Proofs.Schema.Decoding

namespace MethodForge

open Schema (Request)
open Text (Bytes)

/-! ### Sinks -/

namespace Sink

/-- Whether a sink fails with a message when it has taken some bytes and others are left. -/
def FailsAt (sink : Sink) (before left : Nat) (message : String) : Prop :=
  sink.take before left = .error message ∨
    sink.take before left = .ok 0 ∧ message = "failed to write whole buffer"

/-- Whether a sink takes at least one byte of those it is offered, whenever it is offered some. -/
def Accepts (sink : Sink) : Prop :=
  ∀ before left, 0 < left → ∃ taken, sink.take before left = .ok (taken + 1)

theorem Accepts.not_failsAt {sink : Sink} (accepts : sink.Accepts) {before left : Nat}
    (some : 0 < left) (message : String) : ¬ sink.FailsAt before left message := by
  obtain ⟨taken, accepted⟩ := accepts before left some
  rintro (failed | ⟨failed, -⟩)
  · rw [accepted] at failed
    cases failed
  · rw [accepted] at failed
    cases failed

/-- Where bytes are left, no more have been taken than were there. -/
theorem length_take_of_drop {count : Nat} {bytes written left : Bytes} (nonempty : left ≠ [])
    (split : bytes.drop count = written ++ left) : (bytes.take count).length = count := by
  have more : 0 < left.length := List.length_pos_iff.2 nonempty
  have lengths := congrArg List.length split
  rw [List.length_drop, List.length_append] at lengths
  rw [List.length_take]
  omega

/-- From a place on, all bytes are written, or the sink fails behind some of them. -/
theorem writeFrom_cases (sink : Sink) {steps : Nat} (before : Nat) {bytes : Bytes}
    (enough : bytes.length ≤ steps) :
    sink.writeFrom steps before bytes = (bytes, none) ∨
      ∃ written left message, left ≠ [] ∧ bytes = written ++ left ∧
        sink.FailsAt (before + written.length) left.length message ∧
        sink.writeFrom steps before bytes = (written, some message) := by
  -- Each write takes a byte at least, so the steps never run out before the bytes do.
  induction steps generalizing before bytes with
  | zero =>
      obtain rfl := List.length_eq_zero_iff.1 (Nat.le_zero.1 enough)
      exact .inl (by rw [writeFrom])
  | succ steps ih =>
      cases bytes with
      | nil => exact .inl (by rw [writeFrom])
      | cons byte rest =>
          rw [writeFrom]
          cases offered : sink.take before (byte :: rest).length with
          | error message =>
              exact .inr ⟨[], _, message, List.cons_ne_nil _ _, rfl, .inl offered, rfl⟩
          | ok count =>
              cases count with
              | zero =>
                  exact .inr ⟨[], _, _, List.cons_ne_nil _ _, rfl, .inr ⟨offered, rfl⟩, rfl⟩
              | succ taken =>
                  have fewer : ((byte :: rest).drop (taken + 1)).length ≤ steps := by
                    rw [List.length_cons] at enough
                    rw [List.length_drop, List.length_cons]
                    omega
                  rcases ih (before + (taken + 1)) fewer with
                    all | ⟨written, left, message, nonempty, split, fails, run⟩
                  · left
                    simp only [all, List.take_append_drop]
                  · refine .inr ⟨(byte :: rest).take (taken + 1) ++ written, left, message,
                      nonempty, ?_, ?_, ?_⟩
                    · rw [List.append_assoc, ← split, List.take_append_drop]
                    · rw [List.length_append, length_take_of_drop nonempty split, ← Nat.add_assoc]
                      exact fails
                    · simp only [run]

/-- All bytes are written, or the sink fails behind some of them. -/
theorem write_cases (sink : Sink) (bytes : Bytes) :
    sink.write bytes = (bytes, none) ∨
      ∃ written left message, left ≠ [] ∧ bytes = written ++ left ∧
        sink.FailsAt written.length left.length message ∧
        sink.write bytes = (written, some message) := by
  have cases := sink.writeFrom_cases 0 (Nat.le_refl bytes.length)
  simp only [Nat.zero_add] at cases
  rwa [write]

end Sink

/-! ### Answers -/

/-- An answer has files when a generator gives some. -/
theorem answerOf_eq_files {name : String} {generated : Generated} {files : List GeneratedFile}
    (answered : answerOf name generated = .files files) : files ≠ [] ∧ generated = .ok files := by
  cases generated with
  | error error => cases answered
  | ok found =>
      cases found with
      | nil => cases answered
      | cons first rest =>
          cases answered
          exact ⟨List.cons_ne_nil _ _, rfl⟩

/-- Files come from a generator that the request asks for, and there is at least one. -/
theorem dispatch_files {registry : Registry} {request : Request} {files : List GeneratedFile}
    (answered : (dispatch registry request).value = .files files) :
    files ≠ [] ∧ ∃ parameters generator, registry.lookup parameters.name = some generator ∧
      (generator.generate parameters request).value = .ok files := by
  cases decoded : Parameters.decode request.parameter with
  | error error =>
      rw [dispatch, decoded] at answered
      cases answered
  | ok parameters =>
      cases known : registry.lookup parameters.name with
      | none =>
          rw [dispatch, decoded, Log.Logged.value_bind, known] at answered
          cases answered
      | some generator =>
          rw [dispatch_eq_answerOf decoded known] at answered
          obtain ⟨nonempty, generated⟩ := answerOf_eq_files answered
          exact ⟨nonempty, parameters, generator, known, generated⟩

theorem dispatch_isProper (registry : Registry) (request : Request) :
    (dispatch registry request).value.IsProper := by
  intro answered
  exact (dispatch_files answered).1 rfl

/-- Without any but the five generators, a successful answer is one file. -/
theorem dispatch_one_file {registry : Registry} {toolchain : Toolchain}
    (only : registry.HoldsOnly (builtinGenerators toolchain)) {request : Request}
    {files : List GeneratedFile} (answered : (dispatch registry request).value = .files files) :
    ∃ file, files = [file] := by
  obtain ⟨-, parameters, generator, known, generated⟩ := dispatch_files answered
  exact generate_one (only _ _ known) generated

/-! ### Runs -/

/-- An answer is written whole and the sink flushed, or it is written whole and the flush fails, or
the sink fails behind a part of the answer. -/
theorem Sink.finish_cases (sink : Sink) (bytes : Bytes) :
    (sink.finish bytes = ⟨bytes, .ok ()⟩ ∧ sink.flushFailure? = none) ∨
      (∃ message, sink.finish bytes = ⟨bytes, .error (.write message)⟩ ∧
        sink.flushFailure? = some message) ∨
      ∃ written left message, left ≠ [] ∧ bytes = written ++ left ∧
        sink.FailsAt written.length left.length message ∧
        sink.finish bytes = ⟨written, .error (.write message)⟩ := by
  rw [Sink.finish]
  rcases sink.write_cases bytes with
    all | ⟨written, left, message, nonempty, split, fails, run⟩
  · rw [all]
    cases flushed : sink.flushFailure? with
    | none => exact .inl ⟨rfl, rfl⟩
    | some message => exact .inr (.inl ⟨message, rfl, rfl⟩)
  · rw [run]
    exact .inr (.inr ⟨written, left, message, nonempty, split, fails, rfl⟩)

/-- A buffer that grows takes every answer. -/
theorem deliver_growing (sink : Sink) (response : Response) :
    deliver .growing sink response = sink.finish response.encode := rfl

/-- How a run that has an answer ends: it succeeds exactly when all of the answer is written and the
sink is flushed, and it fails only where the sink does. -/
structure Delivered (sink : Sink) (response : Response) (outcome : Outcome) : Prop where
  ends : outcome.result = .ok () ∨ ∃ message, outcome.result = .error (.write message)
  succeeds_iff : outcome.result = .ok () ↔
    outcome.written = response.encode ∧ sink.flushFailure? = none
  fails : ∀ message, outcome.result = .error (.write message) →
    (outcome.written = response.encode ∧ sink.flushFailure? = some message) ∨
      ∃ left, left ≠ [] ∧ response.encode = outcome.written ++ left ∧
        sink.FailsAt outcome.written.length left.length message
  writes_all : sink.Accepts → outcome.written = response.encode

theorem delivered_finish (sink : Sink) (response : Response) :
    Delivered sink response (sink.finish response.encode) := by
  rcases sink.finish_cases response.encode with
    ⟨run, flushed⟩ | ⟨message, run, flushed⟩ | ⟨written, left, message, nonempty, split, fails, run⟩
  · rw [run]
    exact
      { ends := .inl rfl
        succeeds_iff := ⟨fun _ => ⟨rfl, flushed⟩, fun _ => rfl⟩
        fails := nofun
        writes_all := fun _ => rfl }
  · rw [run]
    have unflushed : sink.flushFailure? ≠ none := by
      rw [flushed]
      exact Option.some_ne_none message
    exact
      { ends := .inr ⟨message, rfl⟩
        succeeds_iff := ⟨nofun, fun all => absurd all.2 unflushed⟩
        fails := by
          rintro _ ⟨⟩
          exact .inl ⟨rfl, flushed⟩
        writes_all := fun _ => rfl }
  · rw [run]
    have short : written ≠ response.encode := by
      intro whole
      rw [← whole] at split
      exact nonempty (List.self_eq_append_right.1 split)
    exact
      { ends := .inr ⟨message, rfl⟩
        succeeds_iff := ⟨nofun, fun all => absurd all.1 short⟩
        fails := by
          rintro _ ⟨⟩
          exact .inr ⟨left, nonempty, split, fails⟩
        writes_all := fun accepts =>
          absurd fails (accepts.not_failsAt (List.length_pos_iff.2 nonempty) message) }

section

variable {registry : Registry} {source : Source} {sink : Sink}

theorem serve_of_unread {message : String} (failed : source.failure? = some message) :
    (serve registry source sink).value = ⟨[], .error (.read message)⟩ := by
  rw [serve, failed]
  rfl

variable (read : source.failure? = none)
include read

theorem serve_of_undecoded {error : Wire.DecodeError}
    (failed : Request.decode source.bytes = .error error) :
    (serve registry source sink).value = ⟨[], .error (.decode error)⟩ := by
  rw [serve, read]
  simp only [Log.Logged.value_bind, failed]
  rfl

theorem serve_of_decoded {request : Request}
    (decoded : Request.decode source.bytes = .ok request) :
    (serve registry source sink).value =
      sink.finish (dispatch registry request).value.encode := by
  rw [serve, read]
  simp only [Log.Logged.value_bind, decoded, Log.Logged.value_pure, deliver_growing]

end

/-- A run that cannot read or decode its request writes nothing and says which it is. Any other run
delivers the answer to its request, and what it has written when it succeeds is one answer on the
wire. A buffer that grows takes every answer, so a run never fails to encode; none in memory is as
long as `2 ^ 64`. -/
theorem serve_answers_once (registry : Registry) (source : Source) (sink : Sink) :
    let outcome := (serve registry source sink).value
    (∀ message, source.failure? = some message → outcome = ⟨[], .error (.read message)⟩) ∧
      (source.failure? = none → ∀ error, Request.decode source.bytes = .error error →
        outcome = ⟨[], .error (.decode error)⟩) ∧
      (source.failure? = none → ∀ request, Request.decode source.bytes = .ok request →
        let response := (dispatch registry request).value
        Delivered sink response outcome ∧
          (outcome.result = .ok () → response.encode.length < 2 ^ 64 →
            ∃ wire, outcome.written = wire.encode ∧
              WireResponse.decode outcome.written = .ok wire ∧ wire.Carries response ∧
              (wire.error?.isSome ↔ wire.files = []) ∧
              ∀ toolchain, registry.HoldsOnly (builtinGenerators toolchain) →
                wire.error? = none → wire.files.length = 1)) := by
  intro outcome
  refine ⟨fun message failed => serve_of_unread failed,
    fun read error failed => serve_of_undecoded read failed, ?_⟩
  intro read request decoded response
  have run : outcome = sink.finish response.encode := serve_of_decoded read decoded
  have delivered : Delivered sink response outcome := by
    rw [run]
    exact delivered_finish sink response
  refine ⟨delivered, fun succeeded small => ?_⟩
  have written : outcome.written = response.encode := (delivered.succeeds_iff.1 succeeded).1
  have readable : WireResponse.decode outcome.written = .ok response.toWire := by
    rw [written]
    exact Response.decode_encode small
  have carries : response.toWire.Carries response :=
    Response.carries_toWire (dispatch_isProper registry request)
  refine ⟨response.toWire, written, readable, carries, carries.error_iff, ?_⟩
  intro toolchain only fine
  obtain ⟨generated, answered, counted⟩ := carries.files_of_fine fine
  obtain ⟨file, rfl⟩ := dispatch_one_file only answered
  exact counted

/-- The request for the directives of every method, of which there is none. -/
def Schema.Request.forMethods : Request where
  parameter? := some (Parameters.encode { name := "methods" })

/-- The sink that takes a byte at a time. -/
def Sink.bytewise : Sink where
  take := fun _ _ => .ok 1

/-- The file of directives is written byte by byte. -/
theorem serve_answers_once_methods :
    let source : Source := { bytes := Request.forMethods.encode }
    let outcome := (serve (Registry.builtin default).value source .bytewise).value
    outcome.result = .ok () ∧ ∃ wire, outcome.written = wire.encode ∧
      WireResponse.decode outcome.written = .ok wire ∧ wire.error? = none ∧
        wire.files.length = 1 := by
  intro source outcome
  have decoded : Request.decode source.bytes = .ok .forMethods :=
    Request.decode_encode (by decide) (by decide +kernel)
  let parameters : Parameters := { name := "methods" }
  have asked : Parameters.decode Request.forMethods.parameter = .ok parameters :=
    Parameters.decode_encode_of_isWhole (by decide)
  have member : methodsGenerator default ∈ builtinGenerators default := by
    simp [builtinGenerators]
  have known : (Registry.builtin default).value.lookup "methods" = some (methodsGenerator default) :=
    Registry.lookup_claimAll (Registry.claimAll_builtin default) member
  have answered := dispatch_of_decode asked known (methodsGenerator_every rfl)
  obtain ⟨delivered, readable⟩ :=
    (serve_answers_once (Registry.builtin default).value source .bytewise).2.2 rfl _ decoded
  rw [answered] at delivered readable
  have accepts : Sink.bytewise.Accepts := fun _ _ _ => ⟨0, rfl⟩
  have succeeded : outcome.result = .ok () :=
    delivered.succeeds_iff.2 ⟨delivered.writes_all accepts, rfl⟩
  obtain ⟨wire, written, decodes, carries, -, single⟩ := readable succeeded (by decide +kernel)
  have fine : wire.error? = none := by
    cases carries with
    | files fine => exact fine
  have one := single default (Registry.holdsOnly_builtin default) fine
  exact ⟨succeeded, wire, written, decodes, fine, one⟩

end MethodForge

/-
Module: MethodForge.Protocol
Purpose: One run as a plugin: one request in, one answer out. The request names its generator in its
  settings. Whatever goes wrong on the way to the files becomes an error in the answer; only a
  request that cannot be read and an answer that cannot be written are failures of the run itself.
  Where the bytes come from and go to is given as data: a source yields all its bytes and may then
  fail, a buffer has a limit or grows, and a sink says how many bytes it takes at each write.
Main exports: dispatch, Source, Buffer, Sink, TransportError, serve
-/
import MethodForge.Registry
import MethodForge.Schema.Codec

namespace MethodForge

open Log (Event Logged)
open Schema (Request)
open Text (Bytes)

/-- The answer to a request. -/
def dispatch (registry : Registry) (request : Request) : Logged Response :=
  match Parameters.decode request.parameter with
  | .error error => do
      Logged.tell (.note .warn .protocol s!"rejecting request: {error.message}")
      return .failure s!"invalid plugin parameter: {error.message}"
  | .ok parameters => do
      Logged.tell (.note .debug .protocol "decoded plugin parameter"
        [⟨"parameters", parameters.describe⟩])
      match registry.lookup parameters.name with
      | none => do
          Logged.tell
            (.note .warn .protocol "no such generator" [⟨"generator", parameters.name⟩])
          return .failure s!"Unrecognized plugin {Text.quoted parameters.name}"
      | some generator =>
          match ← generator.generate parameters request with
          | .error error => do
              Logged.tell (.note .warn .protocol s!"{parameters.display} failed: {error.message}")
              return .failure error.message
          | .ok [] =>
              return .failure s!"generator {Text.quoted parameters.name} produced no files"
          | .ok (first :: rest) => do
              Logged.tell (.note .info .protocol s!"generated {parameters.display}"
                [.count "count" (rest.length + 1)])
              return .files (first :: rest)

/-- Where a request comes from. -/
structure Source where
  bytes : Bytes
  /-- The message of the failure that comes after the bytes. -/
  failure? : Option String := none
deriving Repr

/-- Where the bytes of an answer are put together before they are written. -/
structure Buffer where
  /-- How many bytes there is room for; a buffer without a limit grows. -/
  limit? : Option Nat
deriving Repr, DecidableEq

/-- Why an answer does not go into a buffer. -/
structure EncodeError where
  required : Nat
  remaining : Nat
deriving Repr, DecidableEq

/-- The message of an error. -/
def EncodeError.message (error : EncodeError) : String :=
  "failed to encode Protobuf message; insufficient buffer capacity " ++
    s!"(required: {error.required}, remaining: {error.remaining})"

namespace Buffer

/-- The buffer that a run uses. -/
def growing : Buffer where
  limit? := none

/-- Puts the bytes of an answer into an empty buffer. -/
def fill (buffer : Buffer) (response : Response) : Except EncodeError Bytes :=
  match buffer.limit? with
  | none => .ok response.encode
  | some limit =>
      if limit < response.encode.length then .error ⟨response.encode.length, limit⟩
      else .ok response.encode

end Buffer

/-- Where an answer goes to. -/
structure Sink where
  /-- How many bytes are taken of those offered, at most all of them, or the message of a failure.
  The first number says how many have been taken before. -/
  take : Nat → Nat → Except String Nat
  /-- The message of a failure when the sink is flushed. -/
  flushFailure? : Option String := none

namespace Sink

/-- The sink that takes everything. -/
def all : Sink where
  take := fun _ offered => .ok offered

/-- Writes bytes until none is left, and gives those that were written and the message of a failure.
A sink that takes nothing fails. Each write takes a byte at least, so one step for each byte is
enough. -/
def writeFrom (sink : Sink) : Nat → Nat → Bytes → Bytes × Option String
  | _, _, [] => ([], none)
  | 0, _, _ :: _ => ([], some "failed to write whole buffer")
  | steps + 1, before, byte :: rest =>
      let bytes := byte :: rest
      match sink.take before bytes.length with
      | .error message => ([], some message)
      | .ok 0 => ([], some "failed to write whole buffer")
      | .ok (taken + 1) =>
          let (written, failure?) :=
            writeFrom sink steps (before + (taken + 1)) (bytes.drop (taken + 1))
          (bytes.take (taken + 1) ++ written, failure?)

/-- Writes all bytes. -/
def write (sink : Sink) (bytes : Bytes) : Bytes × Option String :=
  sink.writeFrom bytes.length 0 bytes

end Sink

/-- A failure of a run itself. -/
inductive TransportError where
  | read (message : String)
  | decode (error : Wire.DecodeError)
  | encode (error : EncodeError)
  | write (message : String)
deriving Repr, DecidableEq

/-- The message of a failure. -/
def TransportError.message : TransportError → String
  | .read message => "failed to read request: " ++ message
  | .decode error => "failed to decode request: " ++ error.message
  | .encode error => "failed to encode response: " ++ error.message
  | .write message => "failed to write response: " ++ message

/-- What a run has written, and how it ended. -/
structure Outcome where
  written : Bytes
  result : Except TransportError Unit
deriving Repr

/-- Writes the bytes of an answer and flushes the sink. -/
def Sink.finish (sink : Sink) (bytes : Bytes) : Outcome :=
  match sink.write bytes with
  | (written, some message) => ⟨written, .error (.write message)⟩
  | (written, none) =>
      match sink.flushFailure? with
      | some message => ⟨written, .error (.write message)⟩
      | none => ⟨written, .ok ()⟩

/-- Puts an answer together and writes it. -/
def deliver (buffer : Buffer) (sink : Sink) (response : Response) : Outcome :=
  match buffer.fill response with
  | .error error => ⟨[], .error (.encode error)⟩
  | .ok bytes => sink.finish bytes

/-- Reads one request and writes the answer to it. -/
def serve (registry : Registry) (source : Source) (sink : Sink) : Logged Outcome :=
  match source.failure? with
  | some message => return ⟨[], .error (.read message)⟩
  | none => do
      Logged.tell (.note .trace .protocol "read request" [.count "bytes" source.bytes.length])
      match Request.decode source.bytes with
      | .error error => return ⟨[], .error (.decode error)⟩
      | .ok request => do
          let response ← dispatch registry request
          Logged.tell (.note .trace .protocol "writing response"
            [.flag "error" response.isFailure])
          return deliver .growing sink response

end MethodForge

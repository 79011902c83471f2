/-
Module: Bytemark.Resolver
Purpose: Choosing the encoding of a stream from the octets it begins with.
Trusted boundary: none
Main exports: ProbePolicy, Resolution, Resolver, Resolver.probe, Resolver.resolve
-/
import Bytemark.Log
import Bytemark.Stream.Pushback

namespace Bytemark

/-!
The resolver reads a window of octets, looks for a signature in it and puts
back whatever is content.  Afterwards the stream stands on its first octet of
content, whether or not there was a signature and whether or not the window
could be read in full.
-/

/-- What to do when the window cannot be read. -/
inductive ProbePolicy where
  /-- Report the failure. -/
  | fail
  /-- Note it and go on with the default encoding. -/
  | useDefault
deriving Repr, Inhabited, DecidableEq

/-- The spelling of a policy in settings. -/
def ProbePolicy.label : ProbePolicy → String
  | .fail => "fail"
  | .useDefault => "use-default"

/-- The encoding of a stream, and the signature that gave it away. -/
structure Resolution where
  encoding : Encoding
  signature : Option Signature
deriving Repr, Inhabited, DecidableEq

namespace Resolution

/-- Whether the stream began with a signature. -/
def hasSignature (resolution : Resolution) : Bool := resolution.signature.isSome

/-- Octets of the stream that are no content. -/
def signatureLength (resolution : Resolution) : Nat :=
  match resolution.signature with
  | some signature => signature.octets.length
  | none => 0

/-- What octets at the start of a stream say about its encoding. -/
def ofOctets (octets : Octets) (default : Encoding) : Resolution :=
  match Signature.detect octets with
  | some signature => ⟨signature.encoding, some signature⟩
  | none => ⟨default, none⟩

end Resolution

/-- Settings of the search for a signature. -/
structure Resolver where
  defaultEncoding : Encoding := default
  policy : ProbePolicy := .fail
  logger : Logger := .silent
deriving Repr, Inhabited, DecidableEq

/-- The answer of a resolver, the stream after it and the messages it sent. -/
structure Resolved where
  result : Except IoError Resolution
  stream : Pushback
  log : List Log.Entry
deriving Repr, Inhabited

/-- The window as far as it could be read, and what stopped it early. -/
structure Probe where
  window : Octets
  failure : Option IoError
  stream : Pushback
deriving Repr, Inhabited

namespace Resolver

/-- Reads on behind what the window holds, until it is full or the stream ends
or fails.  An interrupted read is repeated. -/
def probe (stream : Pushback) (window : Octets) : Probe :=
  if window.length < Signature.windowSize then
    match reading : stream.read (Signature.windowSize - window.length) with
    | (.ok [], after) => ⟨window, none, after⟩
    | (.ok (octet :: octets), after) =>
        have := Pushback.weight_lt_of_read reading (by simp)
        probe after (window ++ octet :: octets)
    | (.error .interrupted, after) =>
        have := Pushback.weight_lt_of_read_error reading
        probe after window
    | (.error cause, after) => ⟨window, some cause, after⟩
  else ⟨window, none, stream⟩
termination_by stream.weight

/-- The policy's answer to a failure. -/
def afterFailure (resolver : Resolver) (cause : IoError) :
    Except IoError Resolution × List Log.Entry :=
  match resolver.policy with
  | .fail => (.error cause, [])
  | .useDefault =>
      (.ok ⟨resolver.defaultEncoding, none⟩,
        resolver.logger.record .warn
          (s!"signature probe failed ({cause.message}), using default encoding " ++
            resolver.defaultEncoding.label))

/-- The message about a resolution. -/
def resolvedMessage (resolution : Resolution) (probed : Nat) : String :=
  s!"resolved encoding {resolution.encoding.label} " ++
    s!"(bom: {resolution.hasSignature}, probed {probed} bytes)"

/-- Resolves the encoding of a stream and leaves it on its first octet of
content. -/
def resolve (resolver : Resolver) (stream : Pushback) : Resolved :=
  let ⟨window, failure, probed⟩ := probe stream []
  match failure with
  | some cause =>
      match probed.unread window with
      | (.error refusal, after) => ⟨.error refusal, after, []⟩
      | (.ok (), after) =>
          let (result, log) := resolver.afterFailure cause
          ⟨result, after, log⟩
  | none =>
      let resolution := Resolution.ofOctets window resolver.defaultEncoding
      match probed.unread (window.drop resolution.signatureLength) with
      | (.error refusal, after) => ⟨.error refusal, after, []⟩
      | (.ok (), after) =>
          ⟨.ok resolution, after,
            resolver.logger.record .debug (resolvedMessage resolution window.length)⟩

end Resolver

end Bytemark

/-
Module: Bytemark.Stream.Source
Purpose: Byte streams as scripts of what their reads will deliver.
Trusted boundary: none
Main exports: Step, Source, Source.weight, Source.octets, Source.size, Source.read, Drained,
  Source.drain
-/
import Bytemark.Stream.IoError

namespace Bytemark

/-!
A stream is known by what its reads deliver, so it is a script: portions of
data of any size with failures between them.  A regular file that nobody
changes is a script with one portion.  The weight of a script bounds the reads
that can still deliver something; every loop over a stream ends by it.
-/

/-- One event of a stream. -/
inductive Step where
  | data (octets : Octets)
  | failure (cause : IoError)
deriving Repr, Inhabited, DecidableEq

/-- How many octets a step holds. -/
def Step.size : Step → Nat
  | .data octets => octets.length
  | .failure _ => 0

/-- Reads that a step can serve at most. -/
def Step.weight : Step → Nat
  | .data octets => octets.length + 1
  | .failure _ => 1

/-- The events that are still to come; afterwards the stream is at its end. -/
structure Source where
  steps : List Step
deriving Repr, Inhabited, DecidableEq

namespace Source

/-- A stream that delivers these octets at once and then ends. -/
def ofOctets : Octets → Source
  | [] => ⟨[]⟩
  | octets => ⟨[.data octets]⟩

/-- Reads that can still deliver something. -/
def weight (source : Source) : Nat :=
  source.steps.foldr (fun step total => step.weight + total) 0

/-- Every octet of the script, failures aside. -/
def octets (source : Source) : Octets :=
  source.steps.flatMap fun
    | .data octets => octets
    | .failure _ => []

/-- How many octets the script holds. -/
def size (source : Source) : Nat :=
  source.steps.foldr (fun step total => step.size + total) 0

/-- What is left of a portion after its first octets were read. -/
def putRest (rest : List Step) : Octets → Source
  | [] => ⟨rest⟩
  | left => ⟨.data left :: rest⟩

/-- One read into a buffer of `size` octets.  A portion that does not fit stays
in front; a portion without octets looks like the end of the stream once. -/
def read (source : Source) (size : Nat) : Except IoError Octets × Source :=
  if size = 0 then (.ok [], source)
  else
    match source.steps with
    | [] => (.ok [], source)
    | .failure cause :: rest => (.error cause, ⟨rest⟩)
    | .data octets :: rest => (.ok (octets.take size), putRest rest (octets.drop size))

@[simp] theorem size_ofOctets (octets : Octets) : (ofOctets octets).size = octets.length := by
  cases octets <;> simp [ofOctets, size, Step.size]

@[simp] theorem weight_nil : weight ⟨[]⟩ = 0 := rfl

@[simp] theorem weight_cons (step : Step) (rest : List Step) :
    weight ⟨step :: rest⟩ = step.weight + weight ⟨rest⟩ := by
  simp [weight]

theorem weight_putRest_le (rest : List Step) (left : Octets) :
    (putRest rest left).weight ≤ left.length + 1 + weight ⟨rest⟩ := by
  cases left <;> simp [putRest, Step.weight]

/-- A read delivers no more than was asked for. -/
theorem length_le_of_read {source after : Source} {size : Nat} {octets : Octets}
    (delivered : source.read size = (.ok octets, after)) : octets.length ≤ size := by
  unfold read at delivered
  split at delivered
  · cases delivered
    simp
  · split at delivered
    · cases delivered
      simp
    · cases delivered
    · cases delivered
      exact List.length_take_le _ _

/-- A read makes the stream lighter by what it delivers. -/
theorem weight_add_length_le_of_read {source after : Source} {size : Nat} {octets : Octets}
    (delivered : source.read size = (.ok octets, after)) :
    after.weight + octets.length ≤ source.weight := by
  unfold read at delivered
  split at delivered
  · cases delivered
    simp
  · obtain ⟨steps⟩ := source
    cases steps with
    | nil =>
        cases delivered
        simp
    | cons step rest =>
        cases step with
        | failure cause => cases delivered
        | data portion =>
            cases delivered
            cases dropped : portion.drop size with
            | nil =>
                simp only [putRest, weight_cons, Step.weight, List.length_take]
                omega
            | cons head tail =>
                have left := List.length_drop (l := portion) (i := size)
                rw [dropped] at left
                simp only [putRest, weight_cons, Step.weight, List.length_take,
                  List.length_cons] at *
                omega

/-- A read that fails makes the stream lighter. -/
theorem weight_lt_of_read_error {source after : Source} {size : Nat} {cause : IoError}
    (failed : source.read size = (.error cause, after)) : after.weight < source.weight := by
  unfold read at failed
  split at failed
  · cases failed
  · obtain ⟨steps⟩ := source
    cases steps with
    | nil => cases failed
    | cons step rest =>
        cases step with
        | failure cause =>
            cases failed
            simp [Step.weight]
        | data portion => cases failed

end Source

/-- What reading a stream to its end delivered, and the failure that stopped it
before the end, if one did. -/
structure Drained where
  octets : Octets
  failure : Option IoError
deriving Repr, Inhabited, DecidableEq

namespace Source

/-- Reads on to the end behind what was `seen`, last octet first.  Interrupted
reads are repeated; any other failure stops the reading. -/
def drainFrom (seen : Octets) : List Step → Drained × Source
  | [] => (⟨seen.reverse, none⟩, ⟨[]⟩)
  | .data [] :: rest => (⟨seen.reverse, none⟩, ⟨rest⟩)
  | .data octets :: rest => drainFrom (octets.reverse ++ seen) rest
  | .failure .interrupted :: rest => drainFrom seen rest
  | .failure cause :: rest => (⟨seen.reverse, some cause⟩, ⟨rest⟩)

/-- Reads to the end. -/
def drain (source : Source) : Drained × Source :=
  drainFrom [] source.steps

end Source

end Bytemark

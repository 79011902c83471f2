/-
Module: Bytemark.Proofs.PutBackStreams
Purpose: A stream that takes octets back is those octets in front of its source.
Trusted boundary: none
Main exports: answersOf, answersOf_alike, Pushback.Call, Fronted, Fronted.answer,
  Pushback.fronted_answer, Pushback.fronted_answers, Pushback.Yields, Pushback.yields_script,
  put_back_octets_come_first
-/
import Bytemark.Proofs.ProbedStreams

namespace Bytemark

/-!
Seen from outside, the slots of a stream and the two positions in them are a list of
octets in front of the source.  Reads take from the list first, and octets that are
put back are put in front of it.  One call keeps the stream and this view of it
together, so any number of calls does.
-/

/-! ### One call after the other -/

section Calls

variable {κ ρ σ τ : Type}

/-- What calls answer one after the other, and what they leave, where one call is
answered by `answer`. -/
def answersOf (answer : σ → κ → ρ × σ) (state : σ) : List κ → List ρ × σ
  | [] => ([], state)
  | call :: calls =>
      let (reply, after) := answer state call
      let (replies, last) := answersOf answer after calls
      (reply :: replies, last)

/-- Two that answer one call alike, and leave what is alike, do so however many calls
there are.  What is needed for it must not be made false by a call. -/
theorem answersOf_alike {answer : σ → κ → ρ × σ} {other : τ → κ → ρ × τ} (view : σ → τ)
    (kept : σ → Prop)
    (lasting : ∀ state call, kept state → kept (answer state call).2)
    (alike : ∀ state call, kept state →
      other (view state) call = ((answer state call).1, view (answer state call).2))
    {state : σ} (held : kept state) (calls : List κ) :
    answersOf other (view state) calls =
      ((answersOf answer state calls).1, view (answersOf answer state calls).2) := by
  induction calls generalizing state with
  | nil => rfl
  | cons call calls inductionHypothesis =>
      have rest := inductionHypothesis (lasting state call held)
      simp only [answersOf, alike state call held, rest]

end Calls

/-! ### Streams that take octets back -/

namespace Pushback

/-- A call on a stream that takes octets back. -/
inductive Call where
  | unread (octets : Octets)
  | read (size : Nat)
deriving Repr, DecidableEq

/-- What a call answers, and what it leaves.  Putting octets back delivers none. -/
def answer (stream : Pushback) : Call → Except IoError Octets × Pushback
  | .unread octets =>
      let (result, after) := stream.unread octets
      (result.map fun _ => [], after)
  | .read size => stream.read size

end Pushback

/-- A list of octets in front of a source. -/
structure Fronted where
  front : Octets
  source : Source
deriving Repr, DecidableEq

/-- What a call answers by the list.  The source is read only where the list is empty. -/
def Fronted.answer (stream : Fronted) : Pushback.Call → Except IoError Octets × Fronted
  | .unread octets =>
      if Signature.windowSize < stream.front.length + octets.length then
        (.error (.pushbackFull stream.front.length octets.length), stream)
      else (.ok [], { stream with front := octets ++ stream.front })
  | .read size =>
      if stream.front = [] then
        let (delivered, source) := stream.source.read size
        (delivered, { stream with source })
      else (.ok (stream.front.take size), { stream with front := stream.front.drop size })

namespace Pushback

/-- What is known of a stream from outside. -/
def fronted (stream : Pushback) : Fronted := ⟨stream.pending, stream.source⟩

theorem fronted_eq {stream : Pushback} {front : Octets} {source : Source}
    (pending : stream.pending = front) (same : stream.source = source) :
    stream.fronted = ⟨front, source⟩ := by
  rw [fronted, pending, same]

/-- A call answers by the list in front of the source, and leaves what it leaves of it. -/
theorem fronted_answer (stream : Pushback) (call : Call) :
    stream.fronted.answer call = ((stream.answer call).1, (stream.answer call).2.fronted) := by
  cases call with
  | unread octets =>
      rw [Fronted.answer, answer]
      rcases stream.unread_cases octets with ⟨full, refused⟩ | ⟨after, fits, putBack, front, source⟩
      · rw [refused]
        exact if_pos full
      · rw [putBack, fronted_eq front source]
        exact if_neg (Nat.not_lt_of_le fits)
  | read size =>
      rw [Fronted.answer, answer]
      rcases stream.read_cases size with
        ⟨result, after, none, reading, through, none'⟩ | ⟨after, some, front, behind, source⟩
      · rw [through, fronted_eq none' rfl]
        refine (if_pos none).trans ?_
        have inner : stream.fronted.source.read size = (result, after.source) := reading
        rw [inner]
        exact congrArg (fun front => (result, Fronted.mk front after.source)) none
      · rw [front, fronted_eq behind source]
        exact if_neg some

/-- Calls on a stream answer as calls on the list in front of the source do. -/
theorem fronted_answers (stream : Pushback) (calls : List Call) :
    answersOf Fronted.answer stream.fronted calls =
      ((answersOf answer stream calls).1, (answersOf answer stream calls).2.fronted) :=
  answersOf_alike fronted (fun _ => True) (fun _ _ _ => trivial)
    (fun stream call _ => stream.fronted_answer call) trivial calls

/-! ### What reading on delivers -/

/-- Reading on delivers this and nothing else, and all of it if there are enough reads
and each has room for an octet. -/
def Yields (stream : Pushback) (script : Script UInt8) : Prop :=
  ∀ sizes : List Nat,
    (stream.readEach sizes).1 <+: script ∧
      ((∀ size ∈ sizes, 0 < size) → stream.weight ≤ sizes.length →
        (stream.readEach sizes).1 = script)

end Pushback

/-- Each read with room for an octet is one less until the end. -/
theorem Source.weight_read_le (source : Source) {size : Nat} (positive : 0 < size) :
    (source.read size).2.weight ≤ source.weight - 1 := by
  obtain ⟨steps⟩ := source
  rw [read, if_neg (by omega)]
  cases steps with
  | nil => exact Nat.le_refl _
  | cons step rest =>
      cases step with
      | failure cause => simp [Step.weight]
      | data portion =>
          simp only [weight_cons, Step.weight]
          cases portion with
          | nil =>
              rw [List.drop_nil, putRest]
              omega
          | cons octet octets =>
              have lighter := weight_putRest_le rest ((octet :: octets).drop size)
              rw [List.length_drop, List.length_cons] at lighter
              rw [List.length_cons]
              omega

namespace Pushback

theorem weight_read_le (stream : Pushback) {size : Nat} (positive : 0 < size) :
    (stream.read size).2.weight ≤ stream.weight - 1 := by
  rcases stream.read_cases size with
    ⟨result, after, none, reading, through, none'⟩ | ⟨after, some, front, behind, source⟩
  · have lighter := stream.source.weight_read_le positive
    rw [reading] at lighter
    rw [through, weight, weight, none, none', List.length_nil, Nat.zero_add, Nat.zero_add]
    exact lighter
  · have waits := List.length_pos_iff.mpr some
    rw [front, weight, weight, behind, source, List.length_drop]
    omega

theorem weight_readEach_le (stream : Pushback) {sizes : List Nat}
    (positive : ∀ size ∈ sizes, 0 < size) :
    (stream.readEach sizes).2.weight ≤ stream.weight - sizes.length := by
  induction sizes generalizing stream with
  | nil => exact Nat.le_refl _
  | cons size sizes inductionHypothesis =>
      obtain ⟨first, others⟩ := List.forall_mem_cons.mp positive
      have lighter := stream.weight_read_le first
      have rest := inductionHypothesis (stream.read size).2 others
      have same : (stream.readEach (size :: sizes)).2 =
          ((stream.read size).2.readEach sizes).2 := by
        rw [readEach]
        rcases stream.read size with ⟨_ | _, after⟩ <;> rfl
      rw [same, List.length_cons]
      omega

theorem script_eq_nil_of_weight {stream : Pushback} (spent : stream.weight = 0) :
    stream.script = [] := by
  obtain ⟨none, nothing⟩ := Nat.add_eq_zero_iff.mp spent
  have steps : stream.source.steps = [] := by
    cases steps : stream.source.steps with
    | nil => rfl
    | cons step rest =>
        have heavy : stream.source.weight = step.weight + Source.weight ⟨rest⟩ := by
          rw [← Source.weight_cons, ← steps]
        cases step <;> simp only [Step.weight] at heavy <;> omega
  rw [script, List.length_eq_zero_iff.mp none, Source.script, steps]
  rfl

/-- A stream yields its script, also where portions are empty. -/
theorem yields_script (stream : Pushback) : stream.Yields stream.script := by
  intro sizes
  have whole := stream.script_eq_readEach sizes
  refine ⟨⟨_, whole.symm⟩, ?_⟩
  intro positive enough
  have lighter := stream.weight_readEach_le positive
  have spent : (stream.readEach sizes).2.weight = 0 := by omega
  rw [whole, script_eq_nil_of_weight spent, List.append_nil]

end Pushback

/-- Whatever was read and put back before, a stream answers as the octets that were put
back in front of its source do.  No more than four octets ever wait, octets are refused
if and only if they would be more, as invalid input and with the stream unchanged, and
no octets are always taken.  Where the octets at the end of what was read are put back,
reading on delivers those and then everything that was not read, and that is what it
would have delivered behind the octets before them; failures that were reported in
between are not reported again. -/
theorem put_back_octets_come_first (source : Source) (calls : List Pushback.Call) :
    let outcome := answersOf Pushback.answer (.ofSource source) calls
    let stream := outcome.2
    answersOf Fronted.answer ⟨[], source⟩ calls = (outcome.1, stream.fronted) ∧
      stream.pending.length ≤ 4 ∧
      (∀ octets,
        ((∃ cause, (stream.unread octets).1 = .error cause) ↔
          4 < stream.pending.length + octets.length) ∧
        (∀ cause, (stream.unread octets).1 = .error cause →
          cause.kind = .invalidInput ∧ (stream.unread octets).2 = stream)) ∧
      stream.unread [] = (.ok (), stream) ∧
      ∀ (sizes : List Nat) (events last : Script UInt8) (again : Pushback),
        (stream.readEach sizes).1 = events ++ last →
        (stream.readEach sizes).2.unread last.elements = (.ok (), again) →
        ∃ rest, stream.Yields (events ++ (last ++ rest)) ∧
          again.Yields (Script.ofList last.elements ++ rest) := by
  intro outcome stream
  refine ⟨(Pushback.ofSource source).fronted_answers calls, stream.length_pending_le, ?_, rfl, ?_⟩
  · intro octets
    rcases stream.unread_cases octets with ⟨full, refused⟩ | ⟨after, fits, putBack, -, -⟩
    · rw [refused]
      refine ⟨⟨fun _ => full, fun _ => ⟨_, rfl⟩⟩, ?_⟩
      rintro cause ⟨⟩
      exact ⟨rfl, rfl⟩
    · rw [putBack]
      refine ⟨⟨?_, fun full => absurd fits (Nat.not_le_of_lt full)⟩, ?_⟩
      · rintro ⟨cause, ⟨⟩⟩
      · rintro cause ⟨⟩
  · intro sizes events last again delivered putBack
    refine ⟨(stream.readEach sizes).2.script, ?_, ?_⟩
    · rw [← List.append_assoc, ← delivered, ← stream.script_eq_readEach sizes]
      exact stream.yields_script
    · rcases (stream.readEach sizes).2.unread_cases last.elements with
        ⟨-, refused⟩ | ⟨after, -, taken, front, source⟩
      · cases putBack.symm.trans refused
      · cases putBack.symm.trans taken
        have script : again.script =
            Script.ofList last.elements ++ (stream.readEach sizes).2.script := by
          rw [Pushback.script, Pushback.script, front, source, Script.ofList_append,
            List.append_assoc]
        exact script ▸ again.yields_script

/-- Slots that are drained in part, refused, and filled to the last, and octets that are
put back over a failure. -/
theorem put_back_octets_come_first_torn :
    let source : Source := ⟨[.data [1, 2], .failure .deviceLost, .data [3, 4, 5]]⟩
    let calls : List Pushback.Call :=
      [.read 1, .unread [8, 9, 1], .read 2, .unread [7, 7, 7, 7], .unread [5, 6, 7]]
    let outcome := answersOf Pushback.answer (.ofSource source) calls
    let reading := outcome.2.readEach [3, 4, 4, 4, 2]
    let again := (reading.2.unread [1, 2, 3, 4]).2
    let events : Script UInt8 := .ofList [5, 6, 7]
    let last : Script UInt8 := [.ok 1, .ok 2, .error .deviceLost, .ok 3, .ok 4]
    outcome.1 = [.ok [1], .ok [], .ok [8, 9], .error (.pushbackFull 1 4), .ok []] ∧
      outcome.2.pending = [5, 6, 7, 1] ∧ reading.1 = events ++ last ∧
      reading.2.unread [1, 2, 3, 4] = (.ok (), again) ∧
      ∃ rest, outcome.2.Yields (events ++ (last ++ rest)) ∧
        again.Yields (Script.ofList [1, 2, 3, 4] ++ rest) := by
  intro source calls outcome reading again events last
  have delivered : reading.1 = events ++ last := by decide
  have putBack : reading.2.unread last.elements = (.ok (), again) := by decide
  obtain ⟨-, -, -, -, back⟩ := put_back_octets_come_first source calls
  exact ⟨by decide, by decide, delivered, putBack,
    back [3, 4, 4, 4, 2] events last again delivered putBack⟩

end Bytemark

/-
Module: Bytemark.Proofs.TailedLines
Purpose: Tails are the last of the matching lines, and counts are their number.
Trusted boundary: none
Main exports: Ring.lines_push_last, Scanner.Trails, Scanner.through_keepLast,
  Scanner.count_of_file, Scanner.tail_of_file, tails_are_last_lines
-/
import Mathlib.Data.List.DropRight
import Bytemark.Proofs.PagedLines

namespace Bytemark

/-!
A tail goes through all matching lines and lets go of the oldest one whenever its ring
is full.  So whenever it has seen some of them, the ring holds the last of those; the
invariant is carried from line to line, and the answer is what it says in the end.
-/

/-- The last of some lines are no more than there are. -/
theorem length_last (lines : List String) (requested : Nat) :
    (lines.rtake requested).length = min requested lines.length := by
  rw [List.rtake, List.length_drop]
  omega

namespace Ring

@[simp] theorem capacity_push (ring : Ring) (line : String) :
    (ring.push line).capacity = ring.capacity := by
  unfold push
  split
  · rfl
  · split
    · rfl
    · split <;> rfl

/-- A ring that holds the last of some lines holds the last of them and of one more. -/
theorem lines_push_last {ring : Ring} {lines : List String}
    (last : ring.lines = lines.rtake ring.capacity) (line : String) :
    (ring.push line).lines = (lines ++ [line]).rtake ring.capacity := by
  have size : ring.size = min ring.capacity lines.length := by
    rw [← length_lines, last, length_last]
  have dropped : lines.length - ring.capacity + (ring.size + 1 - ring.capacity) =
      lines.length + 1 - ring.capacity := by
    omega
  rw [lines_push, last, List.rtake, List.rtake, List.length_append, List.length_singleton,
    ← List.drop_append_of_le_length (Nat.sub_le _ _), List.drop_drop, dropped]

end Ring

namespace Scanner

/-- What a tail knows of the matching lines that it has seen. -/
structure Trails (requested : Nat) (lines : List String) (seen : Ring × Nat) : Prop where
  room : seen.1.capacity = requested
  last : seen.1.lines = lines.rtake requested
  counted : seen.2 = lines.length

variable {requested : Nat} {lines : List String} {seen : Ring × Nat}

theorem trails_start (requested : Nat) : Trails requested [] (.new requested, 0) :=
  ⟨rfl, (List.rtake_nil requested).symm, rfl⟩

/-- One matching line more. -/
theorem Trails.push (trails : Trails requested lines seen) (line : String) :
    Trails requested (lines ++ [line]) (seen.1.push line, seen.2 + 1) := by
  have last := trails.last
  rw [← trails.room] at last
  refine ⟨(seen.1.capacity_push line).trans trails.room, ?_, ?_⟩
  · rw [← trails.room]
    exact Ring.lines_push_last last line
  · rw [trails.counted, List.length_append, List.length_singleton]

/-- Whatever lines a tail is shown, it knows the last of them and their number. -/
theorem through_keepLast (trails : Trails requested lines seen) (rest : List String) :
    Trails requested (lines ++ rest) (Visit.through keepLast seen rest) := by
  induction rest generalizing lines seen with
  | nil =>
      rw [List.append_nil]
      exact trails
  | cons line rest inductionHypothesis =>
      have behind := inductionHypothesis (trails.push line)
      rwa [List.append_assoc, List.singleton_append] at behind

/-- A visitor that counts knows the number of lines. -/
theorem through_counting (count : Nat) (lines : List String) :
    Visit.through (fun count _ => .more (count + 1)) count lines = count + lines.length := by
  induction lines generalizing count with
  | nil => rfl
  | cons line rest inductionHypothesis =>
      refine (inductionHypothesis (count + 1)).trans ?_
      rw [List.length_cons]
      omega

variable {scanner : Scanner} {files : FileSystem} {location : Location} {id : FileId}

theorem count_of_file (found : files.find scanner.path = .ok (location, .file id))
    (filter : Filter) :
    (scanner.count files filter).1 =
      .ok (filter.admitted (Lines.ofText (scanner.resolver.text (files.content id)))).length := by
  rw [count_eq, scan_of_file found, Filter.admitted_effective, through_counting, Nat.zero_add]

theorem tail_of_file (found : files.find scanner.path = .ok (location, .file id))
    (requested : Nat) (filter : Filter) :
    let matching := filter.admitted (Lines.ofText (scanner.resolver.text (files.content id)))
    (scanner.tail files requested filter).1 =
      .ok ⟨requested, matching.rtake requested, matching.length⟩ := by
  intro matching
  have trails := through_keepLast (trails_start requested) matching
  rw [List.nil_append] at trails
  rw [tail_eq, scan_of_file found, Filter.admitted_effective]
  change Except.ok (Tail.mk requested _ _) = _
  rw [trails.last, trails.counted]

end Scanner

namespace Session

variable {session : Session} {files : FileSystem} {location : Location} {id : FileId}

/-- A session answers that number, and nothing else happens. -/
theorem run_count_of_file (found : files.find session.path = .ok (location, .file id))
    (filter : Filter) :
    (count filter).run session files =
      (.ok (filter.admitted (Lines.ofText (session.resolver.text (files.content id)))).length,
        session, files) := by
  have scanned : files.find session.scanner.path = .ok (location, .file id) := found
  rw [count, run_scanning, Scanner.count_of_file scanned]
  rfl

/-- A session answers that tail, and nothing else happens. -/
theorem run_tail_of_file (found : files.find session.path = .ok (location, .file id))
    (requested : Nat) (filter : Filter) :
    let matching := filter.admitted (Lines.ofText (session.resolver.text (files.content id)))
    (tail requested filter).run session files =
      (.ok ⟨requested, matching.rtake requested, matching.length⟩, session, files) := by
  intro matching
  have scanned : files.find session.scanner.path = .ok (location, .file id) := found
  rw [tail, run_scanning, Scanner.tail_of_file scanned]
  rfl

end Session

/-- With the lines of a file that contain the text of the filter, a count is their
number and a tail is the last of them, as many as it was asked for and there are, beside
their number.  While the lines go by, the ring that the tail is read off in the end
holds the last of those matching lines that it was shown, oldest first, and as many as
it has room for. -/
theorem tails_are_last_lines {session : Session} {files : FileSystem} {location : Location}
    {id : FileId} (found : files.find session.path = .ok (location, .file id))
    (filter : Filter) :
    ∃ lines, Session.readLines.run session files = (.ok lines, session.released, files) ∧
      let matching (shown : List String) := shown.filter fun line => filter.Admits line
      (Session.count filter).run session files = (.ok (matching lines).length, session, files) ∧
      ∀ requested,
        let ring (shown : List String) := (Visit.through
          (filter.effective.matching Scanner.keepLast) (.new requested, 0) shown).1
        (∃ answer, (Session.tail requested filter).run session files =
            (.ok answer, session, files) ∧
          answer.lines <:+ matching lines ∧
          answer.lines.length = min requested (matching lines).length ∧
          answer.matchedTotal = (matching lines).length ∧
          answer.lines = (ring lines).lines) ∧
        ∀ shown, shown <+: lines →
          (ring shown).lines <:+ matching shown ∧
            (ring shown).lines.length = min requested (matching shown).length := by
  have read := Session.run_readLines_of_file found
  have counted := Session.run_count_of_file found filter
  have tailed (requested : Nat) := Session.run_tail_of_file found requested filter
  generalize Lines.ofText (session.resolver.text (files.content id)) = lines
    at read counted tailed
  refine ⟨lines, read, counted, ?_⟩
  intro requested ring
  have last (shown : List String) :
      (ring shown).lines = (filter.admitted shown).rtake requested := by
    have trails := Scanner.through_keepLast (Scanner.trails_start requested)
      (filter.effective.admitted shown)
    rw [← Filter.through_matching, Filter.admitted_effective, List.nil_append] at trails
    exact trails.last
  constructor
  · exact ⟨_, tailed requested, List.drop_suffix _ _, length_last _ _, rfl, (last lines).symm⟩
  · intro shown _
    rw [last]
    exact ⟨List.drop_suffix _ _, length_last _ _⟩

/-- Three of four lines contain the text; a tail of two lets go of one of them, and a
tail of more lines than a file can have keeps all. -/
theorem tails_are_last_lines_far :
    let files := FileSystem.holding "a" [0x61, 0x62, 0x0D, 0x0A, 0x63, 0x0A, 0x62, 0x0D, 0x62, 0x62]
    let session := Session.new "a" default .silent
    files.find "a" = .ok (.ofNames ["a"], .file 0) ∧
      (Session.count (some "b")).run session files = (.ok 3, session, files) ∧
      (∃ answer, (Session.tail 2 (some "b")).run session files = (.ok answer, session, files) ∧
        answer.lines = ["b", "bb"] ∧ answer.matchedTotal = 3) ∧
      ∃ answer, (Session.tail 18446744073709551615 (some "b")).run session files =
          (.ok answer, session, files) ∧
        answer.lines = ["ab", "b", "bb"] ∧ answer.matchedTotal = 3 := by
  intro files session
  have found : files.find session.path = .ok (.ofNames ["a"], .file 0) :=
    show files.find "a" = _ from rfl
  obtain ⟨lines, read, counted, tailed⟩ := tails_are_last_lines found (some "b")
  have read' : Session.readLines.run session files =
      (.ok ["ab", "c", "b", "bb"], session, files) := by decide +kernel
  cases read.symm.trans read'
  have matching : (["ab", "c", "b", "bb"].filter fun line => Filter.Admits (some "b") line) =
      ["ab", "b", "bb"] := by decide +kernel
  dsimp only at counted tailed
  rw [matching] at counted tailed
  have tail (requested : Nat) : ∃ answer, (Session.tail requested (some "b")).run session files =
      (.ok answer, session, files) ∧
      answer.lines = ["ab", "b", "bb"].drop (3 - min requested 3) ∧ answer.matchedTotal = 3 := by
    obtain ⟨answer, runs, suffix, length, total, -⟩ := (tailed requested).1
    refine ⟨answer, runs, ?_, total⟩
    rw [List.suffix_iff_eq_drop.mp suffix, length]
    rfl
  exact ⟨found, counted, tail 2, tail 18446744073709551615⟩

end Bytemark

/-
Module: Bytemark.Scan.Page
Purpose: Windows of the matching lines, and the last lines of a file.
Trusted boundary: none
Main exports: PageRequest, PageRequest.ofInts, Page, Page.toJson, Paging, Paging.see,
  Ring, Ring.push, Ring.lines_push, Tail
-/
import Bytemark.Json
import Bytemark.Scan.Filter
import Bytemark.Stream.LineReader
import Bytemark.TextError

namespace Bytemark

/-!
A page is collected from the matching lines as they go by: first the lines
before it are skipped, then its own are kept, and one line more tells that
there is more.  A page without lines is finished as soon as the lines before
it are skipped, so it never looks for more.
-/

/-- How many matching lines to skip and how many to keep. -/
structure PageRequest where
  offset : Nat
  size : Nat
deriving Repr, Inhabited, DecidableEq

/-- A request from numbers that a user gave; negative ones are refused, the
offset first. -/
def PageRequest.ofInts (offset size : Int) : Except TextError PageRequest :=
  if offset < 0 then .error (.negativeOffset offset)
  else if size < 0 then .error (.negativeSize size)
  else .ok ⟨offset.toNat, size.toNat⟩

/-- A window of matching lines, in the order of the file. -/
structure Page where
  request : PageRequest
  filter : Filter
  lines : List String
  /-- Matching lines that went by: those skipped and those kept. -/
  matchedSeen : Nat
  /-- Whether a matching line follows the page. -/
  hasMore : Bool
deriving Repr, Inhabited, DecidableEq

namespace Page

/-- Lines on the page. -/
def returned (page : Page) : Nat := page.lines.length

/-- Whether the page has no lines. -/
def isEmpty (page : Page) : Bool := page.lines.isEmpty

/-- The page as a document; members stand in the order of their names. -/
def toJson (page : Page) : Json :=
  .object [
    ("grep", match page.filter with
      | some sought => .string sought
      | none => .null),
    ("hasMore", .bool page.hasMore),
    ("lines", .array (page.lines.map .string)),
    ("matchedSeen", .number page.matchedSeen),
    ("offset", .number page.request.offset),
    ("pageSize", .number page.request.size),
    ("returned", .number page.returned)]

end Page

/-- A page while its lines go by. -/
structure Paging where
  skipped : Nat := 0
  /-- Lines kept, last first. -/
  kept : List String := []
  /-- How many lines are kept. -/
  returned : Nat := 0
  hasMore : Bool := false
  returned_eq : returned = kept.length
deriving Repr, DecidableEq

namespace Paging

theorem returned_start : 0 = ([] : List String).length := rfl

/-- A page before the first line. -/
def start : Paging := { returned_eq := returned_start }

instance : Inhabited Paging := ⟨start⟩

/-- Keeps one line more. -/
def keep (paging : Paging) (line : String) : Paging :=
  { paging with
    kept := line :: paging.kept
    returned := paging.returned + 1
    returned_eq := by simp [paging.returned_eq] }

/-- One matching line. -/
def see (request : PageRequest) (paging : Paging) (line : String) : Visit Paging :=
  if paging.skipped < request.offset then
    let skipped := paging.skipped + 1
    if request.size == 0 && skipped == request.offset then .stop { paging with skipped }
    else .more { paging with skipped }
  else if paging.returned < request.size then .more (paging.keep line)
  else .stop { paging with hasMore := 0 < request.size }

/-- The page that was collected. -/
def toPage (paging : Paging) (request : PageRequest) (filter : Filter) : Page :=
  { request
    filter
    lines := paging.kept.reverse
    matchedSeen := paging.skipped + paging.returned
    hasMore := paging.hasMore }

end Paging

/-!
The ring is a queue of two lists, so that letting go of the oldest line costs no
walk through all lines: new lines come to the front of one list, old ones leave
the front of the other, and when that one is used up the first takes its place
the other way round.
-/

/-- The latest lines that went by, as many as the ring has room for. -/
structure Ring where
  capacity : Nat
  /-- The oldest lines kept, oldest first. -/
  old : List String := []
  /-- The lines after them, last first. -/
  latest : List String := []
  /-- How many lines are kept. -/
  size : Nat := 0
  size_eq : size = old.length + latest.length
  size_le : size ≤ capacity
deriving Repr, DecidableEq

namespace Ring

theorem size_new : 0 = ([] : List String).length + ([] : List String).length := rfl

/-- A ring that no line went by. -/
def new (capacity : Nat) : Ring :=
  { capacity, size_eq := size_new, size_le := Nat.zero_le capacity }

instance : Inhabited Ring := ⟨new 0⟩

/-- The lines kept, oldest first. -/
def lines (ring : Ring) : List String := ring.old ++ ring.latest.reverse

/-- One more line; the oldest one makes room if the ring is full. -/
def push (ring : Ring) (line : String) : Ring :=
  if room : ring.size < ring.capacity then
    { ring with
      latest := line :: ring.latest
      size := ring.size + 1
      size_eq := by simp [ring.size_eq, Nat.add_assoc]
      size_le := room }
  else
    match kept : ring.old with
    | _ :: rest =>
        { ring with
          old := rest
          latest := line :: ring.latest
          size_eq := by
            have size := ring.size_eq
            rw [kept] at size
            simp only [List.length_cons] at *
            omega }
    | [] =>
        match turned : ring.latest.reverse with
        | [] => ring
        | _ :: rest =>
            { ring with
              old := rest
              latest := [line]
              size_eq := by
                have size := ring.size_eq
                have length := congrArg List.length turned
                rw [kept] at size
                simp only [List.length_reverse, List.length_cons, List.length_nil] at *
                omega }

theorem length_lines (ring : Ring) : ring.lines.length = ring.size := by
  simp [lines, ring.size_eq]

/-- The ring holds the last lines that it has room for. -/
theorem lines_push (ring : Ring) (line : String) :
    (ring.push line).lines = (ring.lines ++ [line]).drop (ring.size + 1 - ring.capacity) := by
  have bound := ring.size_le
  have length := ring.length_lines
  unfold push
  split
  · rename_i room
    rw [show ring.size + 1 - ring.capacity = 0 by omega]
    simp [lines]
  · rename_i full
    rw [show ring.size + 1 - ring.capacity = 1 by omega]
    split
    · rename_i oldest rest kept
      simp [lines, kept]
    · rename_i kept
      split
      · rename_i turned
        simp [lines, kept, turned]
      · rename_i oldest rest turned
        simp [lines, kept, turned]

end Ring

/-- The last matching lines of a file, oldest first. -/
structure Tail where
  requested : Nat
  lines : List String
  /-- Matching lines in the whole file. -/
  matchedTotal : Nat
deriving Repr, Inhabited, DecidableEq

end Bytemark

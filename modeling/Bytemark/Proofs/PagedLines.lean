/-
Module: Bytemark.Proofs.PagedLines
Purpose: Pages are windows of the matching lines, and together they are all of them.
Trusted boundary: none
Main exports: Filter.Admits, Filter.accepts_iff, Page.window, Paging.Window,
  Paging.through_see, Session.run_page_of_file, Session.LeafsThrough,
  pages_are_windows
-/
import Bytemark.Proofs.ScanAnswers
import Bytemark.Proofs.SessionRun

namespace Bytemark

/-!
A page is collected by a visitor that stops as soon as it knows all about the page.
What it knows is kept as an invariant: the page is the window of the lines that went
by.  Where the visitor stops, the page is the window of those lines whatever follows.
-/

namespace Filter

/-- The line contains the text that is sought, if one is; every line contains the
empty text. -/
def Admits (filter : Filter) (line : String) : Prop :=
  ∀ sought ∈ filter, sought.toList <:+: line.toList

theorem occursIn_iff {sought text : List Char} :
    occursIn sought text = true ↔ sought <:+: text := by
  induction text with
  | nil => simp [occursIn]
  | cons c rest inductionHypothesis =>
      rw [occursIn, Bool.or_eq_true, List.isPrefixOf_iff_prefix, inductionHypothesis,
        List.infix_cons_iff]

theorem accepts_iff {filter : Filter} {line : String} :
    filter.accepts line = true ↔ filter.Admits line := by
  cases filter with
  | none => simp [accepts, effective, Admits]
  | some sought =>
      cases empty : sought.isEmpty with
      | true =>
          have nothing : sought = "" := String.isEmpty_iff.mp empty
          subst nothing
          simp [accepts, effective, Admits]
      | false => simp [accepts, effective, Admits, empty, occursIn_iff]

instance (filter : Filter) (line : String) : Decidable (filter.Admits line) :=
  decidable_of_iff (filter.accepts line = true) accepts_iff

/-- A filter that asks for something goes on asking for it. -/
theorem effective_effective (filter : Filter) : filter.effective.effective = filter.effective := by
  cases filter with
  | none => rfl
  | some sought =>
      cases empty : sought.isEmpty with
      | true => simp [effective, empty]
      | false => simp [effective, empty]

/-- The lines that contain the text, in their order. -/
def admitted (filter : Filter) (lines : List String) : List String :=
  lines.filter fun line => filter.Admits line

theorem admitted_effective (filter : Filter) (lines : List String) :
    filter.effective.admitted lines = filter.admitted lines := by
  refine List.filter_congr fun line _ => ?_
  rw [decide_eq_decide, ← accepts_iff, ← accepts_iff, accepts, accepts, effective_effective]

/-- A visitor of the matching lines is shown these lines. -/
theorem through_matching {σ : Type} (filter : Filter) (see : σ → String → Visit σ) (state : σ)
    (lines : List String) :
    Visit.through (filter.matching see) state lines =
      Visit.through see state (filter.admitted lines) := by
  unfold admitted
  induction lines generalizing state with
  | nil => rfl
  | cons line rest inductionHypothesis =>
      rw [Visit.through, matching]
      by_cases kept : filter.Admits line
      · rw [List.filter_cons_of_pos (by simpa using kept), if_pos (accepts_iff.mpr kept),
          Visit.through]
        cases see state line with
        | stop final => rfl
        | more next => exact inductionHypothesis next
      · rw [List.filter_cons_of_neg (by simpa using kept),
          if_neg fun accepted => kept (accepts_iff.mp accepted)]
        exact inductionHypothesis state

end Filter

/-- The page that a request cuts out of the matching lines. -/
def Page.window (request : PageRequest) (filter : Filter) (matching : List String) : Page where
  request
  filter := filter.effective
  lines := (matching.drop request.offset).take request.size
  matchedSeen := min matching.length (request.offset + request.size)
  hasMore := decide (0 < request.size ∧ request.offset + request.size < matching.length)

/-! ### Collecting a page -/

namespace Paging

/-- The page has come to the window of these lines. -/
structure Window (request : PageRequest) (lines : List String) (paging : Paging) : Prop where
  skipped : paging.skipped = min request.offset lines.length
  kept : paging.kept.reverse = (lines.drop request.offset).take request.size
  hasMore : paging.hasMore =
    decide (0 < request.size ∧ request.offset + request.size < lines.length)

variable {request : PageRequest} {lines : List String} {paging : Paging}

theorem window_start (request : PageRequest) : Window request [] start := by
  refine ⟨by simp [start], by simp [start], by simp [start]⟩

theorem Window.returned (window : Window request lines paging) :
    paging.returned = min request.size (lines.length - request.offset) := by
  have length := congrArg List.length window.kept
  rw [List.length_reverse, List.length_take, List.length_drop] at length
  rw [paging.returned_eq, length]

theorem Window.toPage (window : Window request lines paging) (filter : Filter) :
    paging.toPage request filter.effective = Page.window request filter lines := by
  have seen : paging.skipped + paging.returned =
      min lines.length (request.offset + request.size) := by
    rw [window.skipped, window.returned]
    omega
  rw [Paging.toPage, Page.window, window.kept, window.hasMore, seen]

/-- While lines in front of the page go by, the page stays empty, and a page without
lines always is. -/
theorem Window.skip (window : Window request lines paging)
    (short : lines.length < request.offset) (more : List String)
    (within : lines.length + more.length ≤ request.offset ∨ request.size = 0) {skipped : Nat}
    (counted : skipped = min request.offset (lines.length + more.length)) :
    Window request (lines ++ more) { paging with skipped } := by
  have ahead : lines.drop request.offset = [] := List.drop_eq_nil_of_le (Nat.le_of_lt short)
  have empty : ((lines ++ more).drop request.offset).take request.size = [] := by
    rcases within with front | none
    · rw [List.drop_eq_nil_of_le (by rwa [List.length_append]), List.take_nil]
    · rw [none, List.take_zero]
  refine ⟨by rwa [List.length_append], ?_, ?_⟩
  · rw [empty, window.kept, ahead, List.take_nil]
  · rw [window.hasMore, decide_eq_decide, List.length_append]
    omega

/-- A line on the page is kept. -/
theorem Window.keep (window : Window request lines paging)
    (behind : request.offset ≤ lines.length) (room : paging.returned < request.size)
    (line : String) : Window request (lines ++ [line]) (paging.keep line) := by
  have skipped := window.skipped
  have returned := window.returned
  refine ⟨?_, ?_, ?_⟩
  · rw [List.length_append]
    change paging.skipped = _
    omega
  · have kept := window.kept
    rw [List.take_of_length_le (by rw [List.length_drop]; omega)] at kept
    rw [List.drop_append_of_le_length behind, List.take_of_length_le (by simp; omega), ← kept]
    exact List.reverse_cons
  · change paging.hasMore = _
    rw [window.hasMore, decide_eq_decide, List.length_append, List.length_singleton]
    omega

/-- One line behind a full page tells that there is more, whatever follows it. -/
theorem Window.full (window : Window request lines paging)
    (behind : request.offset ≤ lines.length) (full : ¬ paging.returned < request.size)
    (line : String) (rest : List String) :
    Window request (lines ++ line :: rest) { paging with hasMore := 0 < request.size } := by
  have skipped := window.skipped
  have returned := window.returned
  refine ⟨?_, ?_, ?_⟩
  · rw [List.length_append]
    change paging.skipped = _
    omega
  · rw [List.drop_append_of_le_length behind,
      List.take_append_of_le_length (by rw [List.length_drop]; omega)]
    exact window.kept
  · rw [decide_eq_decide, List.length_append, List.length_cons]
    omega

/-- One matching line more: the page goes on as the window of the lines with that
line, or it is the window of all lines whatever follows that line. -/
theorem Window.see (window : Window request lines paging)
    (within : lines.length ≤ request.offset + request.size) (line : String) :
    (∃ next, Paging.see request paging line = .more next ∧
      Window request (lines ++ [line]) next ∧ lines.length < request.offset + request.size) ∨
    (∃ final, Paging.see request paging line = .stop final ∧
      ∀ rest, Window request (lines ++ line :: rest) final) := by
  have skipped := window.skipped
  have returned := window.returned
  unfold Paging.see
  split
  · rename_i before
    have short : lines.length < request.offset := by omega
    dsimp only
    split
    · -- A page without lines stops at its offset and never looks for more.
      rename_i finished
      obtain ⟨none, reached⟩ := Bool.and_eq_true_iff.mp finished
      have last : paging.skipped + 1 = request.offset := beq_iff_eq.mp reached
      refine .inr ⟨_, rfl, fun rest => window.skip short _ (.inr (beq_iff_eq.mp none)) ?_⟩
      rw [List.length_cons]
      omega
    · refine .inl ⟨_, rfl, window.skip short [line] (.inl short) ?_, by omega⟩
      rw [List.length_singleton]
      omega
  · rename_i reached
    have behind : request.offset ≤ lines.length := by omega
    split
    · rename_i room
      exact .inl ⟨_, rfl, window.keep behind room line, by omega⟩
    · rename_i full
      exact .inr ⟨_, rfl, window.full behind full line⟩

/-- Shown all matching lines, or as many of them as it wants to see, a page is their
window. -/
theorem through_see (window : Window request lines paging)
    (within : lines.length ≤ request.offset + request.size) (rest : List String) :
    Window request (lines ++ rest) (Visit.through (Paging.see request) paging rest) := by
  induction rest generalizing lines paging with
  | nil =>
      rw [List.append_nil]
      exact window
  | cons line rest inductionHypothesis =>
      rw [Visit.through]
      rcases window.see within line with ⟨next, seen, goesOn, room⟩ | ⟨final, seen, ends⟩
      · rw [seen]
        have longer : (lines ++ [line]).length ≤ request.offset + request.size := by
          rw [List.length_append]
          exact room
        have all := inductionHypothesis goesOn longer
        rwa [List.append_assoc, List.singleton_append] at all
      · rw [seen]
        exact ends rest

end Paging

/-! ### Pages of files -/

namespace Scanner

variable {scanner : Scanner} {files : FileSystem} {location : Location} {id : FileId}

/-- A scan of a file that can be found shows its matching lines to the visitor. -/
theorem scan_of_file {σ : Type} (found : files.find scanner.path = .ok (location, .file id))
    (filter : Filter) (operation : Operation) (see : σ → String → Visit σ) (state : σ) :
    (scanner.scan files filter operation see state).1 =
      .ok (Visit.through see state
        (filter.admitted (Lines.ofText (scanner.resolver.text (files.content id))))) := by
  obtain ⟨cursor, opened, -, -, holds, skips⟩ :=
    ReadCursor.openFile_of_file found scanner.resolver
  obtain ⟨seen, outcome⟩ := ReadCursor.visit_of_holds holds skips (filter.matching see) state
  rw [scan_eq, opened]
  dsimp only
  rw [outcome, seen, Filter.through_matching]
  rfl

/-- A page of a file is the window of its matching lines. -/
theorem page_of_file (found : files.find scanner.path = .ok (location, .file id))
    (request : PageRequest) (filter : Filter) :
    (scanner.page files request filter).1 =
      .ok (Page.window request filter
        (filter.admitted (Lines.ofText (scanner.resolver.text (files.content id))))) := by
  rw [page_eq, scan_of_file found, Filter.admitted_effective]
  generalize filter.admitted (Lines.ofText (scanner.resolver.text (files.content id))) = lines
  have window := Paging.through_see (Paging.window_start request) (Nat.zero_le _) lines
  exact congrArg Except.ok (window.toPage filter)

end Scanner

namespace Session

variable {session : Session} {files : FileSystem} {location : Location} {id : FileId}

/-- A session answers that page, and nothing else happens. -/
theorem run_page_of_file (found : files.find session.path = .ok (location, .file id))
    (request : PageRequest) (filter : Filter) :
    (page request filter).run session files =
      (.ok (Page.window request filter
        (filter.admitted (Lines.ofText (session.resolver.text (files.content id))))),
        session, files) := by
  have scanned : files.find session.scanner.path = .ok (location, .file id) := found
  rw [page, run_scanning, Scanner.page_of_file scanned]
  rfl

/-- Pages of one size that a caller asks for one after the other.  It moves on by as
many lines as a page had, for as long as a page says that there are more. -/
inductive LeafsThrough (filter : Filter) (size : Nat) :
    Nat → Session → FileSystem → List Page → Prop where
  | last {offset : Nat} {session after : Session} {files left : FileSystem} {shown : Page}
      (answer : (page ⟨offset, size⟩ filter).run session files = (.ok shown, after, left))
      (ends : shown.hasMore = false) : LeafsThrough filter size offset session files [shown]
  | next {offset : Nat} {session after : Session} {files left : FileSystem} {shown : Page}
      {pages : List Page}
      (answer : (page ⟨offset, size⟩ filter).run session files = (.ok shown, after, left))
      (goesOn : shown.hasMore = true)
      (others : LeafsThrough filter size (offset + shown.returned) after left pages) :
      LeafsThrough filter size offset session files (shown :: pages)

/-- There is one way only to leaf through a file. -/
theorem LeafsThrough.unique {filter : Filter} {size offset : Nat} {session : Session}
    {files : FileSystem} {first second : List Page}
    (one : LeafsThrough filter size offset session files first)
    (two : LeafsThrough filter size offset session files second) : first = second := by
  induction one generalizing second with
  | last answer ends =>
      cases two with
      | last answer' ends' =>
          cases answer.symm.trans answer'
          rfl
      | next answer' goesOn' others' =>
          cases answer.symm.trans answer'
          cases ends.symm.trans goesOn'
  | next answer goesOn others inductionHypothesis =>
      cases two with
      | last answer' ends' =>
          cases answer.symm.trans answer'
          cases ends'.symm.trans goesOn
      | next answer' goesOn' others' =>
          cases answer.symm.trans answer'
          rw [inductionHypothesis others']

/-- From any offset on, the pages end, and their lines are the matching lines behind
that offset. -/
theorem leafs_through_of_file (found : files.find session.path = .ok (location, .file id))
    (filter : Filter) {size : Nat} (positive : 0 < size) (offset : Nat) :
    ∃ pages, LeafsThrough filter size offset session files pages ∧
      pages.flatMap Page.lines =
        (filter.admitted
          (Lines.ofText (session.resolver.text (files.content id)))).drop offset := by
  have answer (offset : Nat) := run_page_of_file found ⟨offset, size⟩ filter
  generalize filter.admitted (Lines.ofText (session.resolver.text (files.content id))) = lines
    at answer
  -- A page that has more is full, so fewer lines are left behind the next offset.
  induction left : lines.length - offset using Nat.strongRecOn generalizing offset with
  | ind left inductionHypothesis =>
      by_cases goesOn : offset + size < lines.length
      · have full : (Page.window ⟨offset, size⟩ filter lines).returned = size := by
          simp only [Page.returned, Page.window, List.length_take, List.length_drop]
          omega
        obtain ⟨pages, others, rest⟩ :=
          inductionHypothesis (lines.length - (offset + size)) (by omega) (offset + size) rfl
        have behind := others
        rw [← congrArg (offset + ·) full] at behind
        refine ⟨_, .next (answer offset) (decide_eq_true ⟨positive, goesOn⟩) behind, ?_⟩
        rw [List.flatMap_cons, rest, ← List.drop_drop]
        exact List.take_append_drop size (lines.drop offset)
      · refine ⟨_, .last (answer offset) (decide_eq_false fun more => goesOn more.2), ?_⟩
        rw [List.flatMap_singleton]
        refine List.take_of_length_le ?_
        rw [List.length_drop]
        exact Nat.sub_le_iff_le_add'.mpr (Nat.le_of_not_lt goesOn)

end Session

/-- With the lines of a file that contain the text of the filter, every page is their
window: the lines behind the offset, cut to the size, with how many of them were seen
and whether there are more.  So a caller that begins with the first line and moves on
by what a page had comes to an end, whatever the size of its pages but zero, and it
has then seen every matching line once, in their order. -/
theorem pages_are_windows {session : Session} {files : FileSystem} {location : Location}
    {id : FileId} (found : files.find session.path = .ok (location, .file id))
    (filter : Filter) :
    ∃ lines, Session.readLines.run session files = (.ok lines, session.released, files) ∧
      let matching := lines.filter fun line => filter.Admits line
      (∀ request, ∃ page,
        (Session.page request filter).run session files = (.ok page, session, files) ∧
          page.lines = (matching.drop request.offset).take request.size ∧
          page.matchedSeen = min matching.length (request.offset + request.size) ∧
          page.hasMore = decide (0 < request.size ∧
            request.offset + request.size < matching.length)) ∧
      ∀ size, 0 < size → ∃ pages, Session.LeafsThrough filter size 0 session files pages ∧
        (∀ others, Session.LeafsThrough filter size 0 session files others → others = pages) ∧
        pages.flatMap Page.lines = matching := by
  refine ⟨_, Session.run_readLines_of_file found, ?_, ?_⟩
  · intro request
    exact ⟨_, Session.run_page_of_file found request filter, rfl, rfl, rfl⟩
  · intro size positive
    obtain ⟨pages, through, all⟩ := Session.leafs_through_of_file found filter positive 0
    exact ⟨pages, through, fun others again => again.unique through, all⟩

/-- Three of four lines contain the text; pages of two lines are two pages, and a page
that begins far behind the last line is empty. -/
theorem pages_are_windows_far :
    let files := FileSystem.holding "a" [0x61, 0x62, 0x0D, 0x0A, 0x63, 0x0A, 0x62, 0x0D, 0x62, 0x62]
    let session := Session.new "a" default .silent
    let request : PageRequest := ⟨18446744073709551615, 18446744073709551615⟩
    files.find "a" = .ok (.ofNames ["a"], .file 0) ∧
      (∃ pages, Session.LeafsThrough (some "b") 2 0 session files pages ∧
        pages.flatMap Page.lines = ["ab", "b", "bb"]) ∧
      ∃ page, (Session.page request (some "b")).run session files = (.ok page, session, files) ∧
        page.lines = [] ∧ page.matchedSeen = 3 ∧ page.hasMore = false := by
  intro files session request
  have found : files.find session.path = .ok (.ofNames ["a"], .file 0) :=
    show files.find "a" = _ from rfl
  obtain ⟨lines, read, windows, together⟩ := pages_are_windows found (some "b")
  have read' : Session.readLines.run session files =
      (.ok ["ab", "c", "b", "bb"], session, files) := by decide +kernel
  cases read.symm.trans read'
  have matching : (["ab", "c", "b", "bb"].filter fun line => Filter.Admits (some "b") line) =
      ["ab", "b", "bb"] := by decide +kernel
  rw [matching] at windows together
  obtain ⟨pages, through, -, all⟩ := together 2 (by decide)
  obtain ⟨page, answer, kept, seen, more⟩ := windows request
  have behind : ["ab", "b", "bb"].drop request.offset = [] := List.drop_eq_nil_of_le (by decide)
  refine ⟨found, ⟨pages, through, all⟩, page, answer, ?_, seen, more⟩
  rw [kept, behind, List.take_nil]

end Bytemark

/-
Module: Bytemark.Proofs.Appending
Purpose: When sessions that append to one file lose nothing of what they wrote.
Trusted boundary: none
Main exports: AppendCall, Story.next, World.step, World.run, World.Sound.run,
  appended_octets_iff
-/
import Mathlib.Logic.Function.Basic
import Bytemark.Proofs.Contributions
import Bytemark.Proofs.WritingCalls

namespace Bytemark

open FileSystem

/-!
Any number of sessions append to one path, and their calls come in any order.
Beside the sessions and the files a story is kept of what was accepted: what the
file held before, or the signature that it got when it was created, and every
text that a session has taken.  The story reads the calls and their answers and
no handle.
-/

/-- The calls of a session that appends. -/
inductive AppendCall where
  | openAppend (encoding : Option Encoding)
  | write (writing : Writing)
  | close
deriving Repr, DecidableEq

namespace AppendCall

/-- What the session is asked to do. -/
def action : AppendCall → Action Unit
  | .openAppend encoding => Session.openAppend encoding
  | .write writing => writing.action
  | .close => Session.close

end AppendCall

/-- What the calls so far and their answers tell. -/
structure Story (ι : Type) where
  /-- What the file held before, or the signature that it was created with. -/
  base : Option Octets
  /-- The session that created the file, until it closes or opens again. -/
  creator : Option ι
  log : Contributions

namespace Story

variable {ι : Type} [DecidableEq ι]

/-- A session lets go of what it had open. -/
def released (story : Story ι) (who : ι) : Story ι :=
  { story with creator := if story.creator = some who then none else story.creator }

/-- The story after a call of a session. -/
def next (story : Story ι) (who : ι) (call : AppendCall) (before : Session)
    (result : Except TextError Unit) (after : Session) : Story ι :=
  match call with
  | .openAppend _ =>
      match result, story.base with
      | .ok (), none =>
          { story with
            base := after.encoding.map Encoding.signatureOctets
            creator := some who }
      | _, _ => story.released who
  | .write writing =>
      { story with
        log := story.log ++ [⟨writing.octets before result, story.creator = some who⟩] }
  | .close => story.released who

end Story

/-- Sessions, the files that they share, and the story of their calls. -/
structure World (ι : Type) where
  sessions : ι → Session
  files : FileSystem
  story : Story ι

namespace World

variable {ι : Type} [DecidableEq ι]

/-- The sessions before their first call. -/
def start (sessions : ι → Session) (files : FileSystem) (path : String) : World ι :=
  { sessions, files, story := ⟨files.octets? path, none, []⟩ }

/-- One call of one session. -/
def step (world : World ι) (who : ι) (call : AppendCall) : World ι :=
  let before := world.sessions who
  let outcome := call.action.run before world.files
  { sessions := Function.update world.sessions who outcome.2.1
    files := outcome.2.2
    story := world.story.next who call before outcome.1 outcome.2.1 }

/-- Calls of sessions, one after the other. -/
def run (world : World ι) (calls : List (ι × AppendCall)) : World ι :=
  calls.foldl (fun world call => world.step call.1 call.2) world

end World

/-! ### What every call keeps -/

namespace World

variable {ι : Type}

/-- There is no file at the path, and no session has anything open. -/
structure Absent (path : String) (world : World ι) : Prop where
  missing : ∀ reached, world.files.find path ≠ .ok reached
  base : world.story.base = none
  creator : world.story.creator = none
  silent : world.story.log.Silent
  closed : ∀ who, (world.sessions who).cursor = .closed

/-- There is a file at the path whose content fits the story.  The creator has
an offset of its own, all others append. -/
structure Present (path : String) (held : Octets) (location : Location) (id : FileId)
    (world : World ι) : Prop where
  found : world.files.find path = .ok (location, .file id)
  base : world.story.base = some held
  fits : world.story.log.Fits held (world.files.content id)
  others : ∀ who, world.story.creator ≠ some who → (world.sessions who).cursor = .closed ∨
    ∃ encoding, (world.sessions who).Writes encoding id .append
  creator : ∀ who, world.story.creator = some who → ∃ encoding offset,
    (world.sessions who).Writes encoding id (.overwrite offset) ∧
      world.story.log.Stands (world.files.content id) offset

/-- What holds of all sessions, the files and the story between two calls. -/
structure Sound (path : String) (world : World ι) : Prop where
  wellFormed : world.files.WellFormed
  paths : ∀ who, (world.sessions who).path = path
  state : world.Absent path ∨ ∃ held location id, world.Present path held location id

theorem sound_start {sessions : ι → Session} {files : FileSystem} {path : String}
    (wellFormed : files.WellFormed) (regular : files.Regular path)
    (fresh : ∀ who, (sessions who).path = path ∧ (sessions who).cursor = .closed) :
    Sound path (start sessions files path) := by
  have silent : Contributions.Silent [] := List.forall_mem_nil _
  refine ⟨wellFormed, fun who => (fresh who).1, ?_⟩
  by_cases missing : ∀ reached, files.find path ≠ .ok reached
  · exact .inl ⟨missing, octets_of_missing missing, rfl, silent, fun who => (fresh who).2⟩
  · push Not at missing
    rcases missing with ⟨⟨location, node⟩, found⟩
    obtain ⟨id, rfl⟩ := regular location node found
    refine .inr ⟨files.content id, location, id, found, octets_of_file found, silent.fits _, ?_, ?_⟩
    · intro who _
      exact .inl (fresh who).2
    · intro who creates
      cases creates

/-- The story tells what the file holds if and only if the creator of the file
has written nothing behind what others have written. -/
theorem Sound.octets_eq_iff {path : String} {world : World ι} (sound : world.Sound path) :
    world.files.octets? path = world.story.base.map (· ++ world.story.log.octets) ↔
      world.story.log.Orderly := by
  rcases sound.state with absent | ⟨held, location, id, present⟩
  · rw [octets_of_missing absent.missing, absent.base, Option.map_none]
    exact iff_of_true rfl absent.silent.orderly
  · rw [octets_of_file present.found, present.base, Option.map_some, Option.some_inj]
    exact present.fits.content_eq_iff

variable [DecidableEq ι]

/-- A session that is not the creator any more does no harm. -/
theorem Present.replace {path : String} {held : Octets} {location : Location} {id : FileId}
    {world : World ι} (present : world.Present path held location id) (who : ι) {next : Session}
    (harmless : next.cursor = .closed ∨ ∃ encoding, next.Writes encoding id .append) :
    Present path held location id
      ⟨Function.update world.sessions who next, world.files, world.story.released who⟩ := by
  refine ⟨present.found, present.base, present.fits, ?_, ?_⟩
  · intro other notCreator
    dsimp only
    by_cases same : other = who
    · subst same
      rw [Function.update_self]
      exact harmless
    · rw [Function.update_of_ne same]
      apply present.others other
      intro creates
      apply notCreator
      change (if world.story.creator = some who then none else world.story.creator) = _
      rw [creates, if_neg fun equal => same (Option.some.inj equal)]
  · intro other creates
    change (if world.story.creator = some who then none else world.story.creator) = _ at creates
    split at creates
    · cases creates
    · rename_i notCreator
      have different : other ≠ who := by
        rintro rfl
        exact notCreator creates
      dsimp only
      rw [Function.update_of_ne different]
      exact present.creator other creates

/-- Octets at the end, written by a session that is not the creator. -/
theorem Present.append {path : String} {held : Octets} {location : Location} {id : FileId}
    {world : World ι} (present : world.Present path held location id) {who : ι} {next : Session}
    (notCreator : world.story.creator ≠ some who)
    (harmless : next.cursor = .closed ∨ ∃ encoding, next.Writes encoding id .append)
    {after : FileSystem} {octets : Octets} (names : SameNames world.files after)
    (content : after.content id = WriteMode.append.put (world.files.content id) octets) :
    Present path held location id
      ⟨Function.update world.sessions who next, after,
        { world.story with log := world.story.log ++ [⟨octets, false⟩] }⟩ := by
  refine ⟨?_, present.base, ?_, ?_, ?_⟩
  · rw [names.find]
    exact present.found
  · rw [content]
    exact present.fits.put_append octets
  · intro other notCreator'
    dsimp only
    by_cases same : other = who
    · subst same
      rw [Function.update_self]
      exact harmless
    · rw [Function.update_of_ne same]
      exact present.others other notCreator'
  · intro other creates
    have different : other ≠ who := by
      rintro rfl
      exact notCreator creates
    obtain ⟨encoding, offset, writes, stands⟩ := present.creator other creates
    dsimp only
    rw [Function.update_of_ne different, content]
    exact ⟨encoding, offset, writes, stands.put_append octets⟩

/-- Octets at the offset of the creator. -/
theorem Present.overwrite {path : String} {held : Octets} {location : Location} {id : FileId}
    {world : World ι} (present : world.Present path held location id) {who : ι} {next : Session}
    (creates : world.story.creator = some who) {encoding : Encoding} {offset : Nat}
    {octets : Octets} (stands : world.story.log.Stands (world.files.content id) offset)
    (writes : next.Writes encoding id (.overwrite (offset + octets.length)))
    {after : FileSystem} (names : SameNames world.files after)
    (content : after.content id =
      (WriteMode.overwrite offset).put (world.files.content id) octets) :
    Present path held location id
      ⟨Function.update world.sessions who next, after,
        { world.story with log := world.story.log ++ [⟨octets, true⟩] }⟩ := by
  refine ⟨?_, present.base, ?_, ?_, ?_⟩
  · rw [names.find]
    exact present.found
  · rw [content]
    exact present.fits.put_overwrite stands octets
  · intro other notCreator
    have different : other ≠ who := by
      rintro rfl
      exact notCreator creates
    dsimp only
    rw [Function.update_of_ne different]
    exact present.others other notCreator
  · intro other creates'
    have same : other = who := Option.some.inj (creates'.symm.trans creates)
    subst same
    dsimp only
    rw [Function.update_self, content]
    exact ⟨encoding, _, writes, stands.put_overwrite octets⟩

/-- Where there is no file, sessions stay closed. -/
theorem Absent.replace {path : String} {world : World ι} (absent : world.Absent path) (who : ι)
    {next : Session} (closed : next.cursor = .closed) {log : Contributions}
    (silent : log.Silent) :
    Absent path
      ⟨Function.update world.sessions who next, world.files, { world.story with log }⟩ := by
  refine ⟨absent.missing, absent.base, absent.creator, silent, ?_⟩
  refine (Function.forall_update_iff _ fun _ (session : Session) => session.cursor = .closed).mpr
    ⟨closed, ?_⟩
  intro other _
  exact absent.closed other

theorem Absent.released {path : String} {world : World ι} (absent : world.Absent path) (who : ι) :
    world.story.released who = world.story := by
  rw [Story.released, absent.creator, if_neg (Option.some_ne_none who).symm, ← absent.creator]

/-- A session has made the file. -/
theorem Absent.create {path : String} {world : World ι} (absent : world.Absent path) {who : ι}
    {next : Session} {after : FileSystem} {location : Location} {id : FileId}
    {encoding : Encoding} (found : after.find path = .ok (location, .file id))
    (signed : after.content id = encoding.signatureOctets)
    (writes : next.Writes encoding id (.overwrite encoding.signatureOctets.length)) :
    Present path encoding.signatureOctets location id
      ⟨Function.update world.sessions who next, after,
        { world.story with base := some encoding.signatureOctets, creator := some who }⟩ := by
  refine ⟨found, rfl, ?_, ?_, ?_⟩
  · rw [signed]
    exact absent.silent.fits _
  · intro other notCreator
    have different : other ≠ who := by
      rintro rfl
      exact notCreator rfl
    dsimp only
    rw [Function.update_of_ne different]
    exact .inl (absent.closed other)
  · intro other creates
    have same : other = who := (Option.some.inj creates).symm
    subst same
    dsimp only
    rw [Function.update_self, signed]
    exact ⟨encoding, _, writes, absent.silent.stands _⟩

/-! ### Every call -/

/-- The step of a call whose outcome is known. -/
theorem step_of_run {world : World ι} {who : ι} {call : AppendCall}
    {result : Except TextError Unit} {next : Session} {after : FileSystem}
    (outcome : call.action.run (world.sessions who) world.files = (result, next, after)) :
    world.step who call =
      ⟨Function.update world.sessions who next, after,
        world.story.next who call (world.sessions who) result next⟩ := by
  rw [step, outcome]

theorem Sound.replace {path : String} {world : World ι} (sound : world.Sound path) {who : ι}
    {next : Session} (same : next.path = (world.sessions who).path) {after : FileSystem}
    (wellFormed : after.WellFormed) {story : Story ι}
    (state : Absent path ⟨Function.update world.sessions who next, after, story⟩ ∨
      ∃ held location id,
        Present path held location id ⟨Function.update world.sessions who next, after, story⟩) :
    Sound path ⟨Function.update world.sessions who next, after, story⟩ := by
  refine ⟨wellFormed, ?_, state⟩
  refine (Function.forall_update_iff _ fun _ (session : Session) => session.path = path).mpr
    ⟨same.trans (sound.paths who), ?_⟩
  intro other _
  exact sound.paths other

theorem Sound.step_close {path : String} {world : World ι} (sound : world.Sound path) (who : ι) :
    Sound path (world.step who .close) := by
  have outcome : AppendCall.close.action.run (world.sessions who) world.files = _ :=
    Session.run_close _ _
  rw [step_of_run outcome]
  apply sound.replace (Session.released_path _) sound.wellFormed
  rw [Story.next]
  rcases sound.state with absent | ⟨held, location, id, present⟩
  · rw [absent.released]
    exact .inl (absent.replace who rfl absent.silent)
  · exact .inr ⟨held, location, id, present.replace who (.inl rfl)⟩

theorem Sound.step_openAppend {path : String} {world : World ι} (sound : world.Sound path)
    (who : ι) (encoding : Option Encoding) :
    Sound path (world.step who (.openAppend encoding)) := by
  have leads := sound.paths who
  rcases sound.state with absent | ⟨held, location, id, present⟩
  · have missing : (world.sessions who).exists? world.files = false := by
      rw [Session.exists?, leads]
      exact exists_of_missing absent.missing
    have regular : world.files.Regular (world.sessions who).path := by
      intro location node found
      rw [leads] at found
      exact absurd found (absent.missing _)
    have anew : (true && (world.sessions who).exists? world.files) = false := missing
    rcases Session.run_openWrite_anew sound.wellFormed regular anew encoding with
        ⟨failure, fails⟩ |
        ⟨location, id, used, next, after, opens, found, kept, signed, same, writes⟩
    · have outcome : (AppendCall.openAppend encoding).action.run (world.sessions who) world.files =
          _ := fails
      rw [step_of_run outcome]
      refine sound.replace (Session.released_path _) sound.wellFormed (.inl ?_)
      have unchanged : world.story.next who (.openAppend encoding) (world.sessions who)
          (.error failure) (world.sessions who).released = world.story := absent.released who
      rw [unchanged]
      exact absent.replace who rfl absent.silent
    · have outcome : (AppendCall.openAppend encoding).action.run (world.sessions who) world.files =
          _ := opens
      rw [step_of_run outcome]
      refine sound.replace same kept (.inr ⟨used.signatureOctets, location, id, ?_⟩)
      simp only [Story.next, absent.base, writes.encoding_eq, Option.map_some]
      rw [leads] at found
      exact absent.create found signed writes
  · have found := present.found
    rw [← leads] at found
    obtain ⟨used, next, opens, same, writes⟩ := Session.run_openAppend_of_file found encoding
    have outcome : (AppendCall.openAppend encoding).action.run (world.sessions who) world.files =
        _ := opens
    rw [step_of_run outcome]
    refine sound.replace same sound.wellFormed (.inr ⟨held, location, id, ?_⟩)
    simp only [Story.next, present.base]
    exact present.replace who (.inr ⟨used, writes⟩)

theorem Sound.step_write {path : String} {world : World ι} (sound : world.Sound path)
    (who : ι) (writing : Writing) : Sound path (world.step who (.write writing)) := by
  -- A closed session is refused, whether there is a file or not.
  have refused (closed : (world.sessions who).cursor = .closed) :
      ∃ failure, (AppendCall.write writing).action.run (world.sessions who) world.files =
          (.error failure, world.sessions who, world.files) ∧
        writing.octets (world.sessions who) (.error failure) = [] :=
    Session.run_writing_of_closed closed world.files writing
  rcases sound.state with absent | ⟨held, location, id, present⟩
  · obtain ⟨failure, outcome, nothing⟩ := refused (absent.closed who)
    rw [step_of_run outcome]
    refine sound.replace rfl sound.wellFormed (.inl ?_)
    rw [Story.next, nothing]
    exact absent.replace who (absent.closed who) (absent.silent.concat _)
  · have inBounds := lt_of_find sound.wellFormed present.found
    by_cases creates : world.story.creator = some who
    · obtain ⟨encoding, offset, writes, stands⟩ := present.creator who creates
      obtain ⟨result, next, after, goes, wrote⟩ :=
        Session.run_writing_wrote writes inBounds stands.within writing
      have outcome : (AppendCall.write writing).action.run (world.sessions who) world.files = _ :=
        goes
      rw [step_of_run outcome]
      refine sound.replace wrote.path (sound.wellFormed.of_sameNames wrote.names)
        (.inr ⟨held, location, id, ?_⟩)
      rw [Story.next, decide_eq_true creates]
      exact present.overwrite creates stands wrote.writes wrote.names wrote.content
    · rcases present.others who creates with closed | ⟨encoding, writes⟩
      · obtain ⟨failure, outcome, nothing⟩ := refused closed
        rw [step_of_run outcome]
        refine sound.replace rfl sound.wellFormed (.inr ⟨held, location, id, ?_⟩)
        rw [Story.next, nothing, decide_eq_false creates]
        exact present.append creates (.inl closed) (.refl _) (List.append_nil _).symm
      · obtain ⟨result, next, after, goes, wrote⟩ :=
          Session.run_writing_wrote writes inBounds trivial writing
        have outcome : (AppendCall.write writing).action.run (world.sessions who) world.files =
            _ := goes
        rw [step_of_run outcome]
        refine sound.replace wrote.path (sound.wellFormed.of_sameNames wrote.names)
          (.inr ⟨held, location, id, ?_⟩)
        rw [Story.next, decide_eq_false creates]
        exact present.append creates (.inr ⟨encoding, wrote.writes⟩) wrote.names wrote.content

theorem Sound.step {path : String} {world : World ι} (sound : world.Sound path) (who : ι)
    (call : AppendCall) : Sound path (world.step who call) := by
  cases call with
  | openAppend encoding => exact sound.step_openAppend who encoding
  | write writing => exact sound.step_write who writing
  | close => exact sound.step_close who

theorem Sound.run {path : String} {world : World ι} (sound : world.Sound path)
    (calls : List (ι × AppendCall)) : Sound path (world.run calls) := by
  induction calls generalizing world with
  | nil => exact sound
  | cons call rest inductionHypothesis => exact inductionHypothesis (sound.step call.1 call.2)

end World

namespace Story

variable {ι : Type}

/-- The file was there before the sessions, and none of them has created it. -/
structure Joined (held : Octets) (story : Story ι) : Prop where
  base : story.base = some held
  creator : story.creator = none
  others : ∀ contribution ∈ story.log, contribution.byCreator = false

theorem Joined.orderly {held : Octets} {story : Story ι} (joined : story.Joined held) :
    story.log.Orderly := by
  apply List.pairwise_iff_forall_sublist.mpr
  intro earlier later pair _ _ creator
  have member : later ∈ story.log := pair.subset (List.mem_cons_of_mem _ List.mem_cons_self)
  rw [joined.others later member] at creator
  cases creator

variable [DecidableEq ι]

theorem Joined.released {held : Octets} {story : Story ι} (joined : story.Joined held) (who : ι) :
    (story.released who).Joined held := by
  refine ⟨joined.base, ?_, joined.others⟩
  change (if story.creator = some who then none else story.creator) = none
  rw [joined.creator, if_neg (Option.some_ne_none who).symm]

theorem Joined.next {held : Octets} {story : Story ι} (joined : story.Joined held) (who : ι)
    (call : AppendCall) (before : Session) (result : Except TextError Unit) (after : Session) :
    (story.next who call before result after).Joined held := by
  cases call with
  | openAppend encoding =>
      have kept : story.next who (.openAppend encoding) before result after =
          story.released who := by
        unfold Story.next
        rw [joined.base]
        cases result <;> rfl
      rw [kept]
      exact joined.released who
  | close => exact joined.released who
  | write writing =>
      refine ⟨joined.base, joined.creator, ?_⟩
      intro contribution member
      rcases List.mem_append.mp member with earlier | last
      · exact joined.others contribution earlier
      · rw [List.mem_singleton.mp last, joined.creator]
        rfl

end Story

theorem World.joined_run {ι : Type} [DecidableEq ι] {world : World ι} {held : Octets}
    (joined : world.story.Joined held) (calls : List (ι × AppendCall)) :
    (world.run calls).story.Joined held := by
  induction calls generalizing world with
  | nil => exact joined
  | cons call rest inductionHypothesis => exact inductionHypothesis (joined.next _ _ _ _ _)

/-- Sessions that append to one path keep every octet that any of them has
written, in the order of their calls, if and only if the session that created the
file writes nothing more through that opening once another one has written.  A
file that was there before has no creator. -/
theorem appended_octets_iff {ι : Type} [DecidableEq ι] {sessions : ι → Session}
    {files : FileSystem} {path : String} (wellFormed : files.WellFormed)
    (regular : files.Regular path)
    (fresh : ∀ who, (sessions who).path = path ∧ (sessions who).cursor = .closed)
    (calls : List (ι × AppendCall)) :
    let last := (World.start sessions files path).run calls
    (last.files.octets? path = last.story.base.map (· ++ last.story.log.octets) ↔
      last.story.log.Orderly) ∧
    ∀ held, files.octets? path = some held →
      last.files.octets? path = some (held ++ last.story.log.octets) := by
  intro last
  have sound := (World.sound_start wellFormed regular fresh).run calls
  refine ⟨sound.octets_eq_iff, ?_⟩
  intro held before
  have joined : last.story.Joined held :=
    World.joined_run ⟨before, rfl, List.forall_mem_nil _⟩ calls
  have kept := sound.octets_eq_iff.mpr joined.orderly
  rw [joined.base] at kept
  exact kept

/-- The session that created the file writes over what another one has appended. -/
theorem appended_octet_lost :
    let calls : List (Bool × AppendCall) :=
      [(false, .openAppend none), (true, .openAppend none), (true, .write (.text "B")),
        (false, .write (.text "A"))]
    let last :=
      (World.start (fun _ => Session.new "a" default .silent) (.empty ["home"]) "a").run calls
    last.files.octets? "a" = some [0xEF, 0xBB, 0xBF, 0x41] ∧
      last.story.base.map (· ++ last.story.log.octets) =
        some [0xEF, 0xBB, 0xBF, 0x42, 0x41] := by
  decide +kernel

/-- The creator is done before the other session writes. -/
theorem appended_octets_iff_turns :
    let files := FileSystem.empty ["home"]
    let sessions : Bool → Session := fun _ => Session.new "a" default .silent
    let calls : List (Bool × AppendCall) :=
      [(false, .openAppend none), (true, .openAppend none), (false, .write (.lines ["A", "B"])),
        (true, .write (.line "C")), (false, .close), (true, .close)]
    files.WellFormed ∧ files.Regular "a" ∧
      (∀ who, (sessions who).path = "a" ∧ (sessions who).cursor = .closed) ∧
      ((World.start sessions files "a").run calls).files.octets? "a" =
        some [0xEF, 0xBB, 0xBF, 0x41, 0x0A, 0x42, 0x0A, 0x43, 0x0A] := by
  intro files sessions calls
  have wellFormed : files.WellFormed := FileSystem.wellFormed_empty ["home"]
  have regular : files.Regular "a" := by
    intro location node found
    have missing : files.find "a" = .error .notFound := by decide +kernel
    cases missing.symm.trans found
  have fresh (who : Bool) : (sessions who).path = "a" ∧ (sessions who).cursor = .closed :=
    ⟨rfl, rfl⟩
  refine ⟨wellFormed, regular, fresh, ?_⟩
  have orderly : ((World.start sessions files "a").run calls).story.log.Orderly := by
    decide +kernel
  have kept := (appended_octets_iff wellFormed regular fresh calls).1.mpr orderly
  rw [kept]
  decide +kernel

end Bytemark

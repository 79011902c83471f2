/-
Module: Bytemark.Proofs.SettledEncoding
Purpose: Every way to look at a file settles on the same encoding, and says whether the
  file begins with a signature.
Trusted boundary: none
Main exports: Resolution.encoding_ofOctets, Resolution.hasSignature_ofOctets_iff,
  Session.signed_of_openWrite, Session.signed_of_opens, Session.probe_of_openRead,
  settled_encoding
-/
import Bytemark.Proofs.AppendedText
import Bytemark.Proofs.ProbedStreams
import Bytemark.Proofs.SessionStates

namespace Bytemark

open FileSystem Bytemark.Action

/-!
A probe, a reader and a writer each look at a file for themselves, at its first
octets as they are then.  A writer that begins a file anew does not look at it
again: what it says about the signature follows from the encoding, and has to be
true of the octets that it has written.
-/

namespace Resolution

/-- The encoding of octets is that of the signature that is detected, or the default. -/
theorem encoding_ofOctets (octets : Octets) (default : Encoding) :
    (ofOctets octets default).encoding =
      ((Signature.detect octets).map Signature.encoding).getD default := by
  unfold ofOctets
  cases Signature.detect octets <;> rfl

/-- A signature is detected exactly if the octets begin with one. -/
theorem hasSignature_ofOctets_iff (octets : Octets) (default : Encoding) :
    (ofOctets octets default).hasSignature = true ↔
      ∃ signature ∈ Signature.table, signature.octets <+: octets := by
  constructor
  · intro signed
    cases found : Signature.detect octets with
    | none =>
        rw [ofOctets, found] at signed
        cases signed
    | some signature =>
        obtain ⟨known, begins⟩ := Signature.prefix_of_detect found
        exact ⟨signature, known, begins⟩
  · rintro ⟨signature, known, begins⟩
    cases found : Signature.detect octets with
    | some other =>
        rw [ofOctets, found]
        rfl
    | none =>
        have unmarked := List.find?_eq_none.mp found signature known
        exact absurd ((Signature.marks_iff signature octets).mpr begins) unmarked

end Resolution

/-- What is written in front of a new file is a signature, or nothing at all. -/
theorem Encoding.signatureOctets_marked_iff (encoding : Encoding) :
    (!encoding.signatureOctets.isEmpty) = true ↔
      ∃ signature ∈ Signature.table, signature.octets <+: encoding.signatureOctets := by
  have all : ∀ encoding ∈ Encoding.all, (!encoding.signatureOctets.isEmpty) = true ↔
      ∃ signature ∈ Signature.table, signature.octets <+: encoding.signatureOctets := by decide
  exact all encoding encoding.mem_all

namespace Session

/-- A file is at the path, and what the session says about the signature is true of it. -/
def Signed (session : Session) (files : FileSystem) (path : String) : Prop :=
  ∃ held, files.octets? path = some held ∧
    (session.hasSignature = true ↔ ∃ signature ∈ Signature.table, signature.octets <+: held)

/-- A writer that keeps the file has looked at it, and one that begins it anew has
written the signature. -/
theorem signed_of_openWrite {session next : Session} {files after : FileSystem} {append : Bool}
    {encoding : Option Encoding} (wellFormed : files.WellFormed)
    (regular : files.Regular session.path)
    (opened : (openWrite append encoding).run session files = (.ok (), next, after)) :
    next.Signed after session.path := by
  cases appending : append && session.exists? files with
  | true =>
      obtain ⟨rfl, present⟩ := Bool.and_eq_true_iff.mp appending
      obtain ⟨location, id, found⟩ := regular.find_of_exists present
      cases (run_openAppend_eq found encoding).symm.trans opened
      exact ⟨_, octets_of_file found, Resolution.hasSignature_ofOctets_iff _ _⟩
  | false =>
      rcases run_openWrite_begun wellFormed regular appending encoding with
        ⟨failure, fails⟩ | ⟨location, id, used, begun, begins, found, -, signed⟩
      · cases fails.symm.trans opened
      · cases begins.symm.trans opened
        refine ⟨_, octets_of_file found, ?_⟩
        rw [signed]
        exact used.signatureOctets_marked_iff

theorem signed_of_openRead {session next : Session} {files after : FileSystem}
    (regular : files.Regular session.path)
    (opened : Session.openRead.run session files = (.ok (), next, after)) :
    next.Signed after session.path := by
  cases found : files.find session.path with
  | error cause =>
      have fails : (ReadCursor.openFile files session.path session.resolver).1 = .error cause := by
        rw [ReadCursor.openFile, FileSystem.openRead, found]
        rfl
      rw [run_openRead, fails] at opened
      cases opened
  | ok reached =>
      rcases reached with ⟨location, node⟩
      obtain ⟨id, rfl⟩ := regular location node found
      obtain ⟨cursor, opens, resolution, -⟩ :=
        ReadCursor.openFile_of_file found session.resolver
      rw [run_openRead, opens] at opened
      cases opened
      refine ⟨_, octets_of_file found, ?_⟩
      change cursor.resolution.hasSignature = true ↔ _
      rw [resolution]
      exact Resolution.hasSignature_ofOctets_iff _ _

/-- However a regular path is opened, the session knows whether the file begins with a
signature. -/
theorem signed_of_opens {call : SessionCall} (opens : call.opens = true)
    {session next : Session} {files after : FileSystem} {answer : call.Answer}
    (wellFormed : files.WellFormed) (regular : files.Regular session.path)
    (opened : call.action.run session files = (.ok answer, next, after)) :
    next.Signed after session.path := by
  cases call with
  | openRead => exact signed_of_openRead regular opened
  | openWrite append encoding => exact signed_of_openWrite wellFormed regular opened
  | openAppend encoding => exact signed_of_openWrite wellFormed regular opened
  | _ => cases opens

theorem resolveFile_of_openFile {files : FileSystem} {path : String} {resolver : Resolver}
    {cursor : ReadCursor} (opened : (ReadCursor.openFile files path resolver).1 = .ok cursor) :
    (resolver.resolveFile files path).1 = .ok cursor.resolution := by
  unfold ReadCursor.openFile at opened
  unfold Resolver.resolveFile
  cases opening : files.openRead path with
  | error cause =>
      rw [opening] at opened
      cases opened
  | ok handle =>
      simp only [opening] at opened
      cases resolved : (resolver.resolve (Pushback.ofSource (files.view handle))).result with
      | error cause =>
          simp only [resolved] at opened
          cases opened
      | ok resolution =>
          simp only [resolved] at opened
          cases opened
          exact resolved

/-- Opening a reader and probing look at the same octets in the same way. -/
theorem probe_of_openRead {session next : Session} {files after : FileSystem}
    (opened : Session.openRead.run session files = (.ok (), next, after)) :
    ∃ resolution, probe.run session files = (.ok resolution, session, files) ∧
      next.encoding = some resolution.encoding ∧
      next.hasSignature = resolution.hasSignature := by
  rw [run_openRead] at opened
  cases opening : (ReadCursor.openFile files session.path session.resolver).1 with
  | error cause =>
      rw [opening] at opened
      cases opened
  | ok cursor =>
      rw [opening] at opened
      cases opened
      have resolved : (session.resolver.resolveFile files session.path).1 =
          .ok cursor.resolution := resolveFile_of_openFile opening
      refine ⟨cursor.resolution, ?_, rfl, rfl⟩
      rw [run_probe, resolved]
      rfl

end Session

/-- For a file at the path, a probe, a reader, a writer that appends and a writer that
keeps signatures all settle on the encoding of the longest signature that the file
begins with, or on the default encoding.  Once a regular path was opened, in whichever
way, the session knows whether the file begins with a signature.  And wherever a reader
can be opened, a probe gives the same answer. -/
theorem settled_encoding (session : Session) (files : FileSystem) :
    (files.WellFormed → ∀ location id, files.find session.path = .ok (location, .file id) →
      let settled := ((Signature.detect (files.content id)).map Signature.encoding).getD
        session.settings.defaultEncoding
      (∃ resolution, Session.probe.run session files = (.ok resolution, session, files) ∧
        resolution.encoding = settled) ∧
      (∃ next, Session.openRead.run session files = (.ok (), next, files) ∧
        next.encoding = some settled) ∧
      (∃ next, (Session.openAppend none).run session files = (.ok (), next, files) ∧
        next.encoding = some settled) ∧
      (session.settings.keepExistingSignature = true →
        ∃ next after, (Session.openWrite false none).run session files = (.ok (), next, after) ∧
          next.encoding = some settled)) ∧
    (files.WellFormed → files.Regular session.path →
      ∀ (call : SessionCall) (answer : call.Answer) (next : Session) (after : FileSystem),
        call.opens = true → call.action.run session files = (.ok answer, next, after) →
        ∃ held, after.octets? session.path = some held ∧
          (next.hasSignature = true ↔
            ∃ signature ∈ Signature.table, signature.octets <+: held)) ∧
    ∀ next after, Session.openRead.run session files = (.ok (), next, after) →
      ∃ resolution, Session.probe.run session files = (.ok resolution, session, files) ∧
        next.encoding = some resolution.encoding ∧
        next.hasSignature = resolution.hasSignature := by
  refine ⟨?_, ?_, fun next after opened => Session.probe_of_openRead opened⟩
  · intro wellFormed location id found settled
    have settles := Resolution.encoding_ofOctets (files.content id)
      session.settings.defaultEncoding
    have resolved := Resolver.resolveFile_of_file found session.resolver
    refine ⟨⟨_, ?_, settles⟩, ?_, ?_, ?_⟩
    · rw [Session.run_probe, resolved]
      rfl
    · obtain ⟨cursor, opens, resolution, -⟩ :=
        ReadCursor.openFile_of_file found session.resolver
      refine ⟨session.reading cursor, ?_, ?_⟩
      · rw [Session.run_openRead, opens]
      · change some cursor.resolution.encoding = some settled
        rw [resolution]
        exact congrArg some settles
    · exact ⟨_, Session.run_openAppend_eq found none, congrArg some settles⟩
    · intro keeps
      obtain ⟨after, opens, -, -⟩ := Session.run_openWrite_over wellFormed found none
      refine ⟨_, after, opens, ?_⟩
      change some (session.renewed none (files.content id)) = some settled
      rw [Session.renewed, Option.getD_none, if_pos keeps]
      exact congrArg some settles
  · intro wellFormed regular call answer next after opens opened
    exact Session.signed_of_opens opens wellFormed regular opened

/-- The signature of UTF-32LE begins with that of UTF-16LE.  A file with it is appended to
in another encoding, which changes neither what is said about it nor what others find. -/
theorem settled_encoding_wide :
    let settings : TextSettings := { (default : TextSettings) with keepExistingSignature := true }
    let session := Session.new "a" settings .silent
    let files := FileSystem.holding "a" [0xFF, 0xFE, 0x00, 0x00, 0x41]
    let opened := (Session.openAppend (some .latin1)).run session files
    let reader := Session.openRead.run session files
    (files.WellFormed ∧ files.find "a" = .ok (.ofNames ["a"], .file 0) ∧
      ∃ next after, (Session.openWrite false none).run session files = (.ok (), next, after) ∧
        next.encoding = some (.utf32 .little)) ∧
    (files.Regular "a" ∧ opened = (.ok (), opened.2) ∧ opened.2.1.encoding = some .latin1 ∧
      opened.2.1.hasSignature = true) ∧
    reader = (.ok (), reader.2) ∧
      ∃ resolution, Session.probe.run session files = (.ok resolution, session, files) ∧
        resolution.encoding = .utf32 .little ∧ resolution.hasSignature = true := by
  intro settings session files opened reader
  have wellFormed : files.WellFormed := wellFormed_holding "a" _
  have found : files.find session.path = .ok (.ofNames ["a"], .file 0) :=
    show files.find "a" = _ from rfl
  have regular : files.Regular session.path := regular_of_file found
  have opens : opened = (.ok (), opened.2) := by decide +kernel
  have reads : reader = (.ok (), reader.2) := by decide +kernel
  have held : opened.2.2.octets? session.path = some [0xFF, 0xFE, 0x00, 0x00, 0x41] := by
    decide +kernel
  have wide : reader.2.1.encoding = some (.utf32 .little) := by decide +kernel
  have signed : reader.2.1.hasSignature = true := by decide +kernel
  obtain ⟨settles, tells, probes⟩ := settled_encoding session files
  obtain ⟨-, -, -, renews⟩ := settles wellFormed _ _ found
  obtain ⟨octets, holds, known⟩ :=
    tells wellFormed regular (.openAppend (some .latin1)) () _ _ rfl opens
  obtain ⟨resolution, resolved, encoding, flag⟩ := probes _ _ reads
  cases held.symm.trans holds
  have marked : opened.2.1.hasSignature = true := known.mpr ⟨⟨.utf16 .little, [0xFF, 0xFE]⟩,
    by decide, by decide⟩
  exact ⟨⟨wellFormed, found, renews rfl⟩, ⟨regular, opens, by decide +kernel, marked⟩, reads,
    resolution, resolved, Option.some.inj (encoding.symm.trans wide), flag.symm.trans signed⟩

end Bytemark

/-
Module: Bytemark.Proofs.ScanAnswers
Purpose: What scans and probes answer, messages aside.
Trusted boundary: none
Main exports: Filter.matching, Scanner.scan_eq, Scanner.count_eq, Scanner.page_eq,
  Scanner.tail_eq, Resolver.resolveFile_logged, Resolver.openFile_logged, Scanner.scan_logged,
  Scanner.count_logged, Scanner.page_logged, Scanner.tail_logged
-/
import Bytemark.Scan.Scanner

namespace Bytemark

/-!
Every scan is one visit of the matching lines, and its answer is read off what the
visitor has seen in the end.  The logger is told about it, but has no say in it.
-/

/-- A visitor that is shown the matching lines only. -/
def Filter.matching {σ : Type} (filter : Filter) (see : σ → String → Visit σ) (state : σ)
    (line : String) : Visit σ :=
  if filter.accepts line then see state line else .more state

namespace Scanner

variable (scanner : Scanner) (files : FileSystem) (filter : Filter)

/-- What a scan comes to, messages aside. -/
theorem scan_eq {σ : Type} (operation : Operation) (see : σ → String → Visit σ) (state : σ) :
    (scanner.scan files filter operation see state).1 =
      match (ReadCursor.openFile files scanner.path scanner.resolver).1 with
      | .error cause => .error (.io operation scanner.path cause)
      | .ok cursor =>
          let shown := cursor.visit files (filter.matching see) state
          (shown.2.1.map fun _ => shown.1).mapError (.io operation scanner.path) := by
  unfold scan
  cases ReadCursor.openFile files scanner.path scanner.resolver with
  | mk result log =>
      cases result with
      | error cause => rfl
      | ok cursor =>
          unfold Filter.matching
          dsimp only
          rcases cursor.visit files
            (fun state line => if filter.accepts line then see state line else .more state) state
            with ⟨final, outcome, left⟩
          cases outcome <;> rfl

theorem count_eq :
    (scanner.count files filter).1 =
      (scanner.scan files filter.effective .countLines (fun count _ => .more (count + 1)) 0).1 := by
  dsimp only [count]
  cases scanner.scan files filter.effective .countLines (fun count _ => .more (count + 1)) 0 with
  | mk result log => cases result <;> rfl

theorem page_eq (request : PageRequest) :
    (scanner.page files request filter).1 =
      (scanner.scan files filter.effective .readPage (Paging.see request) Paging.start).1.map
        (·.toPage request filter.effective) := by
  dsimp only [page]
  cases scanner.scan files filter.effective .readPage (Paging.see request) Paging.start with
  | mk result log => cases result <;> rfl

/-- A visitor that keeps the last lines and counts all. -/
def keepLast (state : Ring × Nat) (line : String) : Visit (Ring × Nat) :=
  .more (state.1.push line, state.2 + 1)

theorem tail_eq (requested : Nat) :
    (scanner.tail files requested filter).1 =
      (scanner.scan files filter.effective .tail keepLast (.new requested, 0)).1.map
        fun seen => { requested, lines := seen.1.lines, matchedTotal := seen.2 } := by
  dsimp only [tail]
  unfold keepLast
  rcases scanner.scan files filter.effective .tail
    (fun (state : Ring × Nat) line => .more (state.1.push line, state.2 + 1))
    (Ring.new requested, 0) with ⟨result, log⟩
  cases result <;> rfl

end Scanner

/-! ### Answers do not depend on the logger -/

/-- The resolver with another logger. -/
def Resolver.logged (resolver : Resolver) (logger : Logger) : Resolver := { resolver with logger }

namespace Resolver

variable (resolver : Resolver) (logger : Logger)

theorem afterFailure_logged (cause : IoError) :
    ((resolver.logged logger).afterFailure cause).1 = (resolver.afterFailure cause).1 := by
  unfold afterFailure logged
  cases resolver.policy <;> rfl

theorem resolve_logged (stream : Pushback) :
    ((resolver.logged logger).resolve stream).result = (resolver.resolve stream).result ∧
      ((resolver.logged logger).resolve stream).stream = (resolver.resolve stream).stream := by
  unfold resolve
  generalize probe stream [] = probed
  rcases probed with ⟨window, failure, probed⟩
  cases failure with
  | some cause =>
      have same := resolver.afterFailure_logged logger cause
      dsimp only
      cases probed.unread window with
      | mk result after =>
          cases result with
          | error refusal => exact ⟨rfl, rfl⟩
          | ok _ => exact ⟨same, rfl⟩
  | none =>
      dsimp only [logged]
      cases probed.unread (window.drop
          (Resolution.ofOctets window resolver.defaultEncoding).signatureLength) with
      | mk result after => cases result <;> exact ⟨rfl, rfl⟩

theorem resolveFile_logged (files : FileSystem) (path : String) :
    ((resolver.logged logger).resolveFile files path).1 = (resolver.resolveFile files path).1 := by
  unfold resolveFile
  cases files.openRead path with
  | error cause => exact resolver.afterFailure_logged logger cause
  | ok handle => exact (resolver.resolve_logged logger _).1

theorem openFile_logged (files : FileSystem) (path : String) :
    (ReadCursor.openFile files path (resolver.logged logger)).1 =
      (ReadCursor.openFile files path resolver).1 := by
  unfold ReadCursor.openFile
  cases files.openRead path with
  | error cause => rfl
  | ok handle =>
      obtain ⟨result, stream⟩ := resolver.resolve_logged logger
        (Pushback.ofSource (files.view handle))
      dsimp only
      rw [result, stream]
      cases (resolver.resolve (Pushback.ofSource (files.view handle))).result <;> rfl

end Resolver

namespace Scanner

/-- The scanner with another logger. -/
def logged (scanner : Scanner) (logger : Logger) : Scanner :=
  { scanner with resolver := scanner.resolver.logged logger }

variable (scanner : Scanner) (logger : Logger) (files : FileSystem) (filter : Filter)

theorem scan_logged {σ : Type} (operation : Operation) (see : σ → String → Visit σ) (state : σ) :
    ((scanner.logged logger).scan files filter operation see state).1 =
      (scanner.scan files filter operation see state).1 := by
  have opens := scanner.resolver.openFile_logged logger files scanner.path
  rw [scan_eq, scan_eq, logged]
  dsimp only
  rw [opens]

theorem count_logged :
    ((scanner.logged logger).count files filter).1 = (scanner.count files filter).1 := by
  rw [count_eq, count_eq, scan_logged]

theorem page_logged (request : PageRequest) :
    ((scanner.logged logger).page files request filter).1 =
      (scanner.page files request filter).1 := by
  rw [page_eq, page_eq, scan_logged]

theorem tail_logged (requested : Nat) :
    ((scanner.logged logger).tail files requested filter).1 =
      (scanner.tail files requested filter).1 := by
  rw [tail_eq, tail_eq, scan_logged]

end Scanner

end Bytemark

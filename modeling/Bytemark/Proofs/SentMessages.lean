/-
Module: Bytemark.Proofs.SentMessages
Purpose: What resolvers and scans send, and what a logger keeps of it.
Trusted boundary: none
Main exports: Logger.kept, Logger.kept_recording, Logger.Hears, Resolver.hears_resolve,
  Resolver.hears_resolveFile, Resolver.hears_openFile, Scanner.hears_count, Scanner.hears_page,
  Scanner.hears_tail
-/
import Bytemark.Proofs.ScanAnswers

namespace Bytemark

/-!
Whatever a resolver or a scan does, there is one list of messages that it sends, the
same for every logger, and a logger keeps some of them by their levels.  The list is
found before the logger is looked at, so nothing in it can depend on who listens.
-/

/-! ### What a logger keeps -/

namespace Logger

/-- Of some messages, those that the logger keeps. -/
def kept (logger : Logger) (log : List Log.Entry) : List Log.Entry :=
  log.filter fun entry => logger.isEnabled entry.level

theorem kept_append (logger : Logger) (before behind : List Log.Entry) :
    logger.kept (before ++ behind) = logger.kept before ++ logger.kept behind :=
  List.filter_append ..

/-- To record a message is to keep it or not. -/
theorem kept_singleton (logger : Logger) (level : Log.Level) (message : String) :
    logger.kept [⟨level, message⟩] = logger.record level message :=
  List.filter_cons

theorem kept_silent (log : List Log.Entry) : silent.kept log = [] :=
  List.filter_eq_nil_iff.mpr fun _ _ => Bool.false_ne_true

/-- What is kept of a higher level is a part of what is kept of a lower one. -/
theorem kept_recording {least most : Log.Level} (higher : most.atLeast least = true)
    (log : List Log.Entry) :
    (recording most).kept log =
      ((recording least).kept log).filter fun entry => entry.level.atLeast most := by
  have lower (level : Log.Level) (reached : level.atLeast most = true) :
      level.atLeast least = true := by
    apply decide_eq_true
    exact Nat.le_trans (of_decide_eq_true higher) (of_decide_eq_true reached)
  unfold kept
  rw [List.filter_filter]
  apply List.filter_congr
  intro entry _
  change entry.level.atLeast most = (entry.level.atLeast most && entry.level.atLeast least)
  cases reached : entry.level.atLeast most with
  | true => exact (lower entry.level reached).symm
  | false => rfl

/-- There is one list of messages for all loggers, and each of them keeps its part. -/
def Hears (logs : Logger → List Log.Entry) : Prop :=
  ∃ log, ∀ logger, logs logger = logger.kept log

theorem hears_nothing : Hears fun _ => [] := ⟨[], fun _ => rfl⟩

theorem hears_record (level : Log.Level) (message : String) :
    Hears fun logger => logger.record level message :=
  ⟨[⟨level, message⟩], fun logger => (logger.kept_singleton level message).symm⟩

theorem Hears.append {before behind : Logger → List Log.Entry} (first : Hears before)
    (next : Hears behind) : Hears fun logger => before logger ++ behind logger := by
  obtain ⟨earlier, same⟩ := first
  obtain ⟨later, alike⟩ := next
  refine ⟨earlier ++ later, fun logger => ?_⟩
  dsimp only
  rw [kept_append, same, alike]

end Logger

/-! ### Resolvers and scans -/

namespace Resolver

open Logger

variable (resolver : Resolver)

theorem hears_afterFailure (cause : IoError) :
    Hears fun logger => ((resolver.logged logger).afterFailure cause).2 := by
  unfold afterFailure logged
  dsimp only
  cases resolver.policy with
  | fail => exact hears_nothing
  | useDefault => exact hears_record .warn _

theorem hears_resolve (stream : Pushback) :
    Hears fun logger => ((resolver.logged logger).resolve stream).log := by
  unfold resolve
  generalize probe stream [] = probed
  rcases probed with ⟨window, failure, probed⟩
  cases failure with
  | some cause =>
      dsimp only
      rcases probed.unread window with ⟨refusal | _, after⟩
      · exact hears_nothing
      · exact resolver.hears_afterFailure cause
  | none =>
      dsimp only [logged]
      rcases probed.unread (window.drop
        (Resolution.ofOctets window resolver.defaultEncoding).signatureLength)
        with ⟨refusal | _, after⟩
      · exact hears_nothing
      · exact hears_record .debug _

theorem hears_resolveFile (files : FileSystem) (path : String) :
    Hears fun logger => ((resolver.logged logger).resolveFile files path).2 := by
  unfold resolveFile
  cases files.openRead path with
  | error cause => exact resolver.hears_afterFailure cause
  | ok handle => exact resolver.hears_resolve _

theorem hears_openFile (files : FileSystem) (path : String) :
    Hears fun logger => (ReadCursor.openFile files path (resolver.logged logger)).2 := by
  unfold ReadCursor.openFile
  cases files.openRead path with
  | error cause => exact hears_nothing
  | ok handle =>
      obtain ⟨log, heard⟩ := resolver.hears_resolve (.ofSource (files.view handle))
      refine ⟨log, fun logger => ?_⟩
      refine Eq.trans ?_ (heard logger)
      dsimp only
      cases ((resolver.logged logger).resolve (.ofSource (files.view handle))).result <;> rfl

end Resolver

namespace Scanner

open Logger

variable (scanner : Scanner) (files : FileSystem) (filter : Filter)

/-- A scan sends what opening the file sends. -/
theorem log_scan {σ : Type} (operation : Operation) (see : σ → String → Visit σ) (state : σ) :
    (scanner.scan files filter operation see state).2 =
      (ReadCursor.openFile files scanner.path scanner.resolver).2 := by
  unfold scan
  rcases ReadCursor.openFile files scanner.path scanner.resolver with ⟨cause | cursor, log⟩
  · rfl
  · dsimp only
    rcases cursor.visit files
      (fun state line => if filter.accepts line then see state line else .more state) state
      with ⟨final, cause | _, left⟩
    · rfl
    · rfl

@[simp] theorem path_logged (logger : Logger) : (scanner.logged logger).path = scanner.path := rfl

theorem hears_report (message : String) :
    Hears fun logger => (scanner.logged logger).report message := by
  refine ⟨[⟨.debug, message⟩], fun logger => ?_⟩
  rw [kept_singleton]
  change (if logger.isEnabled .debug then logger.record .debug message else []) = _
  unfold record
  cases logger.isEnabled .debug <;> rfl

/-- What a scan sends that reports what it has found. -/
def reported {σ : Type} (scanner : Scanner) (message : σ → String) :
    Except TextError σ × List Log.Entry → List Log.Entry
  | (.error _, log) => log
  | (.ok found, log) => log ++ scanner.report (message found)

theorem hears_reported {σ : Type} (operation : Operation) (see : σ → String → Visit σ) (state : σ)
    (message : σ → String) :
    Hears fun logger => (scanner.logged logger).reported message
      ((scanner.logged logger).scan files filter operation see state) := by
  have opening := scanner.resolver.hears_openFile files scanner.path
  have scanned (logger : Logger) : (scanner.logged logger).scan files filter operation see state =
      ((scanner.scan files filter operation see state).1,
        (ReadCursor.openFile files scanner.path (scanner.resolver.logged logger)).2) :=
    Prod.ext (scanner.scan_logged logger files filter operation see state)
      ((scanner.logged logger).log_scan files filter operation see state)
  simp only [scanned]
  cases (scanner.scan files filter operation see state).1 with
  | error failure => exact opening
  | ok found => exact opening.append (scanner.hears_report (message found))

/-- The report of a count. -/
def countMessage (path : String) (filter : Filter) (count : Nat) : String :=
  s!"counted {count} lines in '{path}' (grep: {filter.debugText})"

theorem log_count :
    (scanner.count files filter).2 =
      scanner.reported (countMessage scanner.path filter.effective)
        (scanner.scan files filter.effective .countLines (fun count _ => .more (count + 1)) 0) := by
  dsimp only [count]
  rcases scanner.scan files filter.effective .countLines (fun count _ => .more (count + 1)) 0
    with ⟨failure | count, log⟩
  · rfl
  · rfl

theorem hears_count : Hears fun logger => ((scanner.logged logger).count files filter).2 := by
  simp only [log_count, path_logged]
  exact scanner.hears_reported files filter.effective _ _ _ _

/-- The report of a page. -/
def pageMessage (path : String) (request : PageRequest) (filter : Filter) (paging : Paging) :
    String :=
  let page := paging.toPage request filter
  s!"page offset={request.offset} size={request.size} " ++
    s!"returned={page.returned} has_more={page.hasMore} of '{path}'"

theorem log_page (request : PageRequest) :
    (scanner.page files request filter).2 =
      scanner.reported (pageMessage scanner.path request filter.effective)
        (scanner.scan files filter.effective .readPage (Paging.see request) .start) := by
  dsimp only [page]
  rcases scanner.scan files filter.effective .readPage (Paging.see request) .start
    with ⟨failure | paging, log⟩
  · rfl
  · rfl

theorem hears_page (request : PageRequest) :
    Hears fun logger => ((scanner.logged logger).page files request filter).2 := by
  simp only [log_page, path_logged]
  exact scanner.hears_reported files filter.effective _ _ _ _

/-- The report of a tail. -/
def tailMessage (path : String) (requested : Nat) (seen : Ring × Nat) : String :=
  s!"tail {requested} of '{path}' kept {seen.1.size} " ++ s!"of {seen.2} matching lines"

theorem log_tail (requested : Nat) :
    (scanner.tail files requested filter).2 =
      scanner.reported (tailMessage scanner.path requested)
        (scanner.scan files filter.effective .tail keepLast (.new requested, 0)) := by
  dsimp only [tail]
  change _ = scanner.reported _ (scanner.scan files filter.effective .tail
    (fun (state : Ring × Nat) line => .more (state.1.push line, state.2 + 1)) (.new requested, 0))
  rcases scanner.scan files filter.effective .tail
    (fun (state : Ring × Nat) line => .more (state.1.push line, state.2 + 1)) (.new requested, 0)
    with ⟨failure | seen, log⟩
  · rfl
  · rfl

theorem hears_tail (requested : Nat) :
    Hears fun logger => ((scanner.logged logger).tail files requested filter).2 := by
  simp only [log_tail, path_logged]
  exact scanner.hears_reported files filter.effective _ _ _ _

end Scanner

end Bytemark

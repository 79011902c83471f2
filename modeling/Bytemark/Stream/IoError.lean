/-
Module: Bytemark.Stream.IoError
Purpose: Why reading, writing or opening fails.
Trusted boundary: none
Main exports: IoErrorKind, IoError, IoError.kind, IoError.message
-/
import Bytemark.Codec.Utf8
import Bytemark.Signature

namespace Bytemark

/-- The broad classes in which callers tell failures apart. -/
inductive IoErrorKind where
  | notFound
  | alreadyExists
  | notADirectory
  | isADirectory
  | invalidInput
  | invalidData
  | invalidFilename
  | storageFull
  | interrupted
  | other
deriving Repr, Inhabited, DecidableEq

/-- Causes of a failed operation on a stream, a path or a file. -/
inductive IoError where
  /-- A name on the path is missing. -/
  | notFound
  /-- The name to be created is taken. -/
  | alreadyExists
  /-- A name inside the path is no directory. -/
  | notADirectory
  /-- A directory is read or written like a file. -/
  | isADirectory
  /-- The device takes no more octets. -/
  | storageFull
  /-- A name, or the whole path, is longer than the system allows. -/
  | nameTooLong
  /-- A path holds the character that ends paths. -/
  | nulInPath
  /-- The call did nothing and may be repeated. -/
  | interrupted
  /-- The device behind a stream has failed. -/
  | deviceLost
  /-- More octets are put back than the stream keeps. -/
  | pushbackFull (pending requested : Nat)
  /-- A line is not UTF-8. -/
  | malformedLine (reason : Codec.Utf8.Malformed)
  /-- A file that must be UTF-8 is not. -/
  | notText
deriving Repr, Inhabited, DecidableEq

namespace IoError

/-- The class of a cause. -/
def kind : IoError → IoErrorKind
  | notFound => .notFound
  | alreadyExists => .alreadyExists
  | notADirectory => .notADirectory
  | isADirectory => .isADirectory
  | storageFull => .storageFull
  | nameTooLong => .invalidFilename
  | nulInPath => .invalidInput
  | interrupted => .interrupted
  | deviceLost => .other
  | pushbackFull _ _ => .invalidInput
  | malformedLine _ => .invalidData
  | notText => .invalidData

/-- The wording of a cause; causes that the system reports carry its number. -/
def message : IoError → String
  | notFound => "No such file or directory (os error 2)"
  | alreadyExists => "File exists (os error 17)"
  | notADirectory => "Not a directory (os error 20)"
  | isADirectory => "Is a directory (os error 21)"
  | storageFull => "No space left on device (os error 28)"
  | nameTooLong => "File name too long (os error 36)"
  | nulInPath => "file name contained an unexpected NUL byte"
  | interrupted => "interrupted"
  | deviceLost => "device went away"
  | pushbackFull pending requested =>
      s!"pushback buffer full: {pending} pending, {requested} more requested, " ++
        s!"capacity {Signature.windowSize}"
  | malformedLine reason => reason.message
  | notText => "stream did not contain valid UTF-8"

end IoError

end Bytemark

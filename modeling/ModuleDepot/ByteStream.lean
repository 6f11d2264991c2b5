import ModuleDepot.IoError
import ModuleDepot.Path

/-! # Streams of bytes

Content arrives in pieces. A piece may be preceded by interruptions, which a reader waits
out, and the stream may break instead of ending. An error that is an interruption in the words
of the operating system is waited out as well, and breaks nothing. `contents` is what a reader
that reads to the end gets: all bytes in order, and the error if the stream broke. How the
bytes were cut into pieces does not show in it.

A stream can hold on to a file that goes away once the stream has been used.
-/

namespace ModuleDepot

/-- What a stream gives next: a piece of content, in as many reads as it takes and hence in
none if it is empty, or a read that is interrupted, or one that fails. -/
inductive Signal where
  | data (bytes : List UInt8)
  | interrupted
  | broken (error : IoError)
  deriving DecidableEq, Repr

/-- A stream of bytes with what it still has to give, in order. -/
structure ByteStream where
  signals : List Signal
  releases : Option Path := none
  deriving DecidableEq, Repr

namespace ByteStream

/-- Reads on with the pieces already read, last first. -/
def copy (pieces : List (List UInt8)) : List Signal → List UInt8 × Option IoError
  | [] => (pieces.reverse.flatten, none)
  | .data bytes :: rest => copy (bytes :: pieces) rest
  | .interrupted :: rest => copy pieces rest
  | .broken error :: rest =>
    if error.isInterruption then copy pieces rest else (pieces.reverse.flatten, some error)

/-- All bytes up to the end or the break, and the error of the break. -/
def contents (stream : ByteStream) : List UInt8 × Option IoError :=
  copy [] stream.signals

/-- A stream that gives the bytes at once and ends. -/
def ofBytes (bytes : List UInt8) : ByteStream :=
  ⟨[.data bytes], none⟩

/-- A stream whose first read fails, unless it is only interrupted. -/
def failing (error : IoError) : ByteStream :=
  ⟨[.broken error], none⟩

@[simp] theorem contents_ofBytes (bytes : List UInt8) :
    (ofBytes bytes).contents = (bytes, none) := by
  simp [contents, ofBytes, copy]

@[simp] theorem contents_failing {error : IoError} (h : error.isInterruption = false) :
    (failing error).contents = ([], some error) := by
  simp [contents, failing, copy, h]

end ByteStream
end ModuleDepot

import FocusJournal.Message.Refusal
import FocusJournal.Text.Blank

/-!
# Reading a request

A request is one line. It arrives in reads of any size; reading stops with the read that brings the end of the line, and
what came with it after that is ignored. All that was read counts towards the size of the request.

* `Request.receive` gives the line that reads bring.
-/

namespace FocusJournal.Request

/-- A request may have so many bytes, the end of its line included. -/
def maxBytes : Nat := 1048576

/-- A read brings at most so many bytes. -/
def maxRead : Nat := 4096

/-- The byte that ends a line. -/
def lineEnd : UInt8 := 10

/-- What comes after the last read. -/
inductive Ending where
  /-- The sender has closed its side. -/
  | closed
  /-- The sender keeps its side open and sends nothing more. -/
  | silent
  deriving DecidableEq

/-- The reads that are taken, after so many bytes of earlier ones. -/
def taken (ending : Ending) (count : Nat) : List (List UInt8) → Except Refusal (List (List UInt8))
  | [] =>
    match ending with
    | .closed => .ok []
    | .silent => .error .tooSlow
  | read :: reads =>
    let count := count + read.length
    if maxBytes < count then .error .tooLarge
    else if read.contains lineEnd then .ok [read]
    else (taken ending count reads).map (read :: ·)

/-- The bytes before the end of the line. -/
def lineOf (bytes : List UInt8) : List UInt8 := bytes.takeWhile fun b => b != lineEnd

/-- The request that reads bring, which must not be blank. -/
def receive (ending : Ending) (reads : List (List UInt8)) : Except Refusal (List UInt8) :=
  match taken ending 0 reads with
  | .error r => .error r
  | .ok reads =>
    let line := lineOf reads.flatten
    if line.all Text.isAsciiBlank then .error .empty else .ok line

/-- Bytes in reads of a size, as long as there are any; at most so many reads. -/
def cutInto (size : Nat) : (limit : Nat) → List UInt8 → List (List UInt8)
  | 0, _ => []
  | limit + 1, bytes => if bytes.isEmpty then [] else bytes.take size :: cutInto size limit (bytes.drop size)

/-- The reads of bytes that are all there before the first of them. -/
def readsOf (bytes : List UInt8) : List (List UInt8) := cutInto maxRead bytes.length bytes

end FocusJournal.Request

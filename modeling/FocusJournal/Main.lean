import FocusJournal.Daemon.Basic

/-!
# The command line

A command is held against a reporter that is started for it in the home directory, with the standard settings and an
empty journal. Lines to show go to the standard output, complaints to the standard error.
-/

namespace FocusJournal

/-- A read of the input brings at most so many bytes. -/
def inputChunk : USize := 4096

/-- The bytes of a stream, up to its end or to the end of a line. -/
partial def readStream (stream : IO.FS.Stream) (lineOnly : Bool) (read : List UInt8) : IO (List UInt8) := do
  let more ← stream.read inputChunk
  if more.isEmpty then return read
  let read := read ++ more.toList
  if lineOnly && read.contains Request.lineEnd then return read
  readStream stream lineOnly read

/-- The input that a command line needs. -/
def readInput (invocation : Invocation) : IO (List UInt8) := do
  match invocation.intake with
  | .nothing => return []
  | .line => readStream (← IO.getStdin) true []
  | .everything => readStream (← IO.getStdin) false []

/-- Shows lines and complaints; gives the code to end with. -/
def Exit.tell (e : Exit) : IO UInt32 := do
  for line in e.lines do IO.println line
  for complaint in e.complaint do IO.eprintln complaint
  return e.code.toUInt32

/-- Runs a command line in a home directory. -/
def runIn (path : String) (arguments : List String) : IO UInt32 := do
  let invocation := Invocation.ofArguments arguments
  match Daemon.start ⟨path, []⟩ with
  | .error _ => return Daemon.giveUpCode.toUInt32
  | .ok d =>
    let input ← readInput invocation
    if invocation = .misuse then for line in Exit.usage do IO.eprintln line
    (d.serve input invocation).2.tell

end FocusJournal

/-- Runs the command that the arguments name. -/
def main (arguments : List String) : IO UInt32 := do
  FocusJournal.runIn ((← IO.getEnv "HOME").getD "") arguments

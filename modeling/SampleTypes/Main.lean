import SampleTypes.CommandLine.Run

set_option autoImplicit false

/-! # The program

Reads the files a run asks for, has the run worked out, and does what it says. -/

namespace SampleTypes.CommandLine

open Json (Bytes)
open Files (FileFault)

/-- The number of a system error, which may arrive negated. -/
def systemNumber (code : UInt32) : Nat :=
  min code.toNat (-code).toNat

/-- The fault that an error of the system reports. -/
def fileFault : IO.Error → FileFault
  | .noFileOrDirectory .. => .notFound
  | .alreadyExists .. => .alreadyThere
  | .resourceBusy .. => .busy
  | .inappropriateType file code details =>
    match systemNumber code with
    | 20 => .notDirectory
    | 21 => .isDirectory
    | _ => .other (toString (IO.Error.inappropriateType file code details))
  | .invalidArgument file code details =>
    match systemNumber code with
    | 36 => .nameTooLong
    | _ => .other (toString (IO.Error.invalidArgument file code details))
  | e => .other (toString e)

/-- What an action returns, or the fault it meets. -/
def attempt {α : Type} (action : IO α) : IO (Except FileFault α) := do
  try return .ok (← action)
  catch e => return .error (fileFault e)

/-- The content of a file, if one is named. -/
def fetch (path : Option String) : IO (Except FileFault Bytes) :=
  match path with
  | none => return .error .notFound
  | some p => attempt do return (← IO.FS.readBinFile p).toList

/-- All that is left on a stream, behind `read`. -/
partial def drain (stream : IO.FS.Stream) (read : ByteArray) : IO ByteArray := do
  let chunk ← stream.read 65536
  if chunk.isEmpty then return read else drain stream (read ++ chunk)

/-- What is piped in; nothing at a terminal. -/
def piped : IO Bytes := do
  let stream ← IO.getStdin
  if ← stream.isTty then return [] else return (← drain stream .empty).toList

/-- Print an outcome. -/
def report (o : Outcome) : IO UInt32 := do
  IO.print o.output
  IO.eprint o.errors
  return o.exitCode.toUInt32

/-- Make a directory and all that lead to it, as far as they are not there. -/
partial def makeDirectories (p : Files.Path) : IO (Option FileFault) := do
  match p.parent? with
  | none => return none
  | some q =>
    match ← attempt (IO.FS.createDir p.text) with
    | .ok () => return none
    | .error .notFound =>
      match ← makeDirectories q with
      | some e => return some e
      | none => settle p (← attempt (IO.FS.createDir p.text))
    | .error e => settle p (.error e)
where
  /-- A directory that is there already will do. -/
  settle (p : Files.Path) : Except FileFault Unit → IO (Option FileFault)
    | .ok () => return none
    | .error e => do
      match ← attempt (IO.FS.realPath p.text) with
      | .ok real => return if ← real.isDir then none else some e
      | .error _ => return some e

/-- Write a text to a file by way of another one, which is removed if that fails. -/
def writeThrough (directory target : Files.Path) (text : String) : IO (Option Failure) := do
  let passing := directory.text ++ "/.json-decl-" ++ toString (← IO.monoNanosNow)
  match ← attempt (IO.FS.writeFile passing "") with
  | .error e => return some (.file .enter directory.text e)
  | .ok () =>
    match ← attempt (do IO.FS.writeFile passing text; IO.FS.rename passing target.text) with
    | .ok () => return none
    | .error e =>
      discard <| attempt (IO.FS.removeFile passing)
      return some (.file .write target.text e)

/-- Write a text to a file, whose directories are made as needed. -/
def saveFile (target : Files.Path) (text : String) : IO (Option Failure) := do
  let directory := directoryOf target
  match ← makeDirectories directory with
  | some e => return some (.file .create directory.text e)
  | none => writeThrough directory target text

/-- Run with the arguments given. -/
def runArguments (a : Arguments) : IO Outcome := do
  let options ← fetch a.options
  let input ← fetch a.input
  let read := fun path => if some path = a.options then options else input
  match a.product read (← attempt piped) with
  | .error e => return e.outcome
  | .ok p =>
    match p.target with
    | none => return p.outcome
    | some target =>
      match ← saveFile target p.text with
      | some e => return e.outcome
      | none => return p.outcome

end SampleTypes.CommandLine

open SampleTypes.CommandLine in
/-- Run a command line. -/
def main (arguments : List String) : IO UInt32 := do
  match Arguments.ofList arguments with
  | .error r => report (r.outcome .silent arguments)
  | .ok a => report (← runArguments a)

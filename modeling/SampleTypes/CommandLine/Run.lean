import SampleTypes.CommandLine.Arguments
import SampleTypes.CommandLine.Failure
import SampleTypes.Document
import SampleTypes.Files.Replacement
import SampleTypes.Options.OfDocument

set_option autoImplicit false

/-! # Runs

A run reads the options, then the document, and renders it. Only a source that is complete is
written anywhere. -/

namespace SampleTypes.CommandLine

open Json (Bytes)
open Files (FileFault)

/-! ## What is read -/

/-- How a file is read. -/
abbrev FileReader := String → Except FileFault Bytes

/-- The content of a file. -/
def readFile (files : FileReader) (path : String) : Except Failure Bytes :=
  match files path with
  | .ok content => .ok content
  | .error e => .error (.file .read path e)

/-- Whether an octet says nothing at all: space, tab, line feed, form feed, carriage return. -/
def isBlankOctet (b : UInt8) : Bool :=
  b == 0x20 || b == 0x09 || b == 0x0A || b == 0x0C || b == 0x0D

/-- The options of a run: those of the file, or else the defaults, with what the arguments make of
    them. -/
def Arguments.resolve (a : Arguments) (files : FileReader) : Except Failure Options :=
  match a.options with
  | none => .ok (a.override .default)
  | some path =>
    match readFile files path with
    | .error e => .error e
    | .ok content =>
      match Options.ofSource content with
      | .ok o => .ok (a.override o)
      | .error d => .error (.badOptions path d)

/-- The document of a run: what is piped in unless that is blank, or else the file, or else the
    argument. -/
def Arguments.source (a : Arguments) (files : FileReader) (piped : Except FileFault Bytes) :
    Except Failure Bytes :=
  match piped with
  | .error e => .error (.file .read "stdin" e)
  | .ok content =>
    if content.all isBlankOctet then
      match a.input, a.inline with
      | some path, _ => readFile files path
      | none, some text => .ok (utf8Bytes text)
      | none, none => .error .noInput
    else .ok content

/-! ## What is written -/

/-- A source, and the file it goes to. Without a file it is printed. -/
structure Product where
  text : String
  target : Option Files.Path
  deriving Repr, DecidableEq

/-- What a run makes. The file's name gets the language's extension if it has none. -/
def Arguments.product (a : Arguments) (files : FileReader) (piped : Except FileFault Bytes) :
    Except Failure Product :=
  match a.resolve files with
  | .error e => .error e
  | .ok o =>
    match a.source files piped with
    | .error e => .error e
    | .ok source =>
      match renderBytes (a.name.getD "Root") source o with
      | .error e => .error (.document e)
      | .ok text =>
        .ok ⟨text, a.out.map fun path =>
          (Files.Path.ofText path).orExtension o.language.fileExtension⟩

/-- The directory that a file is in. -/
def directoryOf (target : Files.Path) : Files.Path :=
  match target.parent? with
  | some p => if p.text.isEmpty then .ofText "." else p
  | none => .ofText "."

/-! ## Among files -/

/-- What is said about the arguments themselves, in words that no run depends on. -/
structure Manual where
  /-- The explanation that is asked for. -/
  help : String
  /-- What is wrong with a command line that makes no sense. -/
  misuse : (arguments : List String) → String

/-- Says nothing. -/
def Manual.silent : Manual where
  help := ""
  misuse := fun _ => ""

/-- What the system adds to a run: the faults that have no reason in the files and directories it
    is among, what it adds to a replacement, and what it says about arguments. -/
structure Host where
  /-- The fault that reading what is piped in meets. -/
  piping : Option FileFault
  /-- The fault that reading a file meets. -/
  reading : (path : String) → Option FileFault
  /-- The fault that making directories meets. -/
  making : Option FileFault
  passage : Files.Passage
  manual : Manual

namespace Host

/-- A system without faults of its own, which finds a name for every passing file and leaves
    arguments without a comment. -/
def smooth : Host where
  piping := none
  reading := fun _ => none
  making := none
  passage := ⟨fun taken => Naming.fresh taken "" ".passing", none, none, none⟩
  manual := .silent

/-- Read a file. -/
def read (host : Host) (t : Files.Tree) : FileReader := fun path =>
  match host.reading path with
  | some e => .error e
  | none => t.read (.ofText path)

/-- Read what is piped in. -/
def pipe (host : Host) (piped : Bytes) : Except FileFault Bytes :=
  match host.piping with
  | some e => .error e
  | none => .ok piped

/-- Make the directory of a file. -/
def makeDirectories (host : Host) (t : Files.Tree) (directory : Files.Path) :
    Files.Tree × Option FileFault :=
  match host.making with
  | some e => (t, some e)
  | none => t.makeDirectories directory

/-- Write a text to a file, whose directories are made as needed. -/
def save (host : Host) (t : Files.Tree) (target : Files.Path) (text : String) :
    Files.Tree × Option Failure :=
  let directory := directoryOf target
  match host.makeDirectories t directory with
  | (made, some e) => (made, some (.file .create directory.text e))
  | (made, none) =>
    match made.createPassing host.passage directory with
    | .error e => (made, some (.file .enter directory.text e))
    | .ok (passing, created) =>
      match created.writePassing host.passage passing (utf8Bytes text) with
      | (begun, some e) => (begun.remove passing, some (.file .write target.text e))
      | (written, none) =>
        match written.movePassing host.passage passing target with
        | .error e => (written.remove passing, some (.file .write target.text e))
        | .ok moved => (moved, none)

/-- Make what the arguments ask for, and save it if it has a target. The files are those that are
    there afterwards. -/
def execute (host : Host) (t : Files.Tree) (a : Arguments) (piped : Bytes) :
    Except Failure Product × Files.Tree :=
  match a.product (host.read t) (host.pipe piped) with
  | .error e => (.error e, t)
  | .ok p =>
    match p.target with
    | none => (.ok p, t)
    | some target =>
      match host.save t target p.text with
      | (left, some e) => (.error e, left)
      | (left, none) => (.ok p, left)

end Host

/-! ## The outcome -/

/-- How a run ends: its exit status, and what it prints on either stream. -/
structure Outcome where
  exitCode : Nat
  output : String
  errors : String
  deriving Repr, DecidableEq

/-- The answer when the version is asked for. -/
def versionText : String := "json-decl 0.1.0\n"

/-- The outcome of a command line that asks for no run. -/
def Refusal.outcome (manual : Manual) (arguments : List String) : Refusal → Outcome
  | .version => ⟨0, versionText, ""⟩
  | .help => ⟨0, manual.help, ""⟩
  | .misuse => ⟨2, "", manual.misuse arguments⟩

/-- The outcome of a failed run. -/
def Failure.outcome (e : Failure) : Outcome :=
  ⟨e.exitCode, "", "error: " ++ e.message ++ "\n"⟩

/-- The outcome of a run whose source was printed, or else went to a file. -/
def Product.outcome (p : Product) : Outcome :=
  ⟨0, if p.target.isNone then p.text else "", ""⟩

/-- Run a command line on a system, among files, with `piped` on standard input. The files are
    those that are there afterwards. -/
def runOn (host : Host) (t : Files.Tree) (arguments : List String) (piped : Bytes) :
    Outcome × Files.Tree :=
  match Arguments.ofList arguments with
  | .error r => (r.outcome host.manual arguments, t)
  | .ok a =>
    match host.execute t a piped with
    | (.error e, left) => (e.outcome, left)
    | (.ok p, left) => (p.outcome, left)

/-- Run a command line where the system has no faults of its own. -/
def run (t : Files.Tree) (arguments : List String) (piped : Bytes) : Outcome × Files.Tree :=
  runOn .smooth t arguments piped

end SampleTypes.CommandLine

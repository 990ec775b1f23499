import SampleTypes.CommandLine.Run
import SampleTypes.Proofs.Files.Path
import SampleTypes.Proofs.Files.Replacement

set_option autoImplicit false

/-! # What a run leaves behind

A run that fails prints nothing and leaves every file as it was, wherever it fails and whatever
the system does to it. A run that does not fail has delivered the source that the library makes of
the document and the options: printed, or as the content of one file. -/

namespace SampleTypes.CommandLine

open Json (Bytes)
open Files (FileFault Path Tree)
open Files.Tree (SameFiles HoldsAt)

variable {host : Host} {t left : Tree} {a : Arguments} {piped : Bytes}

/-! ## The document -/

/-- The octets that say nothing: space, tab, line feed, form feed, carriage return. -/
def blankOctets : Bytes := [0x20, 0x09, 0x0A, 0x0C, 0x0D]

/-- Which document a run is about: what is piped in if any of it says anything, or else the file,
    or else the argument. -/
inductive Arguments.Chooses (a : Arguments) (files : FileReader) (piped : Bytes) : Bytes → Prop where
  | piped : (∃ b ∈ piped, b ∉ blankOctets) → Chooses a files piped piped
  | file {path : String} {content : Bytes} :
    (∀ b ∈ piped, b ∈ blankOctets) → a.input = some path → files path = .ok content →
    Chooses a files piped content
  | inline {text : String} :
    (∀ b ∈ piped, b ∈ blankOctets) → a.input = none → a.inline = some text →
    Chooses a files piped (utf8Bytes text)

theorem isBlankOctet_iff {b : UInt8} : isBlankOctet b = true ↔ b ∈ blankOctets := by
  simp [isBlankOctet, blankOctets, or_assoc]

theorem readFile_ok {files : FileReader} {path : String} {content : Bytes} :
    readFile files path = .ok content ↔ files path = .ok content := by
  unfold readFile
  split <;> simp_all

/-- The document that is read is the one chosen, if the system lets it be read. -/
theorem source_eq_ok {files : FileReader} {source : Bytes} :
    a.source files (host.pipe piped) = .ok source ↔
      host.piping = none ∧ a.Chooses files piped source := by
  unfold Arguments.source Host.pipe
  cases hpiping : host.piping with
  | some e => simp
  | none =>
    simp only [true_and]
    by_cases hblank : piped.all isBlankOctet = true
    · have hall : ∀ b ∈ piped, b ∈ blankOctets := by
        intro b hb
        exact isBlankOctet_iff.1 (List.all_eq_true.1 hblank b hb)
      have hnone : ¬ ∃ b ∈ piped, b ∉ blankOctets := by
        rintro ⟨b, hb, hsays⟩
        exact hsays (hall b hb)
      rw [if_pos hblank]
      constructor
      · intro h
        split at h
        · rename_i path hpath
          exact .file hall hpath (readFile_ok.1 h)
        · rename_i text hinput hinline
          cases h
          exact .inline hall hinput hinline
        · exact absurd h (by simp)
      · intro h
        cases h with
        | piped hsays => exact absurd hsays hnone
        | file _ hpath hcontent => simp [hpath, readFile_ok.2 hcontent]
        | inline _ hinput hinline => simp [hinput, hinline]
    · have hsays : ∃ b ∈ piped, b ∉ blankOctets := by
        simpa [isBlankOctet_iff] using hblank
      have hnone : ¬ ∀ b ∈ piped, b ∈ blankOctets := by
        intro hall
        obtain ⟨b, hb, hsays⟩ := hsays
        exact hsays (hall b hb)
      rw [if_neg hblank]
      constructor
      · intro h
        cases h
        exact .piped hsays
      · intro h
        cases h with
        | piped _ => rfl
        | file hall _ _ => exact absurd hall hnone
        | inline hall _ _ => exact absurd hall hnone

/-- What a run makes is the source that the library makes of the document and the options. -/
theorem product_eq_ok {files : FileReader} {pipe : Except FileFault Bytes} {p : Product} :
    a.product files pipe = .ok p ↔ ∃ o source, a.resolve files = .ok o ∧
      a.source files pipe = .ok source ∧ renderBytes (a.name.getD "Root") source o = .ok p.text ∧
      p.target = a.out.map fun path => (Path.ofText path).orExtension o.language.fileExtension := by
  unfold Arguments.product
  constructor
  · intro h
    split at h
    · exact absurd h (by simp)
    · rename_i o ho
      split at h
      · exact absurd h (by simp)
      · rename_i source hsource
        split at h
        · exact absurd h (by simp)
        · rename_i text htext
          cases h
          exact ⟨o, source, ho, hsource, htext, rfl⟩
  · rintro ⟨o, source, ho, hsource, htext, htarget⟩
    obtain ⟨text, target⟩ := p
    simp only at htext htarget
    simp only [ho, hsource, htext, htarget]

/-! ## The file -/

theorem sameFiles_makeDirectories (host : Host) (t : Tree) (directory : Path) :
    SameFiles (host.makeDirectories t directory).1 t := by
  unfold Host.makeDirectories
  split
  · exact .refl t
  · exact Tree.sameFiles_makeDirectories t directory

/-- Saving changes the one file that the target is, or no file if it fails. -/
theorem save_cases (host : Host) (t : Tree) (target : Path) (text : String) :
    (∃ e left, host.save t target text = (left, some e) ∧ SameFiles left t) ∨
      ∃ left, host.save t target text = (left, none) ∧
        HoldsAt left t target (utf8Bytes text) := by
  have hmade := sameFiles_makeDirectories host t (directoryOf target)
  unfold Host.save
  simp only
  split
  · rename_i made e hmake
    rw [hmake] at hmade
    exact .inl ⟨_, _, rfl, hmade⟩
  · rename_i made hmake
    rw [hmake] at hmade
    split
    · exact .inl ⟨_, _, rfl, hmade⟩
    · rename_i passing created hcreate
      obtain ⟨content, hwrite, hcontent⟩ :=
        (Tree.passedBy_of_createPassing hcreate).writePassing host.passage (utf8Bytes text)
      split
      · rename_i begun e hbegun
        rw [hbegun] at hwrite
        exact .inl ⟨_, _, rfl, hwrite.sameFiles_remove.trans hmade⟩
      · rename_i written hwritten
        rw [hwritten] at hwrite hcontent
        obtain rfl := hcontent rfl
        split
        · exact .inl ⟨_, _, rfl, hwrite.sameFiles_remove.trans hmade⟩
        · rename_i moved hmove
          exact .inr ⟨_, rfl, (hwrite.holdsAt_movePassing hmove).congr hmade⟩

/-! ## The run -/

/-- A source of this text is delivered: it is all that is printed and the tree is as it was, or
    nothing is printed and one file has changed, which is the target and holds the text. The
    target is the path given, with the extension of the language added if it has none. -/
def Arguments.Delivers (a : Arguments) (o : Options) (text : String) (t : Tree)
    (outcome : Outcome) (left : Tree) : Prop :=
  match a.out with
  | none => outcome.output = text ∧ left = t
  | some path => outcome.output = "" ∧
    ∃ target, (Path.ofText path).CompletedBy o.language.fileExtension target ∧
      HoldsAt left t target (utf8Bytes text)

/-- How a run of these arguments may end. -/
structure Arguments.EndsWell (a : Arguments) (host : Host) (t : Tree) (piped : Bytes)
    (outcome : Outcome) (left : Tree) : Prop where
  /-- A run that fails leaves no trace, a message aside. -/
  failed : outcome.exitCode ≠ 0 → outcome.output = "" ∧ SameFiles left t
  /-- A run that does not fail delivers what the library makes of the document chosen. -/
  done : outcome.exitCode = 0 → ∃ o source text, a.resolve (host.read t) = .ok o ∧
    a.Chooses (host.read t) piped source ∧
    renderBytes (a.name.getD "Root") source o = .ok text ∧ a.Delivers o text t outcome left
  /-- A run that only prints does not fail without a reason. -/
  printed : ∀ o source text, host.piping = none → a.out = none →
    a.resolve (host.read t) = .ok o → a.Chooses (host.read t) piped source →
    renderBytes (a.name.getD "Root") source o = .ok text → outcome.exitCode = 0

theorem Failure.exitCode_ne_zero (e : Failure) : e.exitCode ≠ 0 := by
  cases e with
  | document e => cases e <;> simp [exitCode, Error.exitCode]
  | _ => simp [exitCode]

theorem fileExtension_char (language : Language) :
    ∃ c ∈ language.fileExtension.toList, c ≠ '.' := by
  cases language
  · exact ⟨'c', by decide, by decide⟩
  · exact ⟨'p', by decide, by decide⟩

/-- A failed execution leaves the files alone; any other one delivers its product. -/
theorem execute_cases (host : Host) (t : Tree) (a : Arguments) (piped : Bytes) :
    (∃ e left, host.execute t a piped = (.error e, left) ∧ SameFiles left t) ∨
      ∃ p left o source, host.execute t a piped = (.ok p, left) ∧
        a.resolve (host.read t) = .ok o ∧ a.Chooses (host.read t) piped source ∧
        renderBytes (a.name.getD "Root") source o = .ok p.text ∧
        a.Delivers o p.text t p.outcome left := by
  unfold Host.execute
  cases hproduct : a.product (host.read t) (host.pipe piped) with
  | error e => exact .inl ⟨e, t, rfl, .refl t⟩
  | ok p =>
    obtain ⟨o, source, ho, hsource, htext, htarget⟩ := product_eq_ok.1 hproduct
    have hchosen := (source_eq_ok.1 hsource).2
    cases hout : a.out with
    | none =>
      rw [hout, Option.map_none] at htarget
      refine .inr ⟨p, t, o, source, by simp only [htarget], ho, hchosen, htext, ?_⟩
      simp [Arguments.Delivers, hout, Product.outcome, htarget]
    | some path =>
      rw [hout, Option.map_some] at htarget
      simp only [htarget]
      rcases save_cases host t ((Path.ofText path).orExtension o.language.fileExtension) p.text
        with ⟨e, left, hsave, hsame⟩ | ⟨left, hsave, hholds⟩
      · exact .inl ⟨e, left, by simp only [hsave], hsame⟩
      · refine .inr ⟨p, left, o, source, by simp only [hsave], ho, hchosen, htext, ?_⟩
        simp only [Arguments.Delivers, hout, Product.outcome, htarget]
        exact ⟨rfl, _, Path.completedBy_orExtension (fileExtension_char o.language) _, hholds⟩

/-- An execution that only prints comes to what the library makes of the document. -/
theorem execute_of_text {o : Options} {source : Bytes} {text : String}
    (hpiping : host.piping = none) (hout : a.out = none) (ho : a.resolve (host.read t) = .ok o)
    (hchosen : a.Chooses (host.read t) piped source)
    (htext : renderBytes (a.name.getD "Root") source o = .ok text) :
    host.execute t a piped = (.ok ⟨text, none⟩, t) := by
  have hproduct : a.product (host.read t) (host.pipe piped) = .ok ⟨text, none⟩ :=
    product_eq_ok.2 ⟨o, source, ho, source_eq_ok.2 ⟨hpiping, hchosen⟩, htext, by simp [hout]⟩
  unfold Host.execute
  simp only [hproduct]

theorem runOn_of_error {arguments : List String} {e : Failure}
    (h : Arguments.ofList arguments = .ok a)
    (hexecute : host.execute t a piped = (.error e, left)) :
    runOn host t arguments piped = (e.outcome, left) := by
  simp only [runOn, h, hexecute]

theorem runOn_of_ok {arguments : List String} {p : Product}
    (h : Arguments.ofList arguments = .ok a)
    (hexecute : host.execute t a piped = (.ok p, left)) :
    runOn host t arguments piped = (p.outcome, left) := by
  simp only [runOn, h, hexecute]

/-- Every run of arguments that make sense ends well, on every system and among all files. -/
theorem runOn_endsWell {arguments : List String} (h : Arguments.ofList arguments = .ok a)
    (host : Host) (t : Tree) (piped : Bytes) :
    a.EndsWell host t piped (runOn host t arguments piped).1 (runOn host t arguments piped).2 := by
  refine ⟨?_, ?_, ?_⟩
  · intro hfailed
    rcases execute_cases host t a piped with
      ⟨e, left, hexecute, hsame⟩ | ⟨p, left, o, source, hexecute, -⟩
    · rw [runOn_of_error h hexecute]
      exact ⟨rfl, hsame⟩
    · rw [runOn_of_ok h hexecute] at hfailed
      exact absurd rfl hfailed
  · intro hdone
    rcases execute_cases host t a piped with
      ⟨e, left, hexecute, -⟩ | ⟨p, left, o, source, hexecute, ho, hchosen, htext, hdelivers⟩
    · rw [runOn_of_error h hexecute] at hdone
      exact absurd hdone (Failure.exitCode_ne_zero e)
    · rw [runOn_of_ok h hexecute]
      exact ⟨o, source, p.text, ho, hchosen, htext, hdelivers⟩
  · intro o source text hpiping hout ho hchosen htext
    rw [runOn_of_ok h (execute_of_text hpiping hout ho hchosen htext)]
    rfl

/-- A document on the command line, and a target in a directory that is not there yet. -/
def savedArguments : List String :=
  ["\x7b\"a\":1\x7d", "-lpy", "-omade/Root"]

theorem savedArguments_endWell :
    Arguments.ofList savedArguments = .ok { Arguments.blank with
      inline := some "\x7b\"a\":1\x7d", language := some "py", out := some "made/Root" } ∧
    (run (.ofWorkingDirectory ["home"]) savedArguments []).2.read (.ofText "made/Root.py")
      = .ok (utf8Bytes
        "from dataclasses import dataclass\n\n@dataclass(frozen=True)\nclass Root:\n    a: int\n") ∧
    Arguments.EndsWell { Arguments.blank with
      inline := some "\x7b\"a\":1\x7d", language := some "py", out := some "made/Root" } .smooth
      (.ofWorkingDirectory ["home"]) []
      (run (.ofWorkingDirectory ["home"]) savedArguments []).1
      (run (.ofWorkingDirectory ["home"]) savedArguments []).2 := by
  have harguments : Arguments.ofList savedArguments = .ok { Arguments.blank with
      inline := some "\x7b\"a\":1\x7d", language := some "py", out := some "made/Root" } := by
    cbv
  exact ⟨harguments, by cbv, runOn_endsWell harguments _ _ _⟩

end SampleTypes.CommandLine

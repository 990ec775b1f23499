import Mathlib
import SampleTypes.Target.CSharp

set_option autoImplicit false

/-! # String literals read back

Keys come from the source document and go into the generated source as string literals. A reader of
regular string literals, as the C# compiler has one, finds the end of the literal of a key where it
is, whatever follows, and makes the key of it again. It refuses characters that end a line, and two
of these are not escaped. -/

namespace SampleTypes.CSharp

/-! ## A reader of regular string literals -/

/-- The characters that end a line: line feed, carriage return, next line, line separator and
    paragraph separator. -/
def lineTerminators : List Char := ['\n', '\r', '\u0085', '\u2028', '\u2029']

/-- The value of a hexadecimal digit. -/
def hexValue? (c : Char) : Option Nat :=
  if c.isDigit then some (c.toNat - '0'.toNat)
  else if 'a' ≤ c ∧ c ≤ 'f' then some (c.toNat - 'a'.toNat + 10)
  else if 'A' ≤ c ∧ c ≤ 'F' then some (c.toNat - 'A'.toNat + 10)
  else none

/-- The character that four hexadecimal digits name. Half of a surrogate pair is none. -/
def hexChar? (w x y z : Char) : Option Char := do
  let n := (((← hexValue? w) * 16 + (← hexValue? x)) * 16 + (← hexValue? y)) * 16 + (← hexValue? z)
  if n.isValidChar then some (Char.ofNat n) else none

/-- The character that a backslash and one more character stand for. -/
def simpleEscape? (c : Char) : Option Char :=
  if c = '"' ∨ c = '\\' then some c
  else if c = 'n' then some '\n'
  else if c = 'r' then some '\r'
  else if c = 't' then some '\t'
  else if c = '0' then some '\x00'
  else none

/-- Put a character in front of a text that was read. -/
def push (c : Char) (read : List Char × List Char) : List Char × List Char :=
  (c :: read.1, read.2)

/-- The text up to the closing quote, and what follows the quote. Other characters than quotes and
    backslashes stand for themselves where `raw` allows them. -/
def readBody? (raw : Char → Bool) : List Char → Option (List Char × List Char)
  | [] => none
  | '"' :: rest => some ([], rest)
  | '\\' :: 'u' :: w :: x :: y :: z :: rest =>
    (hexChar? w x y z).bind fun c => (readBody? raw rest).map (push c)
  | '\\' :: e :: rest => (simpleEscape? e).bind fun c => (readBody? raw rest).map (push c)
  | c :: rest => if raw c then (readBody? raw rest).map (push c) else none

/-- The text of the literal in front, and what follows it. -/
def readLiteral? (raw : Char → Bool) : List Char → Option (List Char × List Char)
  | '"' :: rest => readBody? raw rest
  | _ => none

/-! ## One character -/

theorem hexValue?_hexDigit : ∀ n < 16, hexValue? (hexDigit n) = some n := by
  decide

theorem hexChar?_hexUnit {c w x y z : Char} (hc : c.toNat < 65536)
    (hunit : hexUnit c.toNat = [w, x, y, z]) : hexChar? w x y z = some c := by
  obtain ⟨rfl, rfl, rfl, rfl, -⟩ := by simpa only [hexUnit, List.cons.injEq] using hunit
  have hdigits : ((c.toNat / 4096 % 16 * 16 + c.toNat / 256 % 16) * 16 + c.toNat / 16 % 16) * 16
      + c.toNat % 16 = c.toNat := by
    omega
  have hvalue : ∀ n : Nat, hexValue? (hexDigit (n % 16)) = some (n % 16) := fun n =>
    hexValue?_hexDigit _ (Nat.mod_lt n (by decide))
  have hvalid : c.toNat.isValidChar := c.valid
  simp only [hexChar?, hvalue, Option.bind_eq_bind, Option.bind_some, hdigits, if_pos hvalid,
    Char.ofNat_toNat]

/-- A character is written as itself, as a backslash with one more character, or by its number. -/
theorem escape_cases (c : Char) :
    (escape c = [c] ∧ c ≠ '"' ∧ c ≠ '\\') ∨
    (∃ e, escape c = ['\\', e] ∧ simpleEscape? e = some c) ∨
    (∃ w x y z, escape c = ['\\', 'u', w, x, y, z] ∧ hexChar? w x y z = some c) := by
  unfold escape
  split
  · next h => exact .inr (.inl ⟨'"', rfl, by subst h; decide⟩)
  split
  · next h => exact .inr (.inl ⟨'\\', rfl, by subst h; decide⟩)
  split
  · next h => exact .inr (.inl ⟨'n', rfl, by subst h; decide⟩)
  split
  · next h => exact .inr (.inl ⟨'r', rfl, by subst h; decide⟩)
  split
  · next h => exact .inr (.inl ⟨'t', rfl, by subst h; decide⟩)
  split
  · next h => exact .inr (.inl ⟨'0', rfl, by subst h; decide⟩)
  split
  · next hcontrol =>
    -- The control characters end at U+009F, so that four hexadecimal digits name each of them.
    have hunit : c.toNat < 65536 := by
      simp only [Unicode.isControl, Bool.or_eq_true, Bool.and_eq_true, decide_eq_true_eq] at hcontrol
      omega
    exact .inr (.inr ⟨_, _, _, _, rfl, hexChar?_hexUnit hunit rfl⟩)
  · next hquote hbackslash _ _ _ _ _ => exact .inl ⟨rfl, hquote, hbackslash⟩

theorem readBody?_cons (raw : Char → Bool) {c : Char} (hquote : c ≠ '"') (hbackslash : c ≠ '\\')
    (s : List Char) :
    readBody? raw (c :: s) = if raw c then (readBody? raw s).map (push c) else none := by
  rw [readBody?.eq_def]
  split <;> simp_all

theorem readBody?_simple (raw : Char → Bool) {e c : Char} (h : simpleEscape? e = some c)
    (s : List Char) : readBody? raw ('\\' :: e :: s) = (readBody? raw s).map (push c) := by
  have hu : e ≠ 'u' := by
    rintro rfl
    cases h
  simp [readBody?, hu, h]

/-- Whether a character is written as itself where that is not allowed. -/
def isRefused (raw : Char → Bool) (c : Char) : Bool :=
  escape c == [c] && !raw c

/-- What is written for a character is read as the character, unless it is refused. -/
theorem readBody?_escape (raw : Char → Bool) (c : Char) (s : List Char) :
    readBody? raw (escape c ++ s) =
      if isRefused raw c then none else (readBody? raw s).map (push c) := by
  rcases escape_cases c with ⟨hsame, hquote, hbackslash⟩ | ⟨e, hescape, hsimple⟩ |
    ⟨w, x, y, z, hescape, hchar⟩
  · rw [isRefused, hsame, List.singleton_append, readBody?_cons raw hquote hbackslash]
    cases raw c <;> simp
  · simp [isRefused, hescape, readBody?_simple raw hsimple]
  · simp [isRefused, hescape, readBody?, hchar]

/-! ## Texts -/

theorem readBody?_flatMap_escape (raw : Char → Bool) (text rest : List Char) :
    readBody? raw (text.flatMap escape ++ '"' :: rest) =
      if text.any (isRefused raw) then none else some (text, rest) := by
  induction text with
  | nil => simp [readBody?]
  | cons c text ih =>
    rw [List.flatMap_cons, List.append_assoc, readBody?_escape, ih, List.any_cons]
    cases isRefused raw c with
    | true => rfl
    | false => cases text.any (isRefused raw) <;> rfl

theorem readLiteral?_stringLiteral (raw : Char → Bool) (text : String) (rest : List Char) :
    readLiteral? raw ((stringLiteral text).toList ++ rest) =
      if text.toList.any (isRefused raw) then none else some (text.toList, rest) := by
  have hliteral : (stringLiteral text).toList ++ rest
      = '"' :: (text.toList.flatMap escape ++ '"' :: rest) := by
    simp [stringLiteral]
  rw [hliteral]
  exact readBody?_flatMap_escape raw text.toList rest

/-- The two characters that end a line and are no control characters. -/
def isSeparator (c : Char) : Bool :=
  c == '\u2028' || c == '\u2029'

/-- Of the characters that end a line the separators alone are written as themselves. -/
theorem isRefused_lineTerminators (c : Char) :
    isRefused (· ∉ lineTerminators) c = isSeparator c := by
  by_cases hc : c ∈ lineTerminators
  · simp only [lineTerminators, List.mem_cons, List.not_mem_nil, or_false] at hc
    rcases hc with rfl | rfl | rfl | rfl | rfl <;> decide
  · have hnone : isSeparator c = false := by
      simp only [lineTerminators, List.mem_cons, not_or] at hc
      simp [isSeparator, hc]
    simp [isRefused, hc, hnone]

/-- The literal of a text is read back as the text, and ends where it ends, whatever follows. None
    of its characters ends the line if and only if the text holds neither a line separator nor a
    paragraph separator. -/
theorem stringLiteral_read_back (text : String) (rest : List Char) :
    readLiteral? (fun _ => true) ((stringLiteral text).toList ++ rest) = some (text.toList, rest) ∧
    readLiteral? (· ∉ lineTerminators) ((stringLiteral text).toList ++ rest) =
      if text.toList.any isSeparator then none else some (text.toList, rest) := by
  constructor
  · rw [readLiteral?_stringLiteral, if_neg (by simp [isRefused])]
  · rw [readLiteral?_stringLiteral, funext isRefused_lineTerminators]

/-- A line separator ends the line inside the literal of its text. -/
theorem lineSeparator_not_read_back :
    stringLiteral "\u2028" = "\"\u2028\"" ∧ '\u2028' ∈ lineTerminators ∧
      readLiteral? (· ∉ lineTerminators) (stringLiteral "\u2028").toList = none := by
  decide +kernel

end SampleTypes.CSharp

import Mathlib
import SampleTypes.Json.Reader

set_option autoImplicit false

/-! # What a reader returns

A reader's result is typed over the source it reads, which makes results for different sources
incomparable. `Read.outcome` keeps the value and what is left after it, and each reader of
documents satisfies one equation between outcomes, in which the blanks before a token are gone
through `skipBlanks`. -/

namespace SampleTypes.Json

/-- The value that was read and what is left of the source; none if reading failed. -/
def Read.outcome {α : Type} {s : Bytes} : Read α s → Option (α × Bytes)
  | .ok p => some (p.value, p.rest)
  | .error _ => none

namespace Read

variable {α : Type} {s : Bytes}

@[simp] theorem outcome_ok (p : Parsed α s) :
    outcome (.ok p : Read α s) = some (p.value, p.rest) := rfl

@[simp] theorem outcome_error (e : Fault) : outcome (.error e : Read α s) = none := rfl

theorem outcome_eq_some {r : Read α s} {v : α} {rest : Bytes} :
    r.outcome = some (v, rest) ↔ ∃ p, r = .ok p ∧ p.value = v ∧ p.rest = rest := by
  cases r with
  | ok p => simp
  | error e => simp

end Read

/-! ## Blanks -/

theorem skipBlanks_append {blanks : Bytes} (h : ∀ b ∈ blanks, Octet.isBlank b = true)
    (s : Bytes) : skipBlanks (blanks ++ s) = skipBlanks s :=
  List.dropWhile_append_of_pos h

theorem skipBlanks_cons_of_blank {b : UInt8} (h : Octet.isBlank b = true) (s : Bytes) :
    skipBlanks (b :: s) = skipBlanks s :=
  List.dropWhile_cons_of_pos h

theorem skipBlanks_cons_of_not_blank {b : UInt8} (h : Octet.isBlank b = false) (s : Bytes) :
    skipBlanks (b :: s) = b :: s := by
  rw [skipBlanks, List.dropWhile_cons_of_neg (by simp [h])]

theorem not_blank_of_skipBlanks {s rest : Bytes} {b : UInt8} (h : skipBlanks s = b :: rest) :
    Octet.isBlank b = false := by
  have hhead := List.head?_dropWhile_not Octet.isBlank s
  rw [skipBlanks] at h
  simpa [h] using hhead

theorem skipBlanks_skipBlanks (s : Bytes) : skipBlanks (skipBlanks s) = skipBlanks s := by
  cases h : skipBlanks s with
  | nil => rfl
  | cons b rest => exact skipBlanks_cons_of_not_blank (not_blank_of_skipBlanks h) rest

theorem nextToken?_eq_some {s rest : Bytes} {b : UInt8} (h : skipBlanks s = b :: rest) :
    nextToken? s = some ⟨b, rest, length_lt_of_skipBlanks h⟩ := by
  unfold nextToken?
  split
  · next hs => rw [hs] at h; cases h
  · next c more hs =>
    rw [hs] at h
    cases h
    rfl

/-! ## Readers -/

variable {s rest : Bytes} {b : UInt8}

theorem readColon_outcome (s : Bytes) : (readColon s).outcome =
    match skipBlanks s with
    | [] => none
    | b :: rest => if b = Octet.colon then some ((), rest) else none := by
  unfold readColon
  cases h : skipBlanks s with
  | nil => rw [nextToken?_eq_none_iff.mpr h]; rfl
  | cons b rest =>
    rw [nextToken?_eq_some h]
    dsimp only
    split <;> rfl

theorem readKey_outcome (s : Bytes) : (readKey s).outcome =
    (readText s).outcome.bind fun key =>
      (readColon key.2).outcome.map fun colon => (key.1, colon.2) := by
  unfold readKey
  cases readText s with
  | error e => rfl
  | ok key =>
    dsimp only [Read.outcome_ok, Option.bind_some]
    cases readColon key.rest <;> rfl

/-- A value behind the blanks in front of it. -/
theorem readValue_outcome (depth : Nat) (s : Bytes) : (readValue depth s).outcome =
    match skipBlanks s with
    | [] => none
    | b :: rest =>
      if b = Octet.openBracket then
        match depth, skipBlanks rest with
        | 0, _ | _, [] => none
        | inner + 1, c :: more =>
          if c = Octet.closeBracket then some (.array [], more)
          else (readItems inner (c :: more)).outcome.map fun p => (.array p.1, p.2)
      else if b = Octet.openBrace then
        match depth, skipBlanks rest with
        | 0, _ | _, [] => none
        | inner + 1, c :: more =>
          if c = Octet.closeBrace then some (.object [], more)
          else if c = Octet.quote then
            (readMembers inner more).outcome.map fun p => (.object (mergeMembers p.1), p.2)
          else none
      else (readScalar b rest).outcome := by
  rw [readValue]
  cases h : skipBlanks s with
  | nil => rw [nextToken?_eq_none_iff.mpr h]; rfl
  | cons b rest =>
    rw [nextToken?_eq_some h]
    dsimp only
    by_cases hlist : b = Octet.openBracket
    · simp only [hlist, if_true]
      cases depth with
      | zero => rfl
      | succ inner =>
        cases hnext : skipBlanks rest with
        | nil => rw [nextToken?_eq_none_iff.mpr hnext]; rfl
        | cons c more =>
          rw [nextToken?_eq_some hnext]
          dsimp only [Token.source]
          split
          · rfl
          · cases readItems inner (c :: more) <;> rfl
    · by_cases hrecord : b = Octet.openBrace
      · simp only [hrecord, if_neg (show ¬ Octet.openBrace = Octet.openBracket by decide),
          if_true]
        cases depth with
        | zero => rfl
        | succ inner =>
          cases hnext : skipBlanks rest with
          | nil => rw [nextToken?_eq_none_iff.mpr hnext]; rfl
          | cons c more =>
            rw [nextToken?_eq_some hnext]
            dsimp only
            split
            · rfl
            · split
              · cases readMembers inner more <;> rfl
              · rfl
      · simp only [hlist, hrecord, if_false]
        cases readScalar b rest <;> rfl

/-- Items are read from a value on, and the blanks in front of it do not matter. -/
theorem readItems_outcome (depth : Nat) (s : Bytes) : (readItems depth s).outcome =
    (readValue depth s).outcome.bind fun v =>
      match skipBlanks v.2 with
      | [] => none
      | b :: rest =>
        if b = Octet.closeBracket then some ([v.1], rest)
        else if b = Octet.comma then
          match skipBlanks rest with
          | [] => none
          | c :: more =>
            if c = Octet.closeBracket then none
            else (readItems depth (c :: more)).outcome.map fun p => (v.1 :: p.1, p.2)
        else none := by
  rw [readItems]
  cases readValue depth s with
  | error e => rfl
  | ok v =>
    dsimp only [Read.outcome_ok, Option.bind_some]
    cases h : skipBlanks v.rest with
    | nil => rw [nextToken?_eq_none_iff.mpr h]; rfl
    | cons b rest =>
      rw [nextToken?_eq_some h]
      dsimp only
      split
      · rfl
      · split
        · cases hnext : skipBlanks rest with
          | nil => rw [nextToken?_eq_none_iff.mpr hnext]; rfl
          | cons c more =>
            rw [nextToken?_eq_some hnext]
            dsimp only [Token.source]
            split
            · rfl
            · cases readItems depth (c :: more) <;> rfl
        · rfl

theorem readItems_skipBlanks (depth : Nat) (s : Bytes) :
    (readItems depth (skipBlanks s)).outcome = (readItems depth s).outcome := by
  rw [readItems_outcome, readItems_outcome depth s, readValue_outcome, readValue_outcome depth s,
    skipBlanks_skipBlanks]

theorem readMembers_outcome (depth : Nat) (s : Bytes) : (readMembers depth s).outcome =
    (readKey s).outcome.bind fun k =>
      (readValue depth k.2).outcome.bind fun v =>
        match skipBlanks v.2 with
        | [] => none
        | b :: rest =>
          if b = Octet.closeBrace then some ([(k.1, v.1)], rest)
          else if b = Octet.comma then
            match skipBlanks rest with
            | [] => none
            | c :: more =>
              if c = Octet.quote then
                (readMembers depth more).outcome.map fun p => ((k.1, v.1) :: p.1, p.2)
              else none
          else none := by
  rw [readMembers]
  cases readKey s with
  | error e => rfl
  | ok k =>
    dsimp only [Read.outcome_ok, Option.bind_some]
    cases readValue depth k.rest with
    | error e => rfl
    | ok v =>
      dsimp only [Read.outcome_ok, Option.bind_some]
      cases h : skipBlanks v.rest with
      | nil => rw [nextToken?_eq_none_iff.mpr h]; rfl
      | cons b rest =>
        rw [nextToken?_eq_some h]
        dsimp only
        split
        · rfl
        · split
          · cases hnext : skipBlanks rest with
            | nil => rw [nextToken?_eq_none_iff.mpr hnext]; rfl
            | cons c more =>
              rw [nextToken?_eq_some hnext]
              dsimp only [Token.source]
              split
              · cases readMembers depth more <;> rfl
              · split <;> rfl
          · rfl

/-- A document is a value with nothing but blanks behind it. -/
theorem readDocument_eq_ok {source : Bytes} {v : Value} : readDocument source = .ok v ↔
    ∃ rest, (readValue maxDepth source).outcome = some (v, rest) ∧ skipBlanks rest = [] := by
  unfold readDocument expectEnd
  cases readValue maxDepth source with
  | error e => simp
  | ok p =>
    dsimp only
    cases h : skipBlanks p.rest with
    | nil => simp [h]
    | cons b rest =>
      simp only [reduceCtorEq, Read.outcome_ok, Option.some.injEq, Prod.mk.injEq, false_iff]
      rintro ⟨_, ⟨-, rfl⟩, hrest⟩
      rw [h] at hrest
      cases hrest

end SampleTypes.Json

import SampleTypes.Proofs.Json.Relaxing

set_option autoImplicit false

/-! # Strict sources

Relaxing changes nothing in a source that the strict reader accepts as it is. The proof follows
the reader: up to where it stops, the scan has passed the same octets and has left each of them in
its place, since blanks hold no comment, a string ends where the reader says it does, and behind
a comma the reader wants a value or a key, which closes nothing. -/

namespace SampleTypes.Json

/-! ## Octets left in place -/

/-- Up to where `r` is left of `s` and `r'` of `s'`, these two are the same. -/
def SameUpTo (s s' r r' : Bytes) : Prop :=
  ∃ w, s = w ++ r ∧ s' = w ++ r'

namespace SameUpTo

theorem of_append (w r r' : Bytes) : SameUpTo (w ++ r) (w ++ r') r r' :=
  ⟨w, rfl, rfl⟩

theorem trans {s s' t t' r r' : Bytes} (h : SameUpTo s s' t t') (h' : SameUpTo t t' r r') :
    SameUpTo s s' r r' := by
  obtain ⟨w, rfl, rfl⟩ := h
  obtain ⟨w', rfl, rfl⟩ := h'
  exact ⟨w ++ w', (List.append_assoc ..).symm, (List.append_assoc ..).symm⟩

theorem cons (b : UInt8) {s s' r r' : Bytes} (h : SameUpTo s s' r r') :
    SameUpTo (b :: s) (b :: s') r r' := by
  obtain ⟨w, rfl, rfl⟩ := h
  exact ⟨b :: w, rfl, rfl⟩

/-- Where the same is left of both, both are the same. -/
theorem eq {s s' r : Bytes} (h : SameUpTo s s' r r) : s' = s := by
  obtain ⟨w, rfl, rfl⟩ := h
  rfl

theorem length_le {s s' r r' : Bytes} (h : SameUpTo s s' r r') : r.length ≤ s.length := by
  obtain ⟨w, rfl, -⟩ := h
  rw [List.length_append]
  omega

end SameUpTo

/-! ## Gaps without comments -/

/-- In front of its first token a source has a gap, and the strict reader skips no more of it than
    its blanks, which stay as they are. -/
theorem exists_gap_of_skipBlanks (s : Bytes) :
    ∃ g : Gap, s = g.text ++ skipBlanks s ∧ g.blanked = g.text := by
  induction s with
  | nil => exact ⟨[], rfl, rfl⟩
  | cons b s ih =>
    cases hblank : Octet.isBlank b with
    | false => exact ⟨[], (skipBlanks_cons_of_not_blank hblank s).symm, rfl⟩
    | true =>
      obtain ⟨g, hs, hg⟩ := ih
      refine ⟨.blank b hblank :: g, ?_, congrArg (b :: ·) hg⟩
      rw [skipBlanks_cons_of_blank hblank]
      exact congrArg (b :: ·) hs

/-- The scan leaves the blanks in front of a token in place. -/
theorem sameUpTo_skipBlanks (before : Option UInt8) (s : Bytes) :
    SameUpTo s (relaxFrom before s) (skipBlanks s) (relaxFrom before (skipBlanks s)) := by
  obtain ⟨g, hs, hg⟩ := exists_gap_of_skipBlanks s
  refine ⟨g.text, hs, ?_⟩
  conv_lhs => rw [hs, relaxFrom_gap, hg]

/-- A comma between two elements stays, and so do the blanks on both sides of it. -/
theorem sameUpTo_separator (before : Option UInt8) {s rest more : Bytes} {b : UInt8}
    (hcomma : skipBlanks s = Octet.comma :: rest) (hnext : skipBlanks rest = b :: more)
    (hb : Octet.startsValue b = true) :
    SameUpTo s (relaxFrom before s) (b :: more) (relaxFrom (some Octet.comma) (b :: more)) := by
  obtain ⟨g₁, hs, hg₁⟩ := exists_gap_of_skipBlanks s
  obtain ⟨g₂, hrest, hg₂⟩ := exists_gap_of_skipBlanks rest
  rw [hcomma] at hs
  rw [hnext] at hrest
  refine ⟨g₁.text ++ Octet.comma :: g₂.text, by simp [hs, hrest], ?_⟩
  rw [hs, hrest, relaxFrom_separator before g₁ g₂ hb, hg₁, hg₂]
  simp

/-- A bracket that closes an array or an object stays, and so do the blanks in front of it. -/
theorem sameUpTo_closing (before : Option UInt8) {s rest : Bytes} {b : UInt8} (hb : Closes b)
    (h : skipBlanks s = b :: rest) :
    SameUpTo s (relaxFrom before s) rest (relaxFrom (some b) rest) := by
  refine (sameUpTo_skipBlanks before s).trans ?_
  rw [h, hb.relaxFrom_cons]
  exact (SameUpTo.of_append [] _ _).cons b

/-! ## Tokens -/

/-- What the strict reader takes for a value begins like one. -/
theorem startsValue_of_readValue {depth : Nat} {s rest : Bytes} {b : UInt8} {p : Value × Bytes}
    (hs : skipBlanks s = b :: rest) (h : (readValue depth s).outcome = some p) :
    Octet.startsValue b = true := by
  obtain ⟨v, r⟩ := p
  rw [readValue_outcome, hs] at h
  dsimp only at h
  split at h
  · next hb => subst hb; decide
  · split at h
    · next hb => subst hb; decide
    · obtain ⟨more, -, hshape, -⟩ := readScalar_split h
      exact hshape.startsValue

/-- A string stays as it is. -/
theorem sameUpTo_text {s r : Bytes} {name : String}
    (h : (readText s).outcome = some (name, r)) :
    SameUpTo s (relaxText s) r (relaxFrom (some Octet.quote) r) := by
  obtain ⟨key, -, rfl⟩ := Key.exists_of_read h
  rw [relaxText_body key.textBody]
  exact .of_append ..

/-- A key and its colon stay as they are. -/
theorem sameUpTo_key {s r : Bytes} {name : String}
    (h : (readKey s).outcome = some (name, r)) :
    SameUpTo s (relaxText s) r (relaxFrom (some Octet.colon) r) := by
  rw [readKey_outcome] at h
  obtain ⟨⟨name', rest⟩, htext, hmap⟩ := Option.bind_eq_some_iff.mp h
  obtain ⟨⟨⟨⟩, r'⟩, hcolon, heq⟩ := Option.map_eq_some_iff.mp hmap
  obtain ⟨-, rfl⟩ := Prod.mk.inj heq
  rw [readColon_outcome] at hcolon
  split at hcolon
  · cases hcolon
  · next b more hfirst =>
    split at hcolon
    · next hb =>
      subst hb
      cases hcolon
      refine (sameUpTo_text htext).trans ((sameUpTo_skipBlanks _ rest).trans ?_)
      rw [hfirst, relaxFrom_cons _ (by decide) (by decide) (by decide) (by decide)]
      exact (SameUpTo.of_append [] _ _).cons _
    · cases hcolon

/-- A scalar stays as it is, and a comma may follow it. -/
theorem sameUpTo_scalar {b : UInt8} {s r : Bytes} {v : Value}
    (h : (readScalar b s).outcome = some (v, r)) :
    ∃ last, endsElement (some last) = true ∧ ∀ before,
      SameUpTo (b :: s) (relaxFrom before (b :: s)) r (relaxFrom (some last) r) := by
  obtain ⟨more, rfl, hshape, -⟩ := readScalar_split h
  obtain ⟨last, hlast, hrelax⟩ := hshape.exists_relaxFrom
  refine ⟨last, hlast, fun before => ?_⟩
  rw [hrelax]
  exact (SameUpTo.of_append more _ _).cons b

/-! ## Values -/

mutual

/-- A value stays as it is, and a comma may follow it. -/
theorem sameUpTo_value {depth : Nat} {s r : Bytes} {v : Value}
    (h : (readValue depth s).outcome = some (v, r)) :
    ∃ last, endsElement (some last) = true ∧ ∀ before,
      SameUpTo s (relaxFrom before s) r (relaxFrom (some last) r) := by
  rw [readValue_outcome] at h
  split at h
  · cases h
  · next b rest hfirst =>
    have hlength := length_lt_of_skipBlanks hfirst
    split at h
    · next hb =>
      subst hb
      split at h
      · cases h
      · cases h
      · next inner c more hnext =>
        have hlength' := length_lt_of_skipBlanks hnext
        refine ⟨Octet.closeBracket, by decide, fun before => ?_⟩
        refine (sameUpTo_skipBlanks before s).trans ?_
        rw [hfirst, relaxFrom_cons before (by decide) (by decide) (by decide) (by decide)]
        refine SameUpTo.cons _ ?_
        split at h
        · next hc =>
          subst hc
          cases h
          exact sameUpTo_closing _ .bracket hnext
        · obtain ⟨⟨values, r'⟩, hitems, heq⟩ := Option.map_eq_some_iff.mp h
          obtain ⟨-, rfl⟩ := Prod.mk.inj heq
          refine (sameUpTo_skipBlanks _ rest).trans ?_
          rw [hnext]
          exact sameUpTo_items hitems _
    · split at h
      · next hb =>
        subst hb
        split at h
        · cases h
        · cases h
        · next inner c more hnext =>
          have hlength' := length_lt_of_skipBlanks hnext
          refine ⟨Octet.closeBrace, by decide, fun before => ?_⟩
          refine (sameUpTo_skipBlanks before s).trans ?_
          rw [hfirst, relaxFrom_cons before (by decide) (by decide) (by decide) (by decide)]
          refine SameUpTo.cons _ ?_
          split at h
          · next hc =>
            subst hc
            cases h
            exact sameUpTo_closing _ .brace hnext
          · split at h
            · next hc =>
              subst hc
              obtain ⟨⟨written, r'⟩, hmembers, heq⟩ := Option.map_eq_some_iff.mp h
              obtain ⟨-, rfl⟩ := Prod.mk.inj heq
              refine (sameUpTo_skipBlanks _ rest).trans ?_
              rw [hnext, relaxFrom_quote]
              exact (sameUpTo_members hmembers).cons _
            · cases h
      · obtain ⟨last, hlast, hsame⟩ := sameUpTo_scalar h
        refine ⟨last, hlast, fun before => (sameUpTo_skipBlanks before s).trans ?_⟩
        rw [hfirst]
        exact hsame before
termination_by 2 * s.length

/-- The items of an array stay as they are. -/
theorem sameUpTo_items {depth : Nat} {s r : Bytes} {values : List Value}
    (h : (readItems depth s).outcome = some (values, r)) (before : Option UInt8) :
    SameUpTo s (relaxFrom before s) r (relaxFrom (some Octet.closeBracket) r) := by
  rw [readItems_outcome] at h
  obtain ⟨⟨v, rest⟩, hvalue, hnext⟩ := Option.bind_eq_some_iff.mp h
  obtain ⟨last, -, hitem⟩ := sameUpTo_value hvalue
  refine (hitem before).trans ?_
  have hlength := (hitem before).length_le
  dsimp only at hnext
  split at hnext
  · cases hnext
  · next b more hfirst =>
    split at hnext
    · next hb =>
      subst hb
      cases hnext
      exact sameUpTo_closing _ .bracket hfirst
    · split at hnext
      · next hb =>
        subst hb
        split at hnext
        · cases hnext
        · next c more' hsecond =>
          split at hnext
          · cases hnext
          · obtain ⟨⟨values', r'⟩, hitems, heq⟩ := Option.map_eq_some_iff.mp hnext
            obtain ⟨-, rfl⟩ := Prod.mk.inj heq
            have hlength' := length_lt_of_skipBlanks hfirst
            have hlength'' := length_lt_of_skipBlanks hsecond
            -- The next item is what keeps the comma.
            have hc : Octet.startsValue c = true := by
              rw [readItems_outcome] at hitems
              obtain ⟨p, hread, -⟩ := Option.bind_eq_some_iff.mp hitems
              exact startsValue_of_readValue
                (skipBlanks_cons_of_not_blank (not_blank_of_skipBlanks hsecond) more') hread
            exact (sameUpTo_separator _ hfirst hsecond hc).trans (sameUpTo_items hitems _)
      · cases hnext
termination_by 2 * s.length + 1

/-- The members of an object stay as they are. -/
theorem sameUpTo_members {depth : Nat} {s r : Bytes} {written : List (String × Value)}
    (h : (readMembers depth s).outcome = some (written, r)) :
    SameUpTo s (relaxText s) r (relaxFrom (some Octet.closeBrace) r) := by
  rw [readMembers_outcome] at h
  obtain ⟨⟨name, rest⟩, hkey, hbind⟩ := Option.bind_eq_some_iff.mp h
  obtain ⟨⟨v, rest'⟩, hvalue, hnext⟩ := Option.bind_eq_some_iff.mp hbind
  have hlabel := sameUpTo_key hkey
  have hlength := hlabel.length_le
  obtain ⟨last, -, hmember⟩ := sameUpTo_value hvalue
  have hlength' : rest'.length ≤ rest.length := (hmember none).length_le
  refine hlabel.trans ((hmember _).trans ?_)
  dsimp only at hnext
  split at hnext
  · cases hnext
  · next b more hfirst =>
    split at hnext
    · next hb =>
      subst hb
      cases hnext
      exact sameUpTo_closing _ .brace hfirst
    · split at hnext
      · next hb =>
        subst hb
        split at hnext
        · cases hnext
        · next c more' hsecond =>
          split at hnext
          · next hc =>
            subst hc
            obtain ⟨⟨written', r'⟩, hmembers, heq⟩ := Option.map_eq_some_iff.mp hnext
            obtain ⟨-, rfl⟩ := Prod.mk.inj heq
            have hlength'' := length_lt_of_skipBlanks hfirst
            have hlength''' := length_lt_of_skipBlanks hsecond
            refine (sameUpTo_separator _ hfirst hsecond (by decide)).trans ?_
            rw [relaxFrom_quote]
            exact (sameUpTo_members hmembers).cons _
          · cases hnext
      · cases hnext
termination_by 2 * s.length + 1

end

/-! ## Documents -/

/-- What the strict reader accepts does not begin with a byte-order mark. -/
theorem head?_of_readDocument {source : Bytes} {v : Value} (h : readDocument source = .ok v) :
    source.head? ≠ some 0xEF := by
  obtain ⟨rest, hvalue, -⟩ := readDocument_eq_ok.mp h
  intro hhead
  obtain ⟨more, rfl⟩ := List.head?_eq_some_iff.mp hhead
  have hstarts := startsValue_of_readValue (skipBlanks_cons_of_not_blank (by decide) more) hvalue
  exact absurd hstarts (by decide)

/-- Relaxing changes nothing in a source that is strict already. -/
theorem relax_of_readDocument {source : Bytes} {v : Value} (h : readDocument source = .ok v) :
    relax source = source := by
  obtain ⟨rest, hvalue, hend⟩ := readDocument_eq_ok.mp h
  obtain ⟨last, -, hsame⟩ := sameUpTo_value hvalue
  have hrest := sameUpTo_skipBlanks (some last) rest
  rw [hend] at hrest
  rw [relax, blankMark_of_head (head?_of_readDocument h)]
  exact ((hsame none).trans hrest).eq

end SampleTypes.Json

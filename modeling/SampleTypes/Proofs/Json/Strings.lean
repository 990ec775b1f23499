import SampleTypes.Proofs.Json.Reading

set_option autoImplicit false

/-! # Strings

Reading a string stops at the first quote that is not escaped, and what it finds up to there does
not depend on what stands behind. -/

namespace SampleTypes.Json

/-- What stands behind the opening quote of a string, up to and with the closing one. -/
inductive TextBody : Bytes → Prop where
  | close : TextBody [Octet.quote]
  | plain {b : UInt8} {w : Bytes} (hquote : b ≠ Octet.quote) (hslash : b ≠ Octet.backslash)
      (hw : TextBody w) : TextBody (b :: w)
  | escape (b : UInt8) {w : Bytes} (hw : TextBody w) : TextBody (Octet.backslash :: b :: w)

/-- Octets that a string may go on with. -/
def InText (text : Bytes) : Prop := ∀ w, TextBody w → TextBody (text ++ w)

theorem InText.append {t u : Bytes} (ht : InText t) (hu : InText u) : InText (t ++ u) := by
  intro w hw
  rw [List.append_assoc]
  exact ht _ (hu w hw)

theorem InText.escape {t : Bytes} (b : UInt8) (ht : InText t) :
    InText (Octet.backslash :: b :: t) :=
  fun w hw => .escape b (ht w hw)

theorem inText_nil : InText [] := fun _ hw => hw

/-- `f` takes octets of this shape off the front of a source, and takes the same octets off every
    source that begins with them. -/
def ReadsText {α : Type} (f : Bytes → Option (α × Bytes)) (shape : Bytes → Prop) : Prop :=
  ∀ s v rest, f s = some (v, rest) →
    ∃ text, s = text ++ rest ∧ shape text ∧ ∀ r, f (text ++ r) = some (v, r)

/-- What is taken off further on, by a reader that depends on what has been read. -/
theorem ReadsText.bind {α β : Type} {f : Bytes → Option (α × Bytes)}
    {g : α → Bytes → Option (β × Bytes)} (hf : ReadsText f InText)
    (hg : ∀ v, ReadsText (g v) InText) :
    ReadsText (fun s => (f s).bind fun p => g p.1 p.2) InText := by
  intro s v rest h
  obtain ⟨⟨u, more⟩, hread, hnext⟩ := Option.bind_eq_some_iff.mp h
  obtain ⟨t₁, rfl, hshape₁, hagain₁⟩ := hf s u more hread
  obtain ⟨t₂, rfl, hshape₂, hagain₂⟩ := hg u more v rest hnext
  refine ⟨t₁ ++ t₂, by rw [List.append_assoc], hshape₁.append hshape₂, ?_⟩
  intro r
  dsimp only
  rw [List.append_assoc, hagain₁, Option.bind_some, hagain₂]

/-- A reader that takes nothing off and may fail. -/
theorem ReadsText.stay {α : Type} (v? : Option α) :
    ReadsText (fun s => v?.map fun v => (v, s)) InText := by
  intro s v rest h
  obtain ⟨v, rfl, heq⟩ := Option.map_eq_some_iff.mp h
  cases heq
  exact ⟨[], rfl, inText_nil, fun _ => rfl⟩

/-! ## Escapes -/

theorem ne_of_hexValue? {b : UInt8} {n : Nat} (h : Octet.hexValue? b = some n) :
    b ≠ Octet.quote ∧ b ≠ Octet.backslash := by
  constructor
  · rintro rfl
    rw [show Octet.hexValue? Octet.quote = none by decide] at h
    cases h
  · rintro rfl
    rw [show Octet.hexValue? Octet.backslash = none by decide] at h
    cases h

theorem readsText_hexUnit : ReadsText (fun s => (readHexUnit s).outcome) InText := by
  intro s n rest h
  dsimp only at h
  unfold readHexUnit at h
  split at h
  · next a b c d more =>
    split at h
    · next w x y z ha hb hc hd =>
      cases h
      refine ⟨[a, b, c, d], rfl, ?_, ?_⟩
      · intro w hw
        have ha := ne_of_hexValue? ha
        have hb := ne_of_hexValue? hb
        have hc := ne_of_hexValue? hc
        have hd := ne_of_hexValue? hd
        exact .plain ha.1 ha.2 (.plain hb.1 hb.2 (.plain hc.1 hc.2 (.plain hd.1 hd.2 hw)))
      · intro r
        simp [readHexUnit, ha, hb, hc, hd]
    · cases h
  · cases h

theorem readLowSurrogate_outcome (high : Nat) (b c : UInt8) (s : Bytes) :
    (readLowSurrogate high (b :: c :: s)).outcome =
      if b = Octet.backslash ∧ c = Octet.ofChar 'u' then
        (readHexUnit s).outcome.bind fun p =>
          (if isLowSurrogate p.1 then
            some (encodeCodePoint ((high - 0xD800) * 0x400 + (p.1 - 0xDC00) + 0x10000))
          else none).map fun v => (v, p.2)
      else none := by
  dsimp only [readLowSurrogate]
  by_cases hb : b = Octet.backslash
  · by_cases hc : c = Octet.ofChar 'u'
    · rw [if_pos hb, if_pos hc, if_pos ⟨hb, hc⟩]
      cases readHexUnit s with
      | error e => rfl
      | ok p =>
        dsimp only [Read.outcome_ok, Option.bind_some]
        split
        · simp [Parsed.push, Parsed.widen, Parsed.withValue]
        · rfl
    · rw [if_pos hb, if_neg hc, if_neg (fun h => hc h.2)]
      rfl
  · rw [if_neg hb, if_neg (fun h => hb h.1)]
    rfl

theorem readsText_lowSurrogate (high : Nat) :
    ReadsText (fun s => (readLowSurrogate high s).outcome) InText := by
  intro s v rest h
  match s, h with
  | b :: c :: s, h =>
    dsimp only at h
    rw [readLowSurrogate_outcome] at h
    split at h
    · next hbc =>
      obtain ⟨text, rfl, hshape, hagain⟩ := readsText_hexUnit.bind
        (g := fun low s => (if isLowSurrogate low then
            some (encodeCodePoint ((high - 0xD800) * 0x400 + (low - 0xDC00) + 0x10000))
          else none).map fun v => (v, s))
        (fun _ => ReadsText.stay _) s v rest h
      refine ⟨b :: c :: text, rfl, hbc.1 ▸ hshape.escape c, ?_⟩
      intro r
      dsimp only
      rw [List.cons_append, List.cons_append, readLowSurrogate_outcome, if_pos hbc]
      exact hagain r
    · cases h
  | [b], h =>
    dsimp only [readLowSurrogate] at h
    split at h <;> cases h

theorem readUnicodeEscape_outcome (s : Bytes) : (readUnicodeEscape s).outcome =
    (readHexUnit s).outcome.bind fun p =>
      if isHighSurrogate p.1 then (readLowSurrogate p.1 p.2).outcome
      else (if isLowSurrogate p.1 then none else some (encodeCodePoint p.1)).map
        fun v => (v, p.2) := by
  unfold readUnicodeEscape
  cases readHexUnit s with
  | error e => rfl
  | ok p =>
    dsimp only [Read.outcome_ok, Option.bind_some]
    by_cases hlow : isLowSurrogate p.value = true
    · have hhigh : ¬ isHighSurrogate p.value = true := by
        simp only [isLowSurrogate, isHighSurrogate, Bool.and_eq_true, decide_eq_true_eq] at *
        omega
      rw [if_pos hlow, if_neg hhigh, if_pos hlow]
      rfl
    · rw [if_neg hlow, if_neg hlow]
      split
      · cases readLowSurrogate p.value p.rest <;> rfl
      · rfl

theorem readsText_unicodeEscape :
    ReadsText (fun s => (readUnicodeEscape s).outcome) InText := by
  simp only [readUnicodeEscape_outcome]
  refine readsText_hexUnit.bind (g := fun unit s =>
    if isHighSurrogate unit then (readLowSurrogate unit s).outcome
    else (if isLowSurrogate unit then none else some (encodeCodePoint unit)).map
      fun v => (v, s)) ?_
  intro unit
  by_cases hhigh : isHighSurrogate unit = true
  · simp only [if_pos hhigh]
    exact readsText_lowSurrogate unit
  · simp only [if_neg hhigh]
    exact ReadsText.stay _

theorem readEscape_outcome (b : UInt8) (s : Bytes) : (readEscape (b :: s)).outcome =
    match simpleEscape? b with
    | some octet => some ([octet], s)
    | none => if b = Octet.ofChar 'u' then (readUnicodeEscape s).outcome else none := by
  dsimp only [readEscape]
  cases simpleEscape? b with
  | some octet => rfl
  | none =>
    dsimp only
    split
    · cases readUnicodeEscape s <;> rfl
    · rfl

/-- Behind a backslash. -/
theorem readsText_escape : ReadsText (fun s => (readEscape s).outcome)
    fun text => InText (Octet.backslash :: text) := by
  intro s v rest h
  match s, h with
  | b :: s, h =>
    dsimp only at h ⊢
    rw [readEscape_outcome] at h
    split at h
    · next octet hsimple =>
      cases h
      refine ⟨[b], rfl, inText_nil.escape b, ?_⟩
      intro r
      rw [List.cons_append, readEscape_outcome, hsimple]
      rfl
    · next hsimple =>
      split at h
      · next hb =>
        obtain ⟨text, rfl, hshape, hagain⟩ := readsText_unicodeEscape s v rest h
        refine ⟨b :: text, rfl, hshape.escape b, ?_⟩
        intro r
        rw [List.cons_append, readEscape_outcome, hsimple]
        exact (if_pos hb).trans (hagain r)
      · cases h

/-! ## The body of a string -/

theorem readTextOctets_outcome (b : UInt8) (s : Bytes) : (readTextOctets (b :: s)).outcome =
    if b = Octet.quote then some ([], s)
    else if b = Octet.backslash then
      (readEscape s).outcome.bind fun p =>
        (readTextOctets p.2).outcome.map fun q => (p.1 ++ q.1, q.2)
    else if b < Octet.space then none
    else (readTextOctets s).outcome.map fun q => (b :: q.1, q.2) := by
  rw [readTextOctets]
  split
  · rfl
  · split
    · cases readEscape s with
      | error e => rfl
      | ok p =>
        dsimp only [Read.outcome_ok, Option.bind_some]
        cases readTextOctets p.rest <;> rfl
    · split
      · rfl
      · cases readTextOctets s <;> rfl

theorem readsText_textOctets :
    ReadsText (fun s => (readTextOctets s).outcome) TextBody := by
  intro s
  dsimp only
  -- An escape is longer than one octet, so the induction is on the length of the source.
  induction hlength : s.length using Nat.strong_induction_on generalizing s with
  | _ n ih =>
    intro v rest h
    match s, hlength, h with
    | [], _, h => rw [readTextOctets] at h; cases h
    | b :: s, hlength, h =>
      rw [List.length_cons] at hlength
      rw [readTextOctets_outcome] at h
      by_cases hquote : b = Octet.quote
      · rw [if_pos hquote] at h
        cases h
        refine ⟨[b], rfl, hquote ▸ .close, ?_⟩
        intro r
        rw [List.cons_append, readTextOctets_outcome, if_pos hquote]
        rfl
      · rw [if_neg hquote] at h
        by_cases hslash : b = Octet.backslash
        · -- What the escape takes off and the body behind it, one after the other.
          rw [if_pos hslash] at h
          obtain ⟨⟨octets, more⟩, hescape, hbody⟩ := Option.bind_eq_some_iff.mp h
          obtain ⟨⟨octets', rest'⟩, hread, heq⟩ := Option.map_eq_some_iff.mp hbody
          obtain ⟨rfl, rfl⟩ := Prod.mk.inj heq
          obtain ⟨escape, rfl, hshape, hagain⟩ := readsText_escape s octets more hescape
          obtain ⟨text, rfl, hbody, hagain'⟩ := ih more.length
            (by rw [List.length_append] at hlength; omega) more rfl octets' rest' hread
          dsimp only at hagain
          refine ⟨b :: (escape ++ text), by rw [List.cons_append, List.append_assoc],
            hslash ▸ hshape text hbody, ?_⟩
          intro r
          rw [List.cons_append, readTextOctets_outcome, if_neg hquote, if_pos hslash,
            List.append_assoc, hagain, Option.bind_some, hagain']
          rfl
        · rw [if_neg hslash] at h
          by_cases hcontrol : b < Octet.space
          · rw [if_pos hcontrol] at h
            cases h
          · rw [if_neg hcontrol] at h
            obtain ⟨⟨octets, rest'⟩, hread, heq⟩ := Option.map_eq_some_iff.mp h
            obtain ⟨rfl, rfl⟩ := Prod.mk.inj heq
            obtain ⟨text, rfl, hbody, hagain⟩ := ih s.length (by omega) s rfl octets rest' hread
            refine ⟨b :: text, rfl, .plain hquote hslash hbody, ?_⟩
            intro r
            rw [List.cons_append, readTextOctets_outcome, if_neg hquote, if_neg hslash,
              if_neg hcontrol, hagain]
            rfl

theorem readText_outcome (s : Bytes) : (readText s).outcome =
    (readTextOctets s).outcome.bind fun p => (decodeText? p.1).map fun text => (text, p.2) := by
  unfold readText
  cases readTextOctets s with
  | error e => rfl
  | ok p =>
    dsimp only [Read.outcome_ok, Option.bind_some]
    cases decodeText? p.value <;> rfl

theorem readsText_text : ReadsText (fun s => (readText s).outcome) TextBody := by
  intro s v rest h
  dsimp only at h ⊢
  rw [readText_outcome] at h
  obtain ⟨⟨octets, more⟩, hread, hmap⟩ := Option.bind_eq_some_iff.mp h
  obtain ⟨text, hdecode, heq⟩ := Option.map_eq_some_iff.mp hmap
  dsimp only at hdecode
  cases heq
  obtain ⟨body, rfl, hbody, hagain⟩ := readsText_textOctets s octets more hread
  dsimp only at hagain
  refine ⟨body, rfl, hbody, ?_⟩
  intro r
  rw [readText_outcome, hagain, Option.bind_some, hdecode]
  rfl

end SampleTypes.Json

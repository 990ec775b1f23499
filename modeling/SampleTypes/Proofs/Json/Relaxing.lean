import SampleTypes.Proofs.Json.Blanking

set_option autoImplicit false

/-! # The relaxed grammar

Relaxing a decorated text gives the same layout with its comments and its commas behind last
elements turned into blanks, so the strict reader finds the value that the strict text has.
Conversely, whatever the strict reader accepts after relaxing was the decorated form of a layout.
Both directions go along the layout, and together they say exactly which sources are accepted. -/

namespace SampleTypes.Json

/-! ## Relaxing a layout -/

/-- A comma between two elements stays. -/
theorem relaxFrom_separator (before : Option UInt8) (g₁ g₂ : Gap) {b : UInt8}
    (hb : Octet.startsValue b = true) (r : Bytes) :
    relaxFrom before (g₁.text ++ Octet.comma :: (g₂.text ++ b :: r)) =
      g₁.blanked ++ Octet.comma :: (g₂.blanked ++ relaxFrom (some Octet.comma) (b :: r)) := by
  have hbracket : b ≠ Octet.closeBracket := Octet.ne_of_startsValue hb (by decide)
  have hbrace : b ≠ Octet.closeBrace := Octet.ne_of_startsValue hb (by decide)
  have hkept : closesNext (blankComments .plain (g₂.text ++ b :: r)) = false := by
    rw [closesNext_gap g₂ (Octet.not_blank_of_startsValue hb)
      (Octet.ne_of_startsValue hb (by decide))]
    simp [hbracket, hbrace]
  rw [relaxFrom_gap, relaxFrom_comma before hkept, relaxFrom_gap]

theorem Label.relaxText (l : Label) (r : Bytes) :
    relaxText (l.write Gap.text ++ r) =
      l.write Gap.blanked ++ relaxFrom (some Octet.colon) r := by
  simp only [Label.write, List.append_assoc, List.cons_append]
  rw [relaxText_body l.key.textBody, relaxFrom_gap,
    relaxFrom_cons _ (by decide) (by decide) (by decide) (by decide), relaxFrom_gap]

mutual

/-- Relaxing a value keeps its tokens, and a comma may follow its last octet. -/
theorem Layout.exists_relaxFrom (t : Layout) :
    ∃ last, endsElement (some last) = true ∧ ∀ before r,
      relaxFrom before (t.write Gap.text [Octet.comma] ++ r) =
        t.write Gap.blanked [Octet.space] ++ relaxFrom (some last) r := by
  match t with
  | .scalar token =>
    obtain ⟨last, hlast, hrelax⟩ := token.shape.exists_relaxFrom
    exact ⟨last, hlast, fun before r => by rw [Layout.write, Layout.write]; exact hrelax before r⟩
  | .emptyList gap =>
    refine ⟨Octet.closeBracket, by decide, ?_⟩
    intro before r
    simp only [Layout.write, List.cons_append, List.append_assoc, List.nil_append]
    rw [relaxFrom_cons before (by decide) (by decide) (by decide) (by decide), relaxFrom_gap,
      Closes.bracket.relaxFrom_cons]
  | .list gap items =>
    have hitems := Items.relaxFrom items
    refine ⟨Octet.closeBracket, by decide, ?_⟩
    intro before r
    simp only [Layout.write, List.cons_append, List.append_assoc]
    rw [relaxFrom_cons before (by decide) (by decide) (by decide) (by decide), relaxFrom_gap,
      hitems]
  | .emptyRecord gap =>
    refine ⟨Octet.closeBrace, by decide, ?_⟩
    intro before r
    simp only [Layout.write, List.cons_append, List.append_assoc, List.nil_append]
    rw [relaxFrom_cons before (by decide) (by decide) (by decide) (by decide), relaxFrom_gap,
      Closes.brace.relaxFrom_cons]
  | .record gap members =>
    have hmembers := Members.relaxText members
    refine ⟨Octet.closeBrace, by decide, ?_⟩
    intro before r
    simp only [Layout.write, List.cons_append, List.append_assoc]
    rw [relaxFrom_cons before (by decide) (by decide) (by decide) (by decide), relaxFrom_gap,
      relaxFrom_quote, hmembers]

theorem Items.relaxFrom (items : Items) (before : Option UInt8) (r : Bytes) :
    relaxFrom before (items.write Gap.text [Octet.comma] ++ r) =
      items.write Gap.blanked [Octet.space] ++ Json.relaxFrom (some Octet.closeBracket) r := by
  match items with
  | .last item closing =>
    obtain ⟨last, hlast, hrelax⟩ := Layout.exists_relaxFrom item
    simp only [Items.write, List.append_assoc, List.cons_append, List.nil_append]
    rw [hrelax, closing.relaxFrom hlast .bracket]
  | .more item g₁ g₂ rest =>
    obtain ⟨last, hlast, hrelax⟩ := Layout.exists_relaxFrom item
    -- The comma stays because of the octet that the next item begins with.
    obtain ⟨b, w, hw, hb⟩ := rest.exists_head Gap.text [Octet.comma]
    have hrest := Items.relaxFrom rest (some Octet.comma) r
    rw [hw, List.cons_append] at hrest
    simp only [Items.write, List.append_assoc, List.cons_append]
    rw [hrelax, hw, List.cons_append, relaxFrom_separator _ g₁ g₂ hb, hrest]

theorem Members.relaxText (members : Members) (r : Bytes) :
    relaxText (members.write Gap.text [Octet.comma] ++ r) =
      members.write Gap.blanked [Octet.space] ++ relaxFrom (some Octet.closeBrace) r := by
  match members with
  | .last label value closing =>
    obtain ⟨last, hlast, hrelax⟩ := Layout.exists_relaxFrom value
    simp only [Members.write, List.append_assoc, List.cons_append, List.nil_append]
    rw [label.relaxText, hrelax, closing.relaxFrom hlast .brace]
  | .more label value g₁ g₂ rest =>
    obtain ⟨last, hlast, hrelax⟩ := Layout.exists_relaxFrom value
    have hrest := Members.relaxText rest r
    simp only [Members.write, List.append_assoc, List.cons_append]
    rw [label.relaxText, hrelax, relaxFrom_separator _ g₁ g₂ (by decide), relaxFrom_quote, hrest]

end

/-! ## Reading a relaxed source -/

theorem length_lt_of_split {s w r : Bytes} {b : UInt8} (h : s = w ++ b :: r) :
    r.length < s.length := by
  rw [h, List.length_append, List.length_cons]
  omega

theorem Label.exists_of_readKey {s r : Bytes} {name : String}
    (h : (readKey (Json.relaxText s)).outcome = some (name, r)) :
    ∃ (key : Key) (g : Gap) (more : Bytes), s = key.body ++ (g.text ++ Octet.colon :: more) ∧
      key.name = name ∧ r = relaxFrom (some Octet.colon) more := by
  rw [readKey_outcome] at h
  obtain ⟨⟨name', rest⟩, htext, hmap⟩ := Option.bind_eq_some_iff.mp h
  obtain ⟨⟨⟨⟩, r'⟩, hcolon, heq⟩ := Option.map_eq_some_iff.mp hmap
  obtain ⟨rfl, rfl⟩ := Prod.mk.inj heq
  obtain ⟨key, hname, hkey⟩ := Key.exists_of_read htext
  obtain ⟨s', rfl, rfl⟩ := text_of_relaxText key.textBody hkey
  rw [readColon_outcome] at hcolon
  split at hcolon
  · cases hcolon
  · next b rest' hskip =>
    split at hcolon
    · next hb =>
      subst hb
      cases hcolon
      obtain ⟨g, more, rfl, hr⟩ := exists_gap_of_relaxFrom hskip (Or.inl (by rintro ⟨⟩))
      exact ⟨key, g, more, rfl, hname, hr⟩
    · cases hcolon

mutual

/-- What the strict reader accepts as a value after relaxing was a layout of that value behind a
    gap. -/
theorem Layout.exists_of_read {depth : Nat} {before : Option UInt8} {s r : Bytes} {v : Value}
    (h : (readValue depth (Json.relaxFrom before s)).outcome = some (v, r)) :
    ∃ (g : Gap) (t : Layout) (last : UInt8) (more : Bytes),
      s = g.text ++ (t.write Gap.text [Octet.comma] ++ more) ∧ t.value? depth = some v ∧
      endsElement (some last) = true ∧ r = Json.relaxFrom (some last) more := by
  rw [readValue_outcome] at h
  split at h
  · cases h
  · next b rest hfirst =>
    split at h
    · -- An opening bracket: behind its gap the array closes at once, or its items follow.
      next hb =>
      subst hb
      obtain ⟨g, s₁, hs, rfl⟩ := exists_gap_of_relaxFrom hfirst (Or.inl (by rintro ⟨⟩))
      have hshorter := length_lt_of_split hs
      split at h
      · cases h
      · cases h
      · next inner c more hnext =>
        split at h
        · next hc =>
          subst hc
          cases h
          -- No comma may follow the opening bracket.
          obtain ⟨g₁, s₂, hs₁, hr⟩ := exists_gap_of_relaxFrom hnext (Or.inr (by decide))
          refine ⟨g, .emptyList g₁, Octet.closeBracket, s₂, ?_, rfl, by decide, hr⟩
          simp [hs, hs₁, Layout.write]
        · obtain ⟨⟨values, r'⟩, hitems, heq⟩ := Option.map_eq_some_iff.mp h
          obtain ⟨rfl, rfl⟩ := Prod.mk.inj heq
          rw [← hnext, readItems_skipBlanks] at hitems
          obtain ⟨g₁, items, more, hs₁, hvalues, hr⟩ := Items.exists_of_read hitems
          refine ⟨g, .list g₁ items, Octet.closeBracket, more, ?_, ?_, by decide, hr⟩
          · simp [hs, hs₁, Layout.write]
          · rw [Layout.value?, hvalues]
            rfl
    · split at h
      · -- An opening brace: the object closes at once, or the quote of its first key follows.
        next hb =>
        subst hb
        obtain ⟨g, s₁, hs, rfl⟩ := exists_gap_of_relaxFrom hfirst (Or.inl (by rintro ⟨⟩))
        have hshorter := length_lt_of_split hs
        split at h
        · cases h
        · cases h
        · next inner c more hnext =>
          split at h
          · next hc =>
            subst hc
            cases h
            obtain ⟨g₁, s₂, hs₁, hr⟩ := exists_gap_of_relaxFrom hnext (Or.inr (by decide))
            refine ⟨g, .emptyRecord g₁, Octet.closeBrace, s₂, ?_, rfl, by decide, hr⟩
            simp [hs, hs₁, Layout.write]
          · split at h
            · next hc =>
              subst hc
              obtain ⟨⟨written, r'⟩, hmembers, heq⟩ := Option.map_eq_some_iff.mp h
              obtain ⟨rfl, rfl⟩ := Prod.mk.inj heq
              obtain ⟨g₁, s₂, hs₁, rfl⟩ := exists_gap_of_relaxFrom hnext
                (Or.inl (by rintro ⟨⟩))
              have hshorter' := length_lt_of_split hs₁
              obtain ⟨members, more, hs₂, hvalues, hr⟩ := Members.exists_of_read hmembers
              refine ⟨g, .record g₁ members, Octet.closeBrace, more, ?_, ?_, by decide, hr⟩
              · simp [hs, hs₁, hs₂, Layout.write]
              · rw [Layout.value?, hvalues]
                rfl
            · cases h
      · -- Anything else is a scalar, and no closing bracket begins one.
        obtain ⟨token, rfl, rfl, hrest⟩ := Scalar.exists_of_read h
        have hopen : ¬ Closes token.first := by
          intro hclose
          have hstarts := token.shape.startsValue
          rw [hclose.not_startsValue] at hstarts
          cases hstarts
        obtain ⟨g, s₁, rfl, rfl⟩ := exists_gap_of_relaxFrom hfirst (Or.inl hopen)
        obtain ⟨more, last, rfl, hlast, hr⟩ := token.shape.exists_of_relaxBehind hrest
        refine ⟨g, .scalar token, last, more, ?_, rfl, hlast, hr⟩
        rw [Layout.write, List.cons_append]
termination_by 2 * s.length

theorem Items.exists_of_read {depth : Nat} {before : Option UInt8} {s r : Bytes}
    {values : List Value}
    (h : (readItems depth (Json.relaxFrom before s)).outcome = some (values, r)) :
    ∃ (g : Gap) (items : Items) (more : Bytes),
      s = g.text ++ (items.write Gap.text [Octet.comma] ++ more) ∧
      items.values? depth = some values ∧ r = Json.relaxFrom (some Octet.closeBracket) more := by
  rw [readItems_outcome] at h
  obtain ⟨⟨v, rest⟩, hvalue, hnext⟩ := Option.bind_eq_some_iff.mp h
  obtain ⟨g, item, last, s₁, hs, hitem, hlast, rfl⟩ := Layout.exists_of_read hvalue
  dsimp only at hnext
  split at hnext
  · cases hnext
  · next b rest hfirst =>
    split at hnext
    · next hb =>
      subst hb
      cases hnext
      -- A comma that was in front of the bracket is part of the closing.
      obtain ⟨closing, more, rfl, hr⟩ := exists_closing_of_relaxFrom hfirst .bracket
      refine ⟨g, .last item closing, more, ?_, ?_, hr⟩
      · simp [hs, Items.write]
      · rw [Items.values?, hitem]
        rfl
    · split at hnext
      · next hb =>
        subst hb
        obtain ⟨g₁, s₂, hs₁, rfl⟩ := exists_gap_of_relaxFrom hfirst (Or.inl (by rintro ⟨⟩))
        have hshorter := length_lt_of_split hs₁
        split at hnext
        · cases hnext
        · next c more hsecond =>
          split at hnext
          · cases hnext
          · obtain ⟨⟨values', r'⟩, hitems, heq⟩ := Option.map_eq_some_iff.mp hnext
            obtain ⟨rfl, rfl⟩ := Prod.mk.inj heq
            rw [← hsecond, readItems_skipBlanks] at hitems
            have hlength : s₁.length ≤ s.length := by
              rw [hs, List.length_append, List.length_append]
              omega
            obtain ⟨g₂, items, more, hs₂, hvalues, hr⟩ := Items.exists_of_read hitems
            refine ⟨g, .more item g₁ g₂ items, more, ?_, ?_, hr⟩
            · simp [hs, hs₁, hs₂, Items.write]
            · rw [Items.values?, hitem, Option.bind_some, hvalues]
              rfl
      · cases hnext
termination_by 2 * s.length + 1

theorem Members.exists_of_read {depth : Nat} {s r : Bytes} {values : List (String × Value)}
    (h : (readMembers depth (Json.relaxText s)).outcome = some (values, r)) :
    ∃ (members : Members) (more : Bytes),
      s = members.write Gap.text [Octet.comma] ++ more ∧
      members.values? depth = some values ∧ r = relaxFrom (some Octet.closeBrace) more := by
  rw [readMembers_outcome] at h
  obtain ⟨⟨name, rest⟩, hkey, hbind⟩ := Option.bind_eq_some_iff.mp h
  obtain ⟨⟨v, rest'⟩, hvalue, hnext⟩ := Option.bind_eq_some_iff.mp hbind
  obtain ⟨key, g, s₁, hs, rfl, rfl⟩ := Label.exists_of_readKey hkey
  have hshorter : s₁.length < s.length := by
    rw [← List.append_assoc] at hs
    exact length_lt_of_split hs
  obtain ⟨g', value, last, s₂, hs₁, hmember, hlast, rfl⟩ := Layout.exists_of_read hvalue
  dsimp only at hnext
  split at hnext
  · cases hnext
  · next b rest hfirst =>
    split at hnext
    · next hb =>
      subst hb
      cases hnext
      obtain ⟨closing, more, rfl, hr⟩ := exists_closing_of_relaxFrom hfirst .brace
      refine ⟨.last ⟨key, g, g'⟩ value closing, more, ?_, ?_, hr⟩
      · simp [hs, hs₁, Members.write, Label.write]
      · rw [Members.values?, hmember]
        rfl
    · split at hnext
      · next hb =>
        subst hb
        obtain ⟨g₁, s₃, hs₂, rfl⟩ := exists_gap_of_relaxFrom hfirst (Or.inl (by rintro ⟨⟩))
        have hshorter' := length_lt_of_split hs₂
        split at hnext
        · cases hnext
        · next c more hsecond =>
          split at hnext
          · next hc =>
            subst hc
            obtain ⟨⟨values', r'⟩, hmembers, heq⟩ := Option.map_eq_some_iff.mp hnext
            obtain ⟨rfl, rfl⟩ := Prod.mk.inj heq
            obtain ⟨g₂, s₄, hs₃, rfl⟩ := exists_gap_of_relaxFrom hsecond
              (Or.inl (by rintro ⟨⟩))
            have hshorter'' := length_lt_of_split hs₃
            have hlength : s₂.length ≤ s₁.length := by
              rw [hs₁, List.length_append, List.length_append]
              omega
            obtain ⟨members, more, hs₄, hvalues, hr⟩ := Members.exists_of_read hmembers
            refine ⟨.more ⟨key, g, g'⟩ value g₁ g₂ members, more, ?_, ?_, hr⟩
            · simp [hs, hs₁, hs₂, hs₃, hs₄, Members.write, Label.write]
            · rw [Members.values?, hmember, Option.bind_some, hvalues]
              rfl
          · cases hnext
      · cases hnext
termination_by 2 * s.length + 1

end

/-! ## Documents -/

/-- Blanks in front of a document do not matter. -/
theorem readDocument_blanks {blanks : Bytes} (h : ∀ b ∈ blanks, Octet.isBlank b = true)
    (s : Bytes) (v : Value) :
    readDocument (blanks ++ s) = .ok v ↔ readDocument s = .ok v := by
  rw [readDocument_eq_ok, readDocument_eq_ok, readValue_outcome, readValue_outcome maxDepth s,
    skipBlanks_append h]

/-- A layout that stands alone is read as a document. -/
theorem Layout.readDocument_iff {render : Gap → Bytes} {comma : Bytes}
    (h : WritesBlanks render comma) (t : Layout) {front back : Bytes}
    (hfront : ∀ b ∈ front, Octet.isBlank b = true) (hback : ∀ b ∈ back, Octet.isBlank b = true)
    (v : Value) :
    readDocument (front ++ (t.write render comma ++ back)) = .ok v ↔
      t.value? maxDepth = some v := by
  have hstops : Stops back := by
    rw [← List.append_nil back]
    exact stops_append hback stops_nil
  have hskip : skipBlanks back = [] := by
    rw [← List.append_nil back, skipBlanks_append hback]
    rfl
  rw [readDocument_eq_ok, t.read h maxDepth hfront hstops]
  constructor
  · rintro ⟨rest, hvalue, -⟩
    obtain ⟨w, hw, heq⟩ := Option.map_eq_some_iff.mp hvalue
    cases heq
    exact hw
  · intro hvalue
    exact ⟨back, by rw [hvalue]; rfl, hskip⟩

theorem blankMark_of_head {s : Bytes} (h : s.head? ≠ some 0xEF) : blankMark s = s := by
  unfold blankMark
  split
  · exact absurd rfl h
  · rfl

/-- Either a source begins with a mark or it is not changed. -/
theorem blankMark_cases (s : Bytes) : (∃ rest, s = byteOrderMark ++ rest) ∨ blankMark s = s := by
  unfold blankMark
  split
  · next rest => exact Or.inl ⟨rest, rfl⟩
  · exact Or.inr rfl

theorem isBlank_spaces (n : Nat) : ∀ b ∈ List.replicate n Octet.space, Octet.isBlank b = true := by
  intro b hb
  rw [List.eq_of_mem_replicate hb]
  decide

theorem relax_mark (s : Bytes) : relax (byteOrderMark ++ s) =
    List.replicate 3 Octet.space ++ relaxFrom none s := by
  have hmark : relax (byteOrderMark ++ s) =
      relaxFrom none (Octet.space :: Octet.space :: Octet.space :: s) := rfl
  have hspaces := relaxFrom_gap none (List.replicate 3 (.blank Octet.space (by decide))) s
  rw [hmark]
  exact hspaces

namespace Decorated

/-- Without a mark, no decorated text begins with one. -/
theorem head?_source (d : Decorated) (h : d.mark = false) : d.source.head? ≠ some 0xEF := by
  obtain ⟨b, w, hw, hb⟩ := d.value.exists_head Gap.text [Octet.comma]
  rw [source, h, hw]
  intro hhead
  cases hbefore : d.before with
  | nil =>
    rw [hbefore] at hhead
    cases hhead
    cases hb
  | cons f g =>
    rw [hbefore] at hhead
    cases f with
    | blank c hc =>
      cases hhead
      cases hc
    | line body hbody kept => cases hhead
    | block body hbody => cases hhead

/-- A decorated text, relaxed, is its layout with blanks for its decoration. -/
theorem exists_relax (d : Decorated) : ∃ front back : Bytes,
    (∀ b ∈ front, Octet.isBlank b = true) ∧ (∀ b ∈ back, Octet.isBlank b = true) ∧
    relax d.source = front ++ (d.value.write Gap.blanked [Octet.space] ++ back) := by
  obtain ⟨mark, before, value, after, tail⟩ := d
  obtain ⟨last, -, hrelax⟩ := value.exists_relaxFrom
  have htail : relaxFrom (some last) tail.text = blankComments .plain tail.text := by
    have h := blankCommas_blanks (some last) (blankComments_endComment tail) []
    rw [List.append_nil] at h
    rw [relaxFrom, h]
    exact List.append_nil _
  have hbody : relaxFrom none (before.text ++ (value.write Gap.text [Octet.comma] ++
      (after.text ++ tail.text))) = before.blanked ++ (value.write Gap.blanked [Octet.space] ++
        (after.blanked ++ blankComments .plain tail.text)) := by
    rw [relaxFrom_gap, hrelax, relaxFrom_gap, htail]
  have hback : ∀ b ∈ after.blanked ++ blankComments .plain tail.text,
      Octet.isBlank b = true := by
    intro b hb
    rcases List.mem_append.mp hb with hb | hb
    · exact writesBlanks_blanked.gap after b hb
    · exact blankComments_endComment tail b hb
  cases mark with
  | false =>
    refine ⟨before.blanked, _, writesBlanks_blanked.gap before, hback, ?_⟩
    rw [← hbody, relax, blankMark_of_head (head?_source _ rfl)]
    rfl
  | true =>
    refine ⟨List.replicate 3 Octet.space ++ before.blanked, _, ?_, hback, ?_⟩
    · intro b hb
      rcases List.mem_append.mp hb with hb | hb
      · exact isBlank_spaces 3 b hb
      · exact writesBlanks_blanked.gap before b hb
    · rw [List.append_assoc, ← hbody, ← relax_mark]
      rfl

end Decorated

/-- After relaxing, the strict reader accepts exactly the decorated forms of the strict texts that
    it accepts, and with the same value. -/
theorem readDocument_relax_iff (s : Bytes) (v : Value) :
    readDocument (relax s) = .ok v ↔
      ∃ text, Decorates s text ∧ readDocument text = .ok v := by
  constructor
  · intro h
    have hmark : ∃ (mark : Bool) (rest : Bytes),
        s = (if mark then byteOrderMark else []) ++ rest ∧
        readDocument (relaxFrom none rest) = .ok v := by
      rcases blankMark_cases s with ⟨rest, rfl⟩ | hsame
      · rw [relax_mark, readDocument_blanks (isBlank_spaces 3)] at h
        exact ⟨true, rest, rfl, h⟩
      · rw [relax, hsame] at h
        exact ⟨false, s, rfl, h⟩
    obtain ⟨mark, rest, rfl, hread⟩ := hmark
    obtain ⟨r, hvalue, hend⟩ := readDocument_eq_ok.mp hread
    obtain ⟨g, t, last, more, rfl, ht, -, rfl⟩ := Layout.exists_of_read hvalue
    have hup := upcoming (some last) more
    rw [hend] at hup
    cases hup with
    | ending g' tail hmore =>
      subst hmore
      refine ⟨Decorated.strict ⟨mark, g, t, g', tail⟩, ⟨_, rfl, rfl⟩, ?_⟩
      exact (t.readDocument_iff writesBlanks_bare g.isBlank_bare g'.isBlank_bare v).mpr ht
  · rintro ⟨_, ⟨d, rfl, rfl⟩, hread⟩
    have ht := (d.value.readDocument_iff writesBlanks_bare d.before.isBlank_bare
      d.after.isBlank_bare v).mp hread
    obtain ⟨front, back, hfront, hback, hrelax⟩ := d.exists_relax
    rw [hrelax]
    exact (d.value.readDocument_iff writesBlanks_blanked hfront hback v).mpr ht

end SampleTypes.Json

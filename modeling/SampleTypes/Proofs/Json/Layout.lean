import SampleTypes.Proofs.Json.Tokens

set_option autoImplicit false

/-! # Documents as they are laid out

A `Layout` is a JSON value with all that its text consists of: the octets of its scalars and keys,
what stands between any two of its tokens, and a comma behind a last element where there is one.
It is written out in one of several ways (`Layout.write`), which differ in what becomes of the
gaps and of such commas. Whatever the way, if these turn into blanks or nothing, the strict
reader reads the layout's value. -/

namespace SampleTypes.Json

/-! ## Between two tokens -/

/-- A piece of what may stand between two tokens of a decorated text. -/
inductive Filler where
  /-- A blank, which the strict text has too. -/
  | blank (b : UInt8) (h : Octet.isBlank b = true)
  /-- A comment up to the end of its line, and the line feed behind it, which the strict text has
      too if it is `kept`. -/
  | line (body : Bytes) (h : Octet.newline ∉ body) (kept : Bool)
  /-- A comment between its marks. -/
  | block (body : Bytes) (h : ¬ [Octet.star, Octet.slash] <:+: body)

/-- The piece as the decorated text has it. -/
def Filler.text : Filler → Bytes
  | .blank b _ => [b]
  | .line body _ _ => Octet.slash :: Octet.slash :: body ++ [Octet.newline]
  | .block body _ => Octet.slash :: Octet.star :: body ++ [Octet.star, Octet.slash]

/-- What the strict text has in its place. -/
def Filler.bare : Filler → Bytes
  | .blank b _ => [b]
  | .line _ _ kept => if kept then [Octet.newline] else []
  | .block _ _ => []

/-- All that stands between two tokens. -/
abbrev Gap := List Filler

def Gap.text (g : Gap) : Bytes := g.flatMap Filler.text

def Gap.bare (g : Gap) : Bytes := g.flatMap Filler.bare

theorem Gap.isBlank_bare (g : Gap) : ∀ b ∈ g.bare, Octet.isBlank b = true := by
  intro b hb
  obtain ⟨piece, -, hb⟩ := List.mem_flatMap.mp hb
  match piece, hb with
  | .blank c hc, hb =>
    rw [Filler.bare, List.mem_singleton] at hb
    exact hb ▸ hc
  | .line _ _ kept, hb =>
    cases kept
    · cases hb
    · rw [Filler.bare, if_pos rfl, List.mem_singleton] at hb
      subst hb
      decide
  | .block _ _, hb => cases hb

/-! ## Values -/

/-- What stands between the last element of an array or object and the closing bracket: a gap, or
    two with a comma between them. -/
structure Closing where
  after : Gap
  comma : Option Gap

/-- A key, the colon behind it and the gaps on both sides of the colon. -/
structure Label where
  key : Key
  before : Gap
  behind : Gap

mutual

/-- A value as it is laid out. -/
inductive Layout where
  | scalar (token : Scalar)
  | emptyList (gap : Gap)
  | list (before : Gap) (items : Items)
  | emptyRecord (gap : Gap)
  | record (before : Gap) (members : Members)

/-- The items of an array from the first one on, up to and with the closing bracket. -/
inductive Items where
  | last (item : Layout) (closing : Closing)
  | more (item : Layout) (after before : Gap) (rest : Items)

/-- The members of an object from the first one on, up to and with the closing brace. -/
inductive Members where
  | last (label : Label) (value : Layout) (closing : Closing)
  | more (label : Label) (value : Layout) (after before : Gap) (rest : Members)

end

/-! ## Writing -/

section Write

variable (render : Gap → Bytes) (comma : Bytes)

/-- Write a closing, with `comma` for a comma that no element follows. -/
def Closing.write (c : Closing) : Bytes :=
  render c.after ++ match c.comma with
    | none => []
    | some gap => comma ++ render gap

/-- Write a label behind the opening quote of its key. -/
def Label.write (l : Label) : Bytes :=
  l.key.body ++ (render l.before ++ Octet.colon :: render l.behind)

mutual

def Layout.write : Layout → Bytes
  | .scalar t => t.first :: t.more
  | .emptyList gap => Octet.openBracket :: (render gap ++ [Octet.closeBracket])
  | .list before items => Octet.openBracket :: (render before ++ items.write)
  | .emptyRecord gap => Octet.openBrace :: (render gap ++ [Octet.closeBrace])
  | .record before members =>
    Octet.openBrace :: (render before ++ Octet.quote :: members.write)

def Items.write : Items → Bytes
  | .last item closing => item.write ++ (closing.write render comma ++ [Octet.closeBracket])
  | .more item after before rest =>
    item.write ++ (render after ++ Octet.comma :: (render before ++ rest.write))

/-- The opening quote of the first key is not written. -/
def Members.write : Members → Bytes
  | .last label value closing =>
    label.write render ++ (value.write ++ (closing.write render comma ++ [Octet.closeBrace]))
  | .more label value after before rest =>
    label.write render ++ (value.write ++
      (render after ++ Octet.comma :: (render before ++ Octet.quote :: rest.write)))

end

end Write

/-! ## Decorated texts -/

/-- The UTF-8 byte-order mark. -/
def byteOrderMark : Bytes := [0xEF, 0xBB, 0xBF]

/-- A comment that only the end of the text ends, or none. -/
abbrev EndComment := Option { body : Bytes // Octet.newline ∉ body }

def EndComment.text : EndComment → Bytes
  | none => []
  | some body => Octet.slash :: Octet.slash :: body.val

/-- A decorated text: a value with what surrounds it. -/
structure Decorated where
  mark : Bool
  before : Gap
  value : Layout
  after : Gap
  tail : EndComment

namespace Decorated

/-- The decorated text. -/
def source (d : Decorated) : Bytes :=
  (if d.mark then byteOrderMark else []) ++ (d.before.text ++
    (d.value.write Gap.text [Octet.comma] ++ (d.after.text ++ d.tail.text)))

/-- The strict text that is left without the mark, the comments and the commas behind last
    elements. -/
def strict (d : Decorated) : Bytes :=
  d.before.bare ++ (d.value.write Gap.bare [] ++ d.after.bare)

end Decorated

/-- `s` is a decorated form of the strict text `text`: the same tokens with the same blanks, a
    byte-order mark in front or none, any comments before, after and between the tokens, and at
    most one comma behind the last element of each array and object that has one. -/
def Decorates (s text : Bytes) : Prop := ∃ d : Decorated, d.source = s ∧ d.strict = text

/-! ## The value of a layout -/

mutual

/-- The value, if `depth` more arrays and objects may be open inside one another. -/
def Layout.value? : Layout → (depth : Nat) → Option Value
  | .scalar t, _ => some t.value
  | .emptyList _, 0 | .list _ _, 0 | .emptyRecord _, 0 | .record _ _, 0 => none
  | .emptyList _, _ + 1 => some (.array [])
  | .list _ items, depth + 1 => (items.values? depth).map .array
  | .emptyRecord _, _ + 1 => some (.object [])
  | .record _ members, depth + 1 =>
    (members.values? depth).map fun written => .object (mergeMembers written)

def Items.values? : Items → (depth : Nat) → Option (List Value)
  | .last item _, depth => (item.value? depth).map fun v => [v]
  | .more item _ _ rest, depth =>
    (item.value? depth).bind fun v => (rest.values? depth).map fun values => v :: values

def Members.values? : Members → (depth : Nat) → Option (List (String × Value))
  | .last label value _, depth => (value.value? depth).map fun v => [(label.key.name, v)]
  | .more label value _ _ rest, depth =>
    (value.value? depth).bind fun v =>
      (rest.values? depth).map fun values => (label.key.name, v) :: values

end

/-! ## First octets -/

section Head

variable (render : Gap → Bytes) (comma : Bytes)

theorem Layout.exists_head (t : Layout) :
    ∃ b w, t.write render comma = b :: w ∧ Octet.startsValue b = true := by
  cases t with
  | scalar token => exact ⟨_, _, by rw [Layout.write], token.shape.startsValue⟩
  | emptyList gap => exact ⟨_, _, by rw [Layout.write], by decide⟩
  | list before items => exact ⟨_, _, by rw [Layout.write], by decide⟩
  | emptyRecord gap => exact ⟨_, _, by rw [Layout.write], by decide⟩
  | record before members => exact ⟨_, _, by rw [Layout.write], by decide⟩

theorem Items.exists_head (items : Items) :
    ∃ b w, items.write render comma = b :: w ∧ Octet.startsValue b = true := by
  cases items with
  | last item closing =>
    obtain ⟨b, w, hw, hb⟩ := item.exists_head render comma
    exact ⟨b, _, by rw [Items.write, hw, List.cons_append], hb⟩
  | more item after before rest =>
    obtain ⟨b, w, hw, hb⟩ := item.exists_head render comma
    exact ⟨b, _, by rw [Items.write, hw, List.cons_append], hb⟩

end Head

/-! ## Reading what was written -/

theorem Octet.not_word_of_isBlank {b : UInt8} (h : isBlank b = true) : isWord b = false := by
  cases hword : isWord b with
  | false => rfl
  | true =>
    rw [not_blank_of_startsValue (startsValue_of_isWord hword)] at h
    cases h

theorem stops_append {blanks r : Bytes} (h : ∀ b ∈ blanks, Octet.isBlank b = true)
    (hr : Stops r) : Stops (blanks ++ r) := by
  cases blanks with
  | nil => exact hr
  | cons b w => exact stops_cons (Octet.not_word_of_isBlank (h b (List.mem_cons_self ..))) _

/-- Blanks and then the octet `b` are seen as `b`. -/
theorem skipBlanks_append_cons {blanks : Bytes} (h : ∀ b ∈ blanks, Octet.isBlank b = true)
    {b : UInt8} (hb : Octet.isBlank b = false) (s : Bytes) :
    skipBlanks (blanks ++ b :: s) = b :: s := by
  rw [skipBlanks_append h, skipBlanks_cons_of_not_blank hb]

/-- Gaps are written as blanks, and so are commas behind last elements unless nothing is. -/
structure WritesBlanks (render : Gap → Bytes) (comma : Bytes) : Prop where
  gap : ∀ g, ∀ b ∈ render g, Octet.isBlank b = true
  comma : ∀ b ∈ comma, Octet.isBlank b = true

theorem writesBlanks_bare : WritesBlanks Gap.bare [] where
  gap := Gap.isBlank_bare
  comma := by simp

section Read

variable {render : Gap → Bytes} {comma : Bytes} (h : WritesBlanks render comma)

include h

theorem WritesBlanks.closing (c : Closing) :
    ∀ b ∈ c.write render comma, Octet.isBlank b = true := by
  intro b hb
  rw [Closing.write, List.mem_append] at hb
  rcases hb with hb | hb
  · exact h.gap _ b hb
  · split at hb
    · cases hb
    · rcases List.mem_append.mp hb with hb | hb
      · exact h.comma b hb
      · exact h.gap _ b hb

theorem Label.read (l : Label) (r : Bytes) :
    (readKey (l.write render ++ r)).outcome = some (l.key.name, render l.behind ++ r) := by
  have hcolon := readColon_outcome (render l.before ++ Octet.colon :: (render l.behind ++ r))
  rw [skipBlanks_append_cons (h.gap _) (by decide)] at hcolon
  rw [readKey_outcome, Label.write, List.append_assoc, List.append_assoc, List.cons_append,
    l.key.read_append, Option.bind_some, hcolon]
  rfl

mutual

/-- A layout that is written with blanks in its gaps is read as its value, with what stands
    behind it left over. -/
theorem Layout.read (t : Layout) (depth : Nat) {blanks r : Bytes}
    (hblanks : ∀ b ∈ blanks, Octet.isBlank b = true) (hr : Stops r) :
    (readValue depth (blanks ++ (t.write render comma ++ r))).outcome =
      (t.value? depth).map fun v => (v, r) := by
  rw [readValue_outcome]
  match t with
  | .scalar token =>
    rw [Layout.write, List.cons_append,
      skipBlanks_append_cons hblanks (Octet.not_blank_of_startsValue token.shape.startsValue)]
    dsimp only
    rw [if_neg (token.shape.ne_of_not_word (by decide) (by decide)),
      if_neg (token.shape.ne_of_not_word (by decide) (by decide)),
      token.read_append hr, Layout.value?]
    rfl
  | .emptyList gap =>
    rw [Layout.write, List.cons_append, skipBlanks_append_cons hblanks (by decide)]
    cases depth with
    | zero => rfl
    | succ inner =>
      rw [List.append_assoc, List.singleton_append]
      dsimp only
      rw [if_pos rfl, skipBlanks_append_cons (h.gap gap) (by decide)]
      rfl
  | .list before items =>
    -- No closing bracket follows the gap, since an item begins there.
    obtain ⟨b, w, hw, hb⟩ := items.exists_head render comma
    have hitems := Items.read items
    rw [Layout.write, List.cons_append, skipBlanks_append_cons hblanks (by decide)]
    cases depth with
    | zero => rfl
    | succ inner =>
      have hread := hitems inner r
      rw [hw, List.cons_append] at hread
      rw [List.append_assoc, hw, List.cons_append]
      dsimp only
      rw [if_pos rfl, skipBlanks_append_cons (h.gap before) (Octet.not_blank_of_startsValue hb)]
      dsimp only
      rw [if_neg (Octet.ne_of_startsValue hb (by decide)), hread, Layout.value?]
      cases items.values? inner <;> rfl
  | .emptyRecord gap =>
    rw [Layout.write, List.cons_append, skipBlanks_append_cons hblanks (by decide)]
    cases depth with
    | zero => rfl
    | succ inner =>
      rw [List.append_assoc, List.singleton_append]
      dsimp only
      rw [if_neg (by decide), if_pos rfl, skipBlanks_append_cons (h.gap gap) (by decide)]
      rfl
  | .record before members =>
    have hmembers := Members.read members
    rw [Layout.write, List.cons_append, skipBlanks_append_cons hblanks (by decide)]
    cases depth with
    | zero => rfl
    | succ inner =>
      rw [List.append_assoc, List.cons_append]
      dsimp only
      rw [if_neg (by decide), if_pos rfl, skipBlanks_append_cons (h.gap before) (by decide)]
      dsimp only
      rw [if_neg (by decide), if_pos rfl, hmembers inner r, Layout.value?]
      cases members.values? inner <;> rfl

theorem Items.read (items : Items) (depth : Nat) (r : Bytes) :
    (readItems depth (items.write render comma ++ r)).outcome =
      (items.values? depth).map fun values => (values, r) := by
  rw [readItems_outcome]
  match items with
  | .last item closing =>
    have hstops : Stops (closing.write render comma ++ Octet.closeBracket :: r) :=
      stops_append (h.closing closing) (stops_cons (by decide) r)
    have hread := Layout.read item depth (List.forall_mem_nil _) hstops
    rw [List.nil_append] at hread
    rw [Items.write, List.append_assoc, List.append_assoc, List.singleton_append, hread,
      Items.values?]
    cases item.value? depth with
    | none => rfl
    | some v =>
      dsimp only [Option.map_some, Option.bind_some]
      rw [skipBlanks_append_cons (h.closing closing) (by decide)]
      rfl
  | .more item after before rest =>
    -- The comma is no trailing one, since another item begins behind it.
    obtain ⟨b, w, hw, hb⟩ := rest.exists_head render comma
    have hrest := Items.read rest depth r
    have hread := Layout.read item depth (List.forall_mem_nil _)
      (stops_append (h.gap after) (stops_cons (b := Octet.comma) (by decide)
        (render before ++ (rest.write render comma ++ r))))
    rw [List.nil_append] at hread
    rw [Items.write, List.append_assoc, List.append_assoc, List.cons_append, List.append_assoc,
      hread, Items.values?]
    cases item.value? depth with
    | none => rfl
    | some v =>
      rw [hw, List.cons_append] at hrest
      dsimp only [Option.map_some, Option.bind_some]
      rw [skipBlanks_append_cons (h.gap after) (by decide), hw, List.cons_append]
      dsimp only
      rw [if_neg (by decide), if_pos rfl,
        skipBlanks_append_cons (h.gap before) (Octet.not_blank_of_startsValue hb)]
      dsimp only
      rw [if_neg (Octet.ne_of_startsValue hb (by decide)), hrest]
      cases rest.values? depth <;> rfl

theorem Members.read (members : Members) (depth : Nat) (r : Bytes) :
    (readMembers depth (members.write render comma ++ r)).outcome =
      (members.values? depth).map fun values => (values, r) := by
  rw [readMembers_outcome]
  match members with
  | .last label value closing =>
    have hstops : Stops (closing.write render comma ++ Octet.closeBrace :: r) :=
      stops_append (h.closing closing) (stops_cons (by decide) r)
    rw [Members.write, List.append_assoc, label.read h, Option.bind_some, List.append_assoc,
      List.append_assoc, List.singleton_append,
      Layout.read value depth (h.gap label.behind) hstops, Members.values?]
    cases value.value? depth with
    | none => rfl
    | some v =>
      dsimp only [Option.map_some, Option.bind_some]
      rw [skipBlanks_append_cons (h.closing closing) (by decide)]
      rfl
  | .more label value after before rest =>
    have hrest := Members.read rest depth r
    have hstops : Stops (render after ++ Octet.comma ::
        (render before ++ Octet.quote :: (rest.write render comma ++ r))) :=
      stops_append (h.gap after) (stops_cons (by decide) _)
    rw [Members.write, List.append_assoc, label.read h, Option.bind_some, List.append_assoc,
      List.append_assoc, List.cons_append, List.append_assoc, List.cons_append,
      Layout.read value depth (h.gap label.behind) hstops, Members.values?]
    cases value.value? depth with
    | none => rfl
    | some v =>
      dsimp only [Option.map_some, Option.bind_some]
      rw [skipBlanks_append_cons (h.gap after) (by decide)]
      dsimp only
      rw [if_neg (by decide), if_pos rfl, skipBlanks_append_cons (h.gap before) (by decide)]
      dsimp only
      rw [if_pos rfl, hrest]
      cases rest.values? depth <;> rfl

end

end Read

end SampleTypes.Json

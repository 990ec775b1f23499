import SampleTypes.Proofs.CommandLine.Targets

set_option autoImplicit false

/-! # What the arguments replace

The arguments are laid over the options of a file, or over the defaults. Each of them replaces the
field it names and leaves the others as they are (`resolve_overrides`); the style alone also follows
the language. The indentation has two fields but is replaced as a whole, so that a width without
tabs is one of spaces, whatever character the file chose. -/

namespace SampleTypes

open Json (Bytes)

/-! ## Styles that fit -/

theorem Style.fitTo_of_eq {style : Style} {language : Language} (h : style.language = language) :
    style.fitTo language = style :=
  if_pos h

theorem Style.fitTo_of_ne {style : Style} {language : Language} (h : style.language ≠ language) :
    style.fitTo language = Style.default language :=
  if_neg h

namespace CommandLine

variable {a a' : Arguments} {base o o' : Options} {files : FileReader} {char : IndentChar}

/-! ## What a run starts from -/

/-- The options that the arguments are laid over. -/
inductive Arguments.StartsFrom (a : Arguments) (files : FileReader) : Options → Prop where
  | defaults : a.options = none → a.StartsFrom files .default
  | file {path : String} {content : Bytes} {base : Options} : a.options = some path →
      files path = .ok content → Options.ofSource content = .ok base → a.StartsFrom files base

theorem Arguments.StartsFrom.isSupported (h : a.StartsFrom files base) : base.IsSupported := by
  obtain _ | ⟨_, _, hbase⟩ := h
  · exact Options.isSupported_forLanguage .csharp
  · exact Options.isSupported_ofSource hbase

/-- A run starts from one set of options. -/
theorem Arguments.StartsFrom.unique {base' : Options} (h : a.StartsFrom files base)
    (h' : a.StartsFrom files base') : base = base' := by
  obtain hnone | ⟨hpath, hread, hbase⟩ := h
  · obtain _ | ⟨hpath', -, -⟩ := h'
    · rfl
    · exact absurd (hnone.symm.trans hpath') (by simp)
  · obtain hnone' | ⟨hpath', hread', hbase'⟩ := h'
    · exact absurd (hnone'.symm.trans hpath) (by simp)
    · obtain rfl := Option.some.inj (hpath.symm.trans hpath')
      obtain rfl := Except.ok.inj (hread.symm.trans hread')
      exact Except.ok.inj (hbase.symm.trans hbase')

theorem Arguments.resolve_eq_ok_iff :
    a.resolve files = .ok o ↔ ∃ base, a.StartsFrom files base ∧ a.override base = o := by
  constructor
  · intro h
    unfold Arguments.resolve readFile at h
    split at h
    · next hnone => exact ⟨_, .defaults hnone, Except.ok.inj h⟩
    · next path hpath =>
      cases hread : files path with
      | error e => simp [hread] at h
      | ok content =>
        cases hbase : Options.ofSource content with
        | error d => simp [hread, hbase] at h
        | ok base =>
          simp only [hread, hbase] at h
          exact ⟨base, .file hpath hread hbase, Except.ok.inj h⟩
  · rintro ⟨base, hnone | ⟨hpath, hread, hbase⟩, rfl⟩
    · simp [Arguments.resolve, hnone]
    · simp [Arguments.resolve, readFile, hpath, hread, hbase]

/-! ## Field by field -/

/-- Whether `o` is `base` with the fields replaced that the arguments name. A width without tabs goes
    with `char`. -/
structure Arguments.Overrides (a : Arguments) (char : IndentChar) (base o : Options) : Prop where
  language : o.language = (a.language.map Language.ofToken).getD base.language
  access : o.access = (a.access.map Access.ofToken).getD base.access
  serializer : o.serializer = (a.serializer.map Serializer.ofToken).getD base.serializer
  inheritable : o.inheritable = if a.inheritable then true else base.inheritable
  mutability : o.mutability = if a.settable then .settable else base.mutability
  typeHints : o.typeHints = if a.noTypeHints then false else base.typeHints
  style_given : ∀ token, a.style = some token → o.style = Style.ofTokenFor token o.language
  style_foreign : a.style = none → base.style.language ≠ o.language →
    a.language.isSome = true ∧ o.style = Style.default o.language
  style_kept : a.style = none → base.style.language = o.language → o.style = base.style
  tabs : a.tabs = true → o.indentation = ⟨.tab, a.indent.getD 1⟩
  width : a.tabs = false → ∀ width, a.indent = some width → o.indentation = ⟨char, width⟩
  indentation_kept : a.tabs = false → a.indent = none → o.indentation = base.indentation

/-- The fields together leave nothing open. -/
theorem Arguments.Overrides.unique (h : a.Overrides char base o) (h' : a.Overrides char base o') :
    o = o' := by
  have hlanguage : o.language = o'.language := h.language.trans h'.language.symm
  have hstyle : o.style = o'.style := by
    cases hgiven : a.style with
    | some token => rw [h.style_given token hgiven, h'.style_given token hgiven, hlanguage]
    | none =>
      by_cases hfits : base.style.language = o.language
      · rw [h.style_kept hgiven hfits, h'.style_kept hgiven (hfits.trans hlanguage)]
      · rw [(h.style_foreign hgiven hfits).2, (h'.style_foreign hgiven (hlanguage ▸ hfits)).2,
          hlanguage]
  have hindentation : o.indentation = o'.indentation := by
    cases htabs : a.tabs with
    | true => rw [h.tabs htabs, h'.tabs htabs]
    | false =>
      cases hindent : a.indent with
      | some width => rw [h.width htabs width hindent, h'.width htabs width hindent]
      | none => rw [h.indentation_kept htabs hindent, h'.indentation_kept htabs hindent]
  have haccess := h.access.trans h'.access.symm
  have hserializer := h.serializer.trans h'.serializer.symm
  have hinheritable := h.inheritable.trans h'.inheritable.symm
  have hmutability := h.mutability.trans h'.mutability.symm
  have htypeHints := h.typeHints.trans h'.typeHints.symm
  cases o
  cases o'
  simp_all

@[simp]
theorem Arguments.language_override (a : Arguments) (base : Options) :
    (a.override base).language = (a.language.map Language.ofToken).getD base.language := by
  unfold Arguments.override Arguments.withStyle Arguments.withLanguage
  cases a.language <;> cases a.style <;> rfl

/-- Where the language and the style already agree, the style follows the language in any case. -/
theorem Arguments.style_override (a : Arguments) (hbase : base.IsSupported) :
    (a.override base).style = match a.style with
      | some token => Style.ofTokenFor token (a.override base).language
      | none => base.style.fitTo (a.override base).language := by
  rw [language_override]
  unfold Arguments.override Arguments.withStyle Arguments.withLanguage
  cases a.language with
  | none =>
    have hfits := Style.fitTo_of_eq hbase
    cases a.style <;> simp [hfits]
  | some token => cases a.style <;> rfl

/-- Language and style are replaced first, and nothing else with them. -/
theorem Arguments.exists_withStyle_eq (a : Arguments) (base : Options) :
    ∃ language style,
      a.withStyle (a.withLanguage base) = { base with language := language, style := style } := by
  unfold Arguments.withStyle Arguments.withLanguage
  cases a.language <;> cases a.style <;> exact ⟨_, _, rfl⟩

theorem Arguments.override_overrides (a : Arguments) (hbase : base.IsSupported) :
    a.Overrides .space base (a.override base) := by
  obtain ⟨language, style, htarget⟩ := a.exists_withStyle_eq base
  constructor
  case language => exact a.language_override base
  case style_given =>
    intro token h
    rw [a.style_override hbase, h]
  case style_foreign =>
    intro h hforeign
    constructor
    · cases hlanguage : a.language with
      | some token => rfl
      | none =>
        rw [a.language_override, hlanguage] at hforeign
        exact absurd hbase hforeign
    · rw [a.style_override hbase, h]
      exact Style.fitTo_of_ne hforeign
  case style_kept =>
    intro h hfits
    rw [a.style_override hbase, h]
    exact Style.fitTo_of_eq hfits
  case tabs =>
    intro h
    simp [Arguments.override, Arguments.indentation?, h, IndentChar.defaultWidth]
  case width =>
    intro h width hwidth
    simp [Arguments.override, Arguments.indentation?, h, hwidth]
  case indentation_kept =>
    intro h hwidth
    simp [Arguments.override, Arguments.indentation?, h, hwidth, htarget]
  all_goals
    simp only [Arguments.override, htarget]
  case inheritable => cases a.inheritable <;> simp
  case typeHints => cases a.noTypeHints <;> simp

/-- The character of the file survives exactly where no width is given without tabs, or where it is
    the space anyway. -/
theorem Arguments.Overrides.keeps_char_iff (h : a.Overrides .space base o) :
    a.Overrides base.indentation.char base o ↔
      a.tabs = true ∨ a.indent = none ∨ base.indentation.char = .space := by
  constructor
  · intro hkept
    cases htabs : a.tabs with
    | true => exact .inl rfl
    | false =>
      cases hindent : a.indent with
      | none => exact .inr (.inl rfl)
      | some width =>
        have hsame := (hkept.width htabs width hindent).symm.trans (h.width htabs width hindent)
        exact .inr (.inr (congrArg Indentation.char hsame))
  · intro hcases
    refine { h with width := fun htabs width hwidth => ?_ }
    obtain htabs' | hnone | hspace := hcases
    · rw [htabs] at htabs'
      exact absurd htabs' (by simp)
    · rw [hwidth] at hnone
      exact absurd hnone (by simp)
    · rw [hspace]
      exact h.width htabs width hwidth

/-! ## One more argument -/

/-- What turning a switch on does to the options. -/
def Switch.effect (a : Arguments) (o : Options) : Switch → Options
  | .inheritable => { o with inheritable := true }
  | .settable => { o with mutability := .settable }
  | .tabs => { o with indentation := ⟨.tab, a.indent.getD 1⟩ }
  | .noTypeHints => { o with typeHints := false }
  | .version | .help => o

/-- What giving a setting does to the options. -/
def Setting.effect (a : Arguments) (value : String) (o : Options) : Setting → Options
  | .language =>
    let language := Language.ofToken value
    a.withStyle { o with language := language, style := o.style.fitTo language }
  | .style => { o with style := Style.ofTokenFor value o.language }
  | .access => { o with access := Access.ofToken value }
  | .serializer => { o with serializer := Serializer.ofToken value }
  | .indent =>
    { o with indentation :=
        ⟨if a.tabs then .tab else .space, (widthValue? value).getD o.indentation.width⟩ }
  | .input | .name | .options | .out => o

/-- Arguments that name the same file of options start from the same. -/
theorem Arguments.resolve_eq_map {f : Options → Options} (hoptions : a'.options = a.options)
    (h : ∀ base, a'.override base = f (a.override base)) :
    a'.resolve files = (a.resolve files).map f := by
  unfold Arguments.resolve
  rw [hoptions]
  cases a.options with
  | none => exact congrArg Except.ok (h _)
  | some path =>
    dsimp only
    cases readFile files path with
    | error e => rfl
    | ok content =>
      dsimp only
      cases Options.ofSource content with
      | error d => rfl
      | ok base => exact congrArg Except.ok (h base)

theorem storeOnce_eq_ok {α : Type} {current new stored : Option α}
    (h : storeOnce current new = .ok stored) :
    current = none ∧ stored = new ∧ new.isSome = true := by
  unfold storeOnce at h
  split at h
  · exact absurd h (by simp)
  · next hfree =>
    obtain ⟨hcurrent, hnew⟩ := not_or.mp hfree
    exact ⟨by simpa using hcurrent, (Except.ok.inj h).symm, by simpa [Option.isSome_iff_ne_none] using hnew⟩

theorem map_storeOnce_eq_ok {α : Type} {current new : Option α} {f : Option α → Arguments}
    (h : (storeOnce current new).map f = .ok a') :
    current = none ∧ a' = f new ∧ new.isSome = true := by
  cases hstored : storeOnce current new with
  | error e => simp [hstored, Except.map] at h
  | ok stored =>
    obtain ⟨hcurrent, rfl, hnew⟩ := storeOnce_eq_ok hstored
    rw [hstored] at h
    exact ⟨hcurrent, (Except.ok.inj h).symm, hnew⟩

/-- One more switch changes what it names, and nothing else. -/
theorem Arguments.resolve_turnOn {s : Switch} (h : a.turnOn s = .ok a') :
    a'.resolve files = (a.resolve files).map fun o => s.effect a o := by
  cases s <;> simp only [Arguments.turnOn] at h
  case version => exact absurd h (by simp)
  case help => exact absurd h (by simp)
  all_goals
    split at h
    · exact absurd h (by simp)
    · rename_i hoff
      obtain rfl := Except.ok.inj h
      refine resolve_eq_map rfl fun base => ?_
      simp [Arguments.override, Switch.effect, Arguments.withStyle, Arguments.withLanguage,
        Arguments.indentation?, IndentChar.defaultWidth, hoff]

/-- One more setting changes what it names, and nothing else. -/
theorem Arguments.resolve_set {s : Setting} {value : String} (hs : s ≠ .options)
    (h : a.set s value = .ok a') :
    a'.resolve files = (a.resolve files).map fun o => s.effect a value o := by
  cases s <;> simp only [Arguments.set] at h
  case options => exact absurd rfl hs
  all_goals
    obtain ⟨hfree, rfl, hnew⟩ := map_storeOnce_eq_ok h
    refine resolve_eq_map rfl fun base => ?_
  case language =>
    cases hstyle : a.style <;>
      simp [Arguments.override, Setting.effect, Arguments.withStyle, Arguments.withLanguage,
        Arguments.indentation?, hfree, hstyle]
  case style =>
    simp [Arguments.override, Setting.effect, Arguments.withStyle, Arguments.withLanguage,
      Arguments.indentation?, hfree]
  case indent =>
    obtain ⟨width, hwidth⟩ := Option.isSome_iff_exists.mp hnew
    cases htabs : a.tabs <;>
      simp [Arguments.override, Setting.effect, Arguments.withStyle, Arguments.withLanguage,
        Arguments.indentation?, hfree, htabs, hwidth]
  all_goals
    simp [Arguments.override, Setting.effect, Arguments.withStyle, Arguments.withLanguage,
      Arguments.indentation?]

/-! ## The options of a run -/

/-- Arguments replace what they name in the options of the file or in the defaults, and keep the
    rest: field by field, and one argument after the other. The exception is a width without tabs,
    which replaces the character of the indentation as well, by the space. -/
theorem resolve_overrides (a : Arguments) (files : FileReader) :
    (∀ o, a.resolve files = .ok o ↔
      ∃ base, a.StartsFrom files base ∧ a.Overrides .space base o) ∧
    (∀ base o, a.StartsFrom files base → a.Overrides .space base o →
      (a.Overrides base.indentation.char base o ↔
        a.tabs = true ∨ a.indent = none ∨ base.indentation.char = .space)) ∧
    (∀ (s : Switch) a', a.turnOn s = .ok a' →
      a'.resolve files = (a.resolve files).map fun o => s.effect a o) ∧
    ∀ (s : Setting) value a', s ≠ .options → a.set s value = .ok a' →
      a'.resolve files = (a.resolve files).map fun o => s.effect a value o := by
  refine ⟨fun o => ?_, fun base o _ h => h.keeps_char_iff, fun s a' h => a.resolve_turnOn h,
    fun s value a' hs h => a.resolve_set hs h⟩
  rw [Arguments.resolve_eq_ok_iff]
  constructor
  · rintro ⟨base, hbase, rfl⟩
    exact ⟨base, hbase, a.override_overrides hbase.isSupported⟩
  · rintro ⟨base, hbase, h⟩
    exact ⟨base, hbase, (a.override_overrides hbase.isSupported).unique h⟩

/-- Options for two tabs a level. -/
def tabOptions : Bytes :=
  utf8Bytes "\x7b\"indentation\": \x7b\"ch\": \"tab\", \"width\": 2\x7d\x7d"

/-- Arguments that lay a width over a file of options. -/
def widthArguments : Arguments :=
  { Arguments.blank with options := some "o.json", indent := some 3 }

/-- With tabs asked for as well, the file's character and the arguments' agree. -/
theorem resolve_overrides_of_tabs :
    ∃ a', widthArguments.turnOn .tabs = .ok a' ∧
      a'.resolve (fun _ => .ok tabOptions) =
        .ok { Options.default with indentation := ⟨.tab, 3⟩ } ∧
      a'.Overrides .tab { Options.default with indentation := ⟨.tab, 2⟩ }
        { Options.default with indentation := ⟨.tab, 3⟩ } := by
  let base : Options := { Options.default with indentation := ⟨.tab, 2⟩ }
  have hbase : Options.ofSource tabOptions = .ok base := by cbv
  have hwidth : widthArguments.resolve (fun _ => .ok tabOptions) =
      .ok { Options.default with indentation := ⟨.space, 3⟩ } := by cbv
  let a' : Arguments := { widthArguments with tabs := true }
  have hturn : widthArguments.turnOn .tabs = .ok a' := rfl
  have hresolve := (resolve_overrides widthArguments fun _ => .ok tabOptions).2.2.1 .tabs a' hturn
  rw [hwidth] at hresolve
  obtain ⟨hiff, hkept, -⟩ := resolve_overrides a' fun _ => .ok tabOptions
  have hstart : a'.StartsFrom (fun _ => .ok tabOptions) base := .file rfl rfl hbase
  obtain ⟨start, hstart', hover⟩ := (hiff _).mp hresolve
  obtain rfl : base = start := hstart.unique hstart'
  exact ⟨a', hturn, hresolve, (hkept _ _ hstart hover).mpr (.inl rfl)⟩

/-- A width replaces the tabs of the file by spaces. -/
theorem resolve_drops_tabs :
    ¬ ∀ (a : Arguments) files base o, a.StartsFrom files base → a.resolve files = .ok o →
      a.Overrides base.indentation.char base o := by
  intro hkept
  have hbase : Options.ofSource tabOptions =
      .ok { Options.default with indentation := ⟨.tab, 2⟩ } := by cbv
  have hresolve : widthArguments.resolve (fun _ => .ok tabOptions) =
      .ok { Options.default with indentation := ⟨.space, 3⟩ } := by cbv
  have hover := hkept widthArguments (fun _ => .ok tabOptions) _ _ (.file rfl rfl hbase) hresolve
  exact absurd (hover.width rfl 3 rfl) (by decide)

end CommandLine

end SampleTypes

import Stencil.Settings.File

/-!
# Bad configurations

Which values are configurations, and how those that are none are turned down.  What is
taken for the settings and what YAML means is up to the library that files are read with;
of that library it is only assumed that it keeps to the declarations of the settings and
stops with errors of its own.  Then all of its errors are told as faults of the
configuration, and names that are no texts and bytes that are no text are not.
-/

namespace Stencil

theorem Path.isAbsolute_join {base path : Path} (absolute : base.isAbsolute = true) :
    (base.join path).isAbsolute = true := by
  rw [join]
  split
  · assumption
  · exact absolute

namespace Declaration

/-- What a declared setting can be: its default, or what is made of a given value that is
allowed. -/
def Gives {α : Type} (declaration : Declaration α) (value : α) : Prop :=
  value = declaration.default ∨
    ∃ given, declaration.allows given = true ∧ value = declaration.prepare given

theorem Gives.of_count {name : Text} {default value : Int} (positive : 1 ≤ default)
    (gives : (count name default).Gives value) : 1 ≤ value := by
  rcases gives with rfl | ⟨given, allowed, rfl⟩
  · exact positive
  · exact of_decide_eq_true allowed

end Declaration

namespace Config

/-- The limits are at least one, and an extension begins with a dot. -/
structure IsSound (config : Config) : Prop where
  maxPasses : 1 ≤ config.maxPasses
  loopMaxPasses : 1 ≤ config.loopMaxPasses
  maxIncludeDepth : 1 ≤ config.maxIncludeDepth
  extension : config.defaultExtension = [] ∨ config.defaultExtension.head? = some '.'

/-- The settings that are not plain are what their declarations give. -/
structure IsDeclared (config : Config) : Prop where
  maxPasses : Setting.maxPasses.Gives config.maxPasses
  loopMaxPasses : Setting.loopMaxPasses.Gives config.loopMaxPasses
  maxIncludeDepth : Setting.maxIncludeDepth.Gives config.maxIncludeDepth
  extension : Setting.defaultExtension.Gives config.defaultExtension

theorem isDeclared_default : default.IsDeclared :=
  ⟨.inl rfl, .inl rfl, .inl rfl, .inl rfl⟩

theorem dotted_sound (text : Text) : dotted text = [] ∨ (dotted text).head? = some '.' := by
  rw [dotted]
  split
  · exact .inl rfl
  · exact .inr rfl
  · exact .inr rfl

theorem IsDeclared.isSound {config : Config} (declared : config.IsDeclared) :
    config.IsSound where
  maxPasses := Int.ofNat_le.mp (declared.maxPasses.of_count (by decide))
  loopMaxPasses := Int.ofNat_le.mp (declared.loopMaxPasses.of_count (by decide))
  maxIncludeDepth := Int.ofNat_le.mp (declared.maxIncludeDepth.of_count (by decide))
  extension := by
    rcases declared.extension with unset | ⟨given, _, set⟩
    · rw [unset]
      exact .inr rfl
    · rw [set]
      exact dotted_sound given

end Config

namespace Settings

/-- A call that stops with errors of its own kind only. -/
def StopsWithOwn {α β ε : Type} (call : α → Except (Stop ε) β) : Prop :=
  ∀ given fault, call given ≠ .error (.other fault)

theorem StopsWithOwn.exists_own {α β ε : Type} {call : α → Except (Stop ε) β}
    (stops : StopsWithOwn call) {given : α} {stop : Stop ε}
    (failed : call given = .error stop) : ∃ error, stop = .own error := by
  cases stop with
  | own error => exact ⟨error, rfl⟩
  | other fault => exact absurd failed (stops given fault)

/-- What is relied on of the library that files are read with.  The check of a
configuration may take and refuse what it likes, and YAML may mean anything. -/
structure Library.Laws (library : Library) : Prop where
  /-- Reading YAML raises errors of YAML. -/
  yaml : StopsWithOwn library.yaml
  /-- Checking a configuration raises errors of validation. -/
  config : StopsWithOwn library.config
  /-- A checked configuration keeps the bounds of its counts and has the prepared
  extension, unless these are left at their defaults. -/
  declared : ∀ entries config, library.config entries = .ok config → config.IsDeclared

end Settings

namespace Config

/-- The entries in which a value from a file has its settings; none if it is no mapping. -/
def section? : Value → Option Entries
  | .null => some []
  | .map _ false entries => some (settingsOf entries)
  | _ => none

/-- The faults of a value that is no configuration. -/
inductive Fails (library : Settings.Library) (value : Value) : Fault → Prop where
  | notAMapping : section? value = none → Fails library value (.settings .notAMapping)
  | misnamed {entries : Entries} : section? value = some entries →
      entries.areNamed = false → Fails library value .keywordNotText
  | refused {entries : Entries} {refusals : List Refusal} : section? value = some entries →
      entries.areNamed = true → library.config entries = .error (.own refusals) →
      Fails library value (.settings (.invalidFields refusals))

section Values

variable {library : Settings.Library} {base : Path} {value : Value}

theorem ofValue_of_section?_none (nothing : section? value = none) :
    ofValue library base value = .error (.settings .notAMapping) := by
  cases value with
  | null => cases nothing
  | map identity readOnly entries =>
      cases readOnly with
      | false => cases nothing
      | true => rfl
  | _ => rfl

theorem ofValue_of_section? {entries : Entries} (found : section? value = some entries) :
    ofValue library base value = (do
      let config ← (Settings.byName library.config entries).mapError
        (Stop.fault fun refusals => .settings (.invalidFields refusals))
      return { config with viewsPath := base.join config.viewsPath }) := by
  cases value with
  | null =>
      cases found
      rfl
  | map identity readOnly inner =>
      cases readOnly <;> cases found
      rfl
  | _ => cases found

theorem ofValue_of_named {entries : Entries} (found : section? value = some entries)
    (named : entries.areNamed = true) :
    ofValue library base value = (do
      let config ← (library.config entries).mapError
        (Stop.fault fun refusals => .settings (.invalidFields refusals))
      return { config with viewsPath := base.join config.viewsPath }) := by
  rw [ofValue_of_section? found, Settings.byName, if_pos named]

theorem ofValue_of_fails {fault : Fault} (fails : Fails library value fault) :
    ofValue library base value = .error fault := by
  cases fails with
  | notAMapping nothing => exact ofValue_of_section?_none nothing
  | misnamed found misnamed =>
      rw [ofValue_of_section? found, Settings.byName, misnamed]
      rfl
  | refused found named refused =>
      rw [ofValue_of_named found named, refused]
      rfl

variable (lawful : library.Laws)
include lawful

theorem exists_ofValue (base : Path) (succeeds : ∀ fault, ¬ Fails library value fault) :
    ∃ config, ofValue library base value = .ok config ∧ config.IsSound ∧
      (base.isAbsolute = true → config.viewsPath.isAbsolute = true) := by
  cases found : section? value with
  | none => exact absurd (.notAMapping found) (succeeds _)
  | some entries =>
      cases named : entries.areNamed with
      | false => exact absurd (.misnamed found named) (succeeds _)
      | true =>
          cases checked : library.config entries with
          | error stop =>
              obtain ⟨refusals, rfl⟩ := lawful.config.exists_own checked
              exact absurd (.refused found named checked) (succeeds _)
          | ok config =>
              have sound : config.IsSound := (lawful.declared entries config checked).isSound
              refine ⟨{ config with viewsPath := base.join config.viewsPath }, ?_,
                { sound with }, Path.isAbsolute_join⟩
              rw [ofValue_of_named found named, checked]
              rfl

/-- A value is turned down for its own fault, and for no other. -/
theorem ofValue_eq_error_iff {fault : Fault} :
    ofValue library base value = .error fault ↔ Fails library value fault := by
  refine ⟨fun failed => ?_, ofValue_of_fails⟩
  by_cases succeeds : ∀ reason, ¬ Fails library value reason
  · obtain ⟨config, read, _⟩ := exists_ofValue lawful base succeeds
    rw [read] at failed
    cases failed
  · obtain ⟨reason, fails⟩ := Classical.not_forall_not.mp succeeds
    rw [ofValue_of_fails fails] at failed
    cases failed
    exact fails

theorem ofValue_eq_ok {config : Config} (read : ofValue library base value = .ok config) :
    config.IsSound ∧ (base.isAbsolute = true → config.viewsPath.isAbsolute = true) := by
  have succeeds : ∀ fault, ¬ Fails library value fault := by
    intro fault fails
    rw [ofValue_of_fails fails] at read
    cases read
  obtain ⟨same, again, sound⟩ := exists_ofValue lawful base succeeds
  rw [again] at read
  cases read
  exact sound

end Values

end Config

namespace Settings

/-- The value of a text in a file at a path. -/
def parse (library : Library) (path : Path) (text : Text) : Except Fault Value :=
  if isJson path then readJson path text else readYaml library path text

section Files

variable {library : Library} {tree : FileTree} {base : Location} {path : Path}
  {content : Bytes} {text : Text}

/-- A text has no value because of its form, or because it is JSON with an integer that is
too long to be read. -/
theorem parse_eq_error (lawful : library.Laws) {fault : Fault}
    (failed : parse library path text = .error fault) :
    (∃ refusal, fault = .settings refusal) ∨
      (isJson path = true ∧ Json.read text = .error .tooManyDigits ∧
        fault = .tooManyDigits) := by
  rw [parse] at failed
  split at failed
  · next json =>
      rw [readJson] at failed
      split at failed
      · cases failed
      · cases failed
        exact .inl ⟨_, rfl⟩
      · next long =>
          cases failed
          exact .inr ⟨json, long, rfl⟩
  · rw [readYaml] at failed
    cases parsed : library.yaml text with
    | ok value =>
        rw [parsed] at failed
        cases failed
    | error stop =>
        obtain ⟨reason, rfl⟩ := lawful.yaml.exists_own parsed
        rw [parsed] at failed
        cases failed
        exact .inl ⟨_, rfl⟩

theorem parse_tooManyDigits (json : isJson path = true)
    (long : Json.read text = .error .tooManyDigits) :
    parse library path text = .error .tooManyDigits := by
  rw [parse, if_pos json, readJson, long]

/-- The ways in which the check of a file can end. -/
inductive Verdict (library : Library) (path : Path) (content : Bytes) :
    Except Fault Bool → Prop where
  | notText {fault : Utf8.Fault} : Utf8.decode content = .error fault →
      Verdict library path content (.error (.encoding fault))
  | tooLong {text : Text} : FileTree.textOf content = .ok text → isJson path = true →
      Json.read text = .error .tooManyDigits →
      Verdict library path content (.error .tooManyDigits)
  | malformed {text : Text} {refusal : SettingsFault} : FileTree.textOf content = .ok text →
      parse library path text = .error (.settings refusal) →
      Verdict library path content (.ok false)
  | misnamed {text : Text} {value : Value} : FileTree.textOf content = .ok text →
      parse library path text = .ok value → Config.Fails library value .keywordNotText →
      Verdict library path content (.error .keywordNotText)
  | refused {text : Text} {value : Value} {refusal : SettingsFault} :
      FileTree.textOf content = .ok text → parse library path text = .ok value →
      Config.Fails library value (.settings refusal) → Verdict library path content (.ok false)
  | accepted {text : Text} {value : Value} : FileTree.textOf content = .ok text →
      parse library path text = .ok value → (∀ fault, ¬ Config.Fails library value fault) →
      Verdict library path content (.ok true)

/-- What the check makes of the outcome of reading the configuration. -/
def judged : Except Fault Config → Except Fault Bool
  | .ok _ => .ok true
  | .error (.settings _) | .error (.file (.missing _)) => .ok false
  | .error fault => .error fault

theorem isConfig_eq :
    isConfig library tree base path = judged (readConfig library tree base path) :=
  rfl

variable (there : tree.read? (Location.ofPath base path) = .ok (some content))
include there

theorem readConfig_of_read? :
    readConfig library tree base path =
      (FileTree.textOf content >>= parse library path >>=
        Config.ofValue library path.parent) := by
  rw [readConfig, read, there]
  rfl

theorem readConfig_notText {fault : Utf8.Fault} (failed : Utf8.decode content = .error fault) :
    readConfig library tree base path = .error (.encoding fault) := by
  rw [readConfig_of_read? there, FileTree.textOf, failed]
  rfl

theorem readConfig_of_textOf (isText : FileTree.textOf content = .ok text) :
    readConfig library tree base path =
      (parse library path text >>= Config.ofValue library path.parent) := by
  rw [readConfig_of_read? there, isText]
  rfl

theorem readConfig_notParsed {fault : Fault} (isText : FileTree.textOf content = .ok text)
    (failed : parse library path text = .error fault) :
    readConfig library tree base path = .error fault := by
  rw [readConfig_of_textOf there isText, failed]
  rfl

theorem readConfig_parsed {value : Value} (isText : FileTree.textOf content = .ok text)
    (parsed : parse library path text = .ok value) :
    readConfig library tree base path = Config.ofValue library path.parent value := by
  rw [readConfig_of_textOf there isText, parsed]
  rfl

/-- The check of a file that is there ends in the one way that its content calls for. -/
theorem isConfig_iff (lawful : library.Laws) {verdict : Except Fault Bool} :
    isConfig library tree base path = verdict ↔ Verdict library path content verdict := by
  rw [isConfig_eq]
  constructor
  · rintro rfl
    cases decoded : Utf8.decode content with
    | error fault =>
        rw [readConfig_notText there decoded]
        exact .notText decoded
    | ok text =>
        have isText : FileTree.textOf content = .ok text.withLineFeeds := by
          rw [FileTree.textOf, decoded]
        cases parsed : parse library path text.withLineFeeds with
        | error fault =>
            rw [readConfig_notParsed there isText parsed]
            rcases parse_eq_error lawful parsed with ⟨refusal, rfl⟩ | ⟨json, long, rfl⟩
            · exact .malformed isText parsed
            · exact .tooLong isText json long
        | ok value =>
            rw [readConfig_parsed there isText parsed]
            cases made : Config.ofValue library path.parent value with
            | error fault =>
                have fails := (Config.ofValue_eq_error_iff lawful).mp made
                cases fails with
                | notAMapping nothing => exact .refused isText parsed (.notAMapping nothing)
                | misnamed found misnamed =>
                    exact .misnamed isText parsed (.misnamed found misnamed)
                | refused found named refused =>
                    exact .refused isText parsed (.refused found named refused)
            | ok config =>
                refine .accepted isText parsed fun fault fails => ?_
                rw [Config.ofValue_of_fails fails] at made
                cases made
  · intro judgement
    cases judgement with
    | notText failed =>
        rw [readConfig_notText there failed]
        rfl
    | tooLong isText json long =>
        rw [readConfig_notParsed there isText (parse_tooManyDigits json long)]
        rfl
    | malformed isText failed =>
        rw [readConfig_notParsed there isText failed]
        rfl
    | misnamed isText parsed fails =>
        rw [readConfig_parsed there isText parsed, Config.ofValue_of_fails fails]
        rfl
    | refused isText parsed fails =>
        rw [readConfig_parsed there isText parsed, Config.ofValue_of_fails fails]
        rfl
    | accepted isText parsed succeeds =>
        obtain ⟨config, made, _⟩ := Config.exists_ofValue lawful path.parent succeeds
        rw [readConfig_parsed there isText parsed, made]
        rfl

end Files

/-- Reading a configuration gives one with sound limits and extension and, from an absolute
place, with an absolute path to the views, or it fails for the fault of the value and no
other: that it is no mapping, that a name is no text, or that the check refuses settings.
The check of a file that is there says whether it holds a configuration unless the bytes are
no text, a name is no text, or the file is JSON with an integer that is too long to be
read. -/
theorem config_verdicts {library : Library} (lawful : library.Laws) (base : Path)
    (value : Value) (tree : FileTree) (directory : Location) (path : Path) (content : Bytes) :
    (∀ config, Config.ofValue library base value = .ok config →
        config.IsSound ∧ (base.isAbsolute = true → config.viewsPath.isAbsolute = true)) ∧
      (∀ fault, Config.ofValue library base value = .error fault ↔
        Config.Fails library value fault) ∧
      (tree.read? (Location.ofPath directory path) = .ok (some content) →
        ∀ verdict, isConfig library tree directory path = verdict ↔
          Verdict library path content verdict) :=
  ⟨fun _ => Config.ofValue_eq_ok lawful, fun _ => Config.ofValue_eq_error_iff lawful,
    fun there _ => isConfig_iff there lawful⟩

/-- A library that knows the YAML of two texts, and takes no settings. -/
def sparse : Library where
  yaml text :=
    if text = [] then .ok .null
    else if text = "1: 2\n".toList then .ok (.map 0 false [(.int 1, .int 2)])
    else .error (.own [])
  config
    | [] => .ok Config.default
    | _ => .error (.own [])
  options
    | [] => .ok Options.default
    | _ => .error (.own [])

theorem sparse_laws : sparse.Laws where
  yaml := by
    intro text fault failed
    rw [sparse] at failed
    dsimp only at failed
    split at failed
    · cases failed
    · split at failed <;> cases failed
  config := by
    intro entries fault failed
    cases entries <;> cases failed
  declared := by
    intro entries config checked
    cases entries <;> cases checked
    exact Config.isDeclared_default

/-- Nothing at all is a configuration.  A name that is a number raises, in a file as well,
and so does a byte that begins no character. -/
theorem config_verdicts_raised :
    let misnamed := Value.map 0 false [(.int 1, .int 2)]
    let path := Path.ofText "engine.yaml".toList
    let place := ["engine.yaml".toList]
    let named : FileTree := ⟨[(place, "1: 2\n".toList.map fun char => char.toUInt8)], []⟩
    let spoilt : FileTree := ⟨[(place, [0xFF])], []⟩
    Config.ofValue sparse ⟨['/'], []⟩ .null =
        .ok { Config.default with viewsPath := ⟨['/'], ["views".toList]⟩ } ∧
      Config.ofValue sparse ⟨['/'], []⟩ misnamed = .error .keywordNotText ∧
      isConfig sparse named [] path = .error .keywordNotText ∧
      isConfig sparse spoilt [] path = .error (.encoding ⟨0, 1, 0xFF, .startByte⟩) := by
  intro misnamed path place named spoilt
  let line := "1: 2\n".toList
  let bytes : Bytes := line.map fun char => char.toUInt8
  obtain ⟨_, failing, judging⟩ :=
    config_verdicts sparse_laws ⟨['/'], []⟩ misnamed named [] path bytes
  obtain ⟨_, _, judgingSpoilt⟩ :=
    config_verdicts sparse_laws ⟨['/'], []⟩ misnamed spoilt [] path [0xFF]
  have isText : FileTree.textOf bytes = .ok line := rfl
  have parsed : parse sparse path line = .ok misnamed := rfl
  have fails : Config.Fails sparse misnamed .keywordNotText := .misnamed rfl rfl
  exact ⟨rfl, (failing _).mpr fails, (judging rfl _).mpr (.misnamed isText parsed fails),
    (judgingSpoilt rfl _).mpr (.notText rfl)⟩

end Settings

end Stencil

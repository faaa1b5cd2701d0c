/-
# Extensions in one variable

The variable of the extensions holds them with commas between them, and they are read back just as
they were joined: no blanks are trimmed, empty items stay, nothing is sorted. Before a text is cut
at its commas, however, it is tried as a truth value and as a number, whatever setting it is meant
for. A text with a comma is neither, so that two extensions or more are always read; a single one is
refused when it is a numeral or one of the two words.
-/

import DocTags.Proofs.Decimal.Numeral
import DocTags.Proofs.Settings.Precedence
import DocTags.Proofs.Text.Pieces

namespace DocTags

namespace Text

/-- A character that is its own lower-case form stays when a text is lowered. -/
theorem mem_lowerAfter {c : Char} {text : Text} (own : lowerChar c = [c]) (plain : c ≠ '\u03a3')
    (member : c ∈ text) (before : Text) : c ∈ lowerAfter before text := by
  induction text generalizing before with
  | nil => exact absurd member List.not_mem_nil
  | cons first rest ih =>
      rw [lowerAfter, List.mem_append]
      rcases List.mem_cons.mp member with rfl | later
      · left
        rw [if_neg plain, own]
        exact List.mem_singleton_self c
      · exact Or.inr (ih later _)

end Text

namespace Environment

/-! ## Texts that are read as one value -/

/-- Whether a text is one of the two words for truth values, in letters of either case, or a
numeral. -/
def isScalar (text : Text) : Bool :=
  Text.lowercase text == "true".toList || Text.lowercase text == "false".toList ||
    (Numeral.binary64? text).isSome

/-- A text with a comma is no single value. -/
theorem isScalar_of_comma {text : Text} (comma : ',' ∈ text) : isScalar text = false := by
  have lowered : ',' ∈ Text.lowercase text :=
    Text.mem_lowerAfter (by decide) (by decide) comma []
  have noWord : ∀ {word : Text}, ',' ∉ word → (Text.lowercase text == word) = false := by
    intro word absent
    rw [beq_eq_false_iff_ne]
    rintro same
    exact absent (same ▸ lowered)
  rw [isScalar, noWord (by decide), noWord (by decide), Numeral.binary64?_of_comma comma]
  rfl

/-- A text that is no single value is cut at its commas, where extensions are wanted. -/
theorem readValue_of_not_isScalar {text : Text} (plain : isScalar text = false) :
    readValue extensionsKey text = .list ((Text.splitOn ',' text).map .text) := by
  simp only [isScalar, Bool.or_eq_false_iff, beq_eq_false_iff_ne, Option.isSome_eq_false_iff,
    Option.isNone_iff_eq_none] at plain
  obtain ⟨⟨notTrue, notFalse⟩, noNumber⟩ := plain
  have noInteger : Numeral.integer? text = none := by
    rw [← Option.not_isSome_iff_eq_none]
    intro whole
    have number := Numeral.isSome_binary64?_of_integer? whole
    rw [noNumber] at number
    exact Bool.noConfusion number
  simp only [readValue, notTrue, notFalse, noInteger, noNumber, if_false, if_true]

/-- A single value is no list, whatever is wanted. -/
theorem readValue_ne_list {text : Text} (scalar : isScalar text = true) (key : Text)
    (items : List Value) : readValue key text ≠ .list items := by
  by_cases isTrue : Text.lowercase text = "true".toList
  · simp only [readValue, if_pos isTrue]
    nofun
  by_cases isFalse : Text.lowercase text = "false".toList
  · simp only [readValue, if_neg isTrue, if_pos isFalse]
    nofun
  have numeral : (Numeral.binary64? text).isSome := by
    rwa [isScalar, beq_eq_false_iff_ne.mpr isTrue, beq_eq_false_iff_ne.mpr isFalse] at scalar
  obtain ⟨number, read⟩ := Option.isSome_iff_exists.mp numeral
  simp only [readValue, if_neg isTrue, if_neg isFalse, read]
  cases Numeral.integer? text <;> nofun

/-- Texts are taken as they are. -/
theorem mapM_toText_map (key : Text) (items : List Text) :
    (items.map Value.text).mapM (Value.toText key) = .ok items := by
  induction items with
  | nil => rfl
  | cons item items ih =>
      rw [List.map_cons, List.mapM_cons, ih]
      rfl

/-- A text that is no single value gives the extensions between its commas. -/
theorem decodeExtensions_of_not_isScalar {text : Text} (plain : isScalar text = false) :
    decodeExtensions text = .ok (Text.splitOn ',' text) := by
  rw [decodeExtensions, readValue_of_not_isScalar plain, Value.toTexts, mapM_toText_map]

/-- Why a single value gives no extensions. -/
def notAList (text : Text) : Problem :=
  .kind (readValue extensionsKey text).kind "a sequence".toList [] []

/-- Only a list gives texts. -/
theorem toTexts_of_ne_list {value : Value} (noList : ∀ items, value ≠ .list items) (key : Text) :
    value.toTexts key = .error (.kind value.kind "a sequence".toList [] []) := by
  cases value with
  | list items => exact absurd rfl (noList items)
  | missing | boolean | integer | number | text | table => rfl

/-- A single value gives no extensions, not even one. -/
theorem decodeExtensions_of_isScalar {text : Text} (scalar : isScalar text = true) :
    decodeExtensions text = .error (notAList text) := by
  rw [decodeExtensions, notAList, toTexts_of_ne_list (readValue_ne_list scalar extensionsKey)]

/-! ## One variable among others -/

/-- One setting has its usual variable with the given text, and no other variable means a
setting. -/
structure SetsOnly (environment : Environment) (setting : Setting) (text : Text) : Prop where
  distinct : (Assoc.names environment).Nodup
  value : environment.lookup setting.name = some text
  others : ∀ name ∈ Assoc.names environment,
    name = setting.name ∨ ¬ variableStart <+: Text.lowercase name

variable {environment : Environment} {setting : Setting} {text : Text}

theorem SetsOnly.isPlain (only : environment.SetsOnly setting text) : environment.IsPlain where
  distinct := only.distinct
  known name member := (only.others name member).imp_left fun same => ⟨setting, same⟩

/-- The other settings have no variable. -/
theorem SetsOnly.lookup_of_ne (only : environment.SetsOnly setting text) {other : Setting}
    (differs : other ≠ setting) : environment.lookup other.name = none := by
  refine Assoc.lookup_eq_none_of_not_mem fun member => ?_
  rcases only.others other.name member with same | foreign
  · exact differs (Setting.name_injective same)
  · exact foreign (starts_of_key? (Setting.key?_name other))

end Environment

namespace Settings

open Environment

variable {global project : Option (Path × SettingsFile)} {environment : Environment} {text : Text}

/-- Where only the variable of the extensions is set, nothing but its text can be at fault. -/
theorem load_of_setsOnly_extensions (globalUsable : Usable global) (projectUsable : Usable project)
    (only : environment.SetsOnly .extensions text) :
    load global project environment =
      settle ((environment.problem? .extensions decodeExtensions).map
          (.badVariable extensionsVariable))
        (((replace {} (fileLayer global)).merge (fileLayer project)).replace
          ⟨none, ⟨environment.given? .extensions decodeExtensions, none⟩⟩) := by
  have noFormat : environment.lookup Setting.format.name = none := only.lookup_of_ne (by decide)
  have noIncludeEmpty : environment.lookup Setting.includeEmpty.name = none :=
    only.lookup_of_ne (by decide)
  rw [load_eq only.isPlain]
  simp only [Source.all, List.findSome?_cons, List.findSome?_nil, Source.fault?,
    fileFault?_eq_none_iff.mpr globalUsable, fileFault?_eq_none_iff.mpr projectUsable, problem?,
    given?, noFormat, noIncludeEmpty, Option.bind_none, Option.map_none]
  cases (environment.lookup (Setting.extensions).name).bind _ <;> rfl

/-- A text that is no single value gives the extensions between its commas in the place of those
below. -/
theorem load_of_not_isScalar (globalUsable : Usable global) (projectUsable : Usable project)
    (only : environment.SetsOnly .extensions text) (plain : isScalar text = false) :
    ∃ settings, load global project environment = .ok settings ∧
      settings.scan.extensions = Text.splitOn ',' text := by
  have decoded := decodeExtensions_of_not_isScalar plain
  rw [load_of_setsOnly_extensions globalUsable projectUsable only]
  simp only [problem?, given?, only.value, Option.bind_some, decoded, Option.map_none]
  exact ⟨_, rfl, rfl⟩

/-- A single value is refused. -/
theorem load_of_isScalar (globalUsable : Usable global) (projectUsable : Usable project)
    (only : environment.SetsOnly .extensions text) (scalar : isScalar text = true) :
    load global project environment =
      .error (.badVariable extensionsVariable (notAList text)) := by
  have refused := decodeExtensions_of_isScalar scalar
  rw [load_of_setsOnly_extensions globalUsable projectUsable only]
  simp only [problem?, only.value, Option.bind_some, refused, Option.map_some]
  rfl

/-- Joined extensions are a single value only where there is a single one that is. -/
theorem isScalar_joinWith {extensions : List Text} (some : extensions ≠ []) :
    isScalar (Text.joinWith [','] extensions) = true ↔
      ∃ word, extensions = [word] ∧ isScalar word = true := by
  cases extensions with
  | nil => exact absurd rfl some
  | cons first rest =>
      cases rest with
      | nil => simp [Text.joinWith]
      | cons second rest =>
          have comma : ',' ∈ Text.joinWith [','] (first :: second :: rest) := by
            simp [Text.joinWith]
          simp [isScalar_of_comma comma]

/-- **Extensions from the environment.** Extensions without commas, at least one, that stand joined
in their variable are loaded just as they are, over any settings files that can be used, unless
there is only one and it is a truth value or a numeral. Such a one is refused. -/
theorem load_joined_extensions {extensions : List Text} (some : extensions ≠ [])
    (plain : ∀ extension ∈ extensions, ',' ∉ extension) (globalUsable : Usable global)
    (projectUsable : Usable project)
    (only : environment.SetsOnly .extensions (Text.joinWith [','] extensions)) :
    ((∃ settings, load global project environment = .ok settings ∧
        settings.scan.extensions = extensions) ↔
      ¬ ∃ word, extensions = [word] ∧ isScalar word = true) ∧
    ∀ word, extensions = [word] → isScalar word = true →
      load global project environment =
        .error (.badVariable extensionsVariable (notAList word)) := by
  have refused : ∀ word, extensions = [word] → isScalar word = true →
      load global project environment =
        .error (.badVariable extensionsVariable (notAList word)) := by
    rintro word rfl scalar
    exact load_of_isScalar globalUsable projectUsable only scalar
  refine ⟨⟨?_, fun notSingle => ?_⟩, refused⟩
  · rintro ⟨settings, loaded, -⟩ ⟨word, single, scalar⟩
    rw [refused word single scalar] at loaded
    cases loaded
  · have notScalar : isScalar (Text.joinWith [','] extensions) = false := by
      rw [← Bool.not_eq_true, isScalar_joinWith some]
      exact notSingle
    rw [← Text.splitOn_joinWith some plain]
    exact load_of_not_isScalar globalUsable projectUsable only notScalar

/-- Two numerals and an empty extension between them replace the extensions of the global file. -/
theorem load_joined_extensions_of_numerals :
    let global : Option (Path × SettingsFile) :=
      some (⟨"hierardoc.toml".toList⟩, .text "scan.file_extensions=['inc']".toList)
    let environment : Environment :=
      [("PATH".toList, "/bin".toList), (extensionsVariable, "7,,1e3".toList)]
    ∃ settings, load global none environment = .ok settings ∧
      settings.scan.extensions = ["7".toList, [], "1e3".toList] := by
  intro global environment
  have globalRead : Layer.ofToml? "scan.file_extensions=['inc']".toList =
      some ⟨none, ⟨some ["inc".toList], none⟩⟩ := by decide +kernel
  have globalUsable : Usable global := ⟨_, globalRead⟩
  have only : environment.SetsOnly .extensions
      (Text.joinWith [','] ["7".toList, [], "1e3".toList]) := by
    refine ⟨by decide, rfl, fun name member => ?_⟩
    have cases : name = "PATH".toList ∨ name = extensionsVariable := by
      simpa [environment, Assoc.names] using member
    rcases cases with rfl | rfl
    · exact Or.inr (by decide)
    · exact Or.inl rfl
  have projectUsable : Usable none := trivial
  have read := load_joined_extensions (by decide) (by decide) globalUsable projectUsable only
  refine read.1.mpr ?_
  rintro ⟨word, single, -⟩
  simp at single

/-- A lone extension that is a numeral, such as that of a manual page, is refused. -/
theorem load_of_lone_numeral :
    let environment : Environment := [(extensionsVariable, Text.joinWith [','] ["7".toList])]
    environment.SetsOnly .extensions (Text.joinWith [','] ["7".toList]) ∧
      load none none environment = .error (.badVariable extensionsVariable
        (.kind "integer `7`".toList "a sequence".toList [] [])) := by
  intro environment
  have only : environment.SetsOnly .extensions (Text.joinWith [','] ["7".toList]) :=
    ⟨by decide, rfl, fun name member => Or.inl (List.mem_singleton.mp member)⟩
  have unset : Usable none := trivial
  exact ⟨only, load_of_isScalar unset unset only (by decide)⟩

end Settings

end DocTags

/-
# The variables of an environment

Each of the three settings has one variable by its usual name. In an environment whose other
variables are not meant as settings, what stands under the path of a setting is the value of its own
variable and of no other: the paths of the settings do not begin each other, so that values put
under them do not touch.
-/

import DocTags.Proofs.Assoc
import DocTags.Proofs.Text.Occurrence
import DocTags.Settings.Load

namespace DocTags

namespace Environment

/-! ## Paths in a value -/

namespace Value

/-- A value that is put under some names is found there. -/
theorem get?_put_self (new : Value) (names : List Text) (old : Value) :
    (put new (names.map Step.field) old).get? names = some new := by
  induction names generalizing old with
  | nil => rfl
  | cons name names ih =>
      rw [List.map_cons, put, get?, fields, Assoc.lookup_alter, if_pos rfl]
      exact ih _

/-- A value that is put under some names does not touch what other names lead to. Where no value
stood, none is found either, since names are left to follow. -/
theorem get?_put_of_apart (new : Value) {names others : List Text} (notBefore : ¬ names <+: others)
    (notBehind : ¬ others <+: names) (old : Value) :
    (put new (names.map Step.field) old).get? others = old.get? others := by
  induction names generalizing others old with
  | nil => exact absurd (List.nil_prefix) notBefore
  | cons name names ih =>
      cases others with
      | nil => exact absurd (List.nil_prefix) notBehind
      | cons other others =>
          rw [List.map_cons, put, get?, get?, fields, Assoc.lookup_alter]
          by_cases same : other = name
          · subst same
            rw [List.cons_prefix_cons] at notBefore notBehind
            have apart : ¬ others <+: names := fun behind => notBehind ⟨rfl, behind⟩
            rw [if_pos rfl, Option.bind_some, ih (fun before => notBefore ⟨rfl, before⟩) apart]
            cases found : old.fields.lookup other with
            | some part => rfl
            | none =>
                cases others with
                | nil => exact absurd (List.nil_prefix) apart
                | cons next others => rfl
          · rw [if_neg same]

end Value

/-! ## Settings and their variables -/

/-- A setting that a variable can give. -/
inductive Setting where
  | format
  | extensions
  | includeEmpty
deriving DecidableEq

namespace Setting

/-- The usual name of the variable of a setting. -/
def name : Setting → Text
  | format => Settings.formatVariable
  | extensions => Settings.extensionsVariable
  | includeEmpty => Settings.includeEmptyVariable

/-- The path under which a setting stands. -/
def key : Setting → Text
  | format => formatKey
  | extensions => extensionsKey
  | includeEmpty => includeEmptyKey

theorem key?_name (setting : Setting) : key? setting.name = some setting.key := by
  cases setting <;> decide

theorem steps_key (setting : Setting) :
    steps setting.key = (Text.splitOn '.' setting.key).map Step.field := by
  cases setting <;> rfl

theorem apart_of_ne {setting other : Setting} (differs : setting ≠ other) :
    ¬ Text.splitOn '.' setting.key <+: Text.splitOn '.' other.key := by
  revert differs
  cases setting <;> cases other <;> decide

theorem name_injective : Function.Injective name := by
  intro setting other same
  have keys := congrArg key? same
  rw [key?_name, key?_name, Option.some.injEq] at keys
  revert keys
  cases setting <;> cases other <;> decide

end Setting

/-- A process has one variable of a name, and no variable means a setting but the three with their
usual names. -/
structure IsPlain (environment : Environment) : Prop where
  distinct : (Assoc.names environment).Nodup
  known : ∀ name ∈ Assoc.names environment,
    (∃ setting : Setting, name = setting.name) ∨ ¬ variableStart <+: Text.lowercase name

/-- A name that does not start as a setting does is not read. -/
theorem key?_eq_none {name : Text} (foreign : ¬ variableStart <+: Text.lowercase name) :
    key? name = none := by
  rw [key?, Text.isPrefixOf?_eq_none foreign]
  rfl

theorem starts_of_key? {name key : Text} (read : key? name = some key) :
    variableStart <+: Text.lowercase name := by
  by_contra foreign
  rw [key?_eq_none foreign] at read
  cases read

/-- Put what a variable gives into a tree of values. -/
def putVariable (tree : Value) (pair : Text × Text) : Value :=
  match key? pair.1 with
  | some key => (readValue key pair.2).put (steps key) tree
  | none => tree

theorem putVariable_setting (tree : Value) (setting : Setting) (text : Text) :
    putVariable tree (setting.name, text) =
      (readValue setting.key text).put ((Text.splitOn '.' setting.key).map Step.field) tree := by
  rw [putVariable, Setting.key?_name]
  simp only [Setting.steps_key]

theorem putVariable_foreign (tree : Value) {name : Text}
    (foreign : ¬ variableStart <+: Text.lowercase name) (text : Text) :
    putVariable tree (name, text) = tree := by
  rw [putVariable, key?_eq_none foreign]

/-- The value of a variable is what stands under the path of its setting, and without the variable
what stood there before. -/
theorem get?_foldl_putVariable {environment : Environment} (plain : environment.IsPlain)
    (setting : Setting) (tree : Value) :
    (environment.foldl putVariable tree).get? (Text.splitOn '.' setting.key) =
      ((environment.lookup setting.name).map (readValue setting.key)).or
        (tree.get? (Text.splitOn '.' setting.key)) := by
  induction environment generalizing tree with
  | nil => rfl
  | cons pair environment ih =>
      obtain ⟨name, text⟩ := pair
      obtain ⟨fresh, distinct⟩ := List.nodup_cons.mp plain.distinct
      obtain ⟨known, rest⟩ := List.forall_mem_cons.mp plain.known
      rw [List.foldl_cons, ih ⟨distinct, rest⟩, Assoc.lookup_cons_eq_ite]
      rcases known with ⟨other, rfl⟩ | foreign
      · rw [putVariable_setting]
        by_cases same : setting = other
        · subst same
          have absent := Assoc.lookup_eq_none_of_not_mem fresh
          rw [if_pos rfl, absent, Value.get?_put_self]
          rfl
        · rw [if_neg fun names => same (Setting.name_injective names),
            Value.get?_put_of_apart _ (Setting.apart_of_ne (Ne.symm same))
              (Setting.apart_of_ne same)]
      · have differs : setting.name ≠ name := by
          rintro rfl
          exact foreign (starts_of_key? (Setting.key?_name setting))
        rw [if_neg differs, putVariable_foreign tree foreign]

/-- In a plain environment a setting has the value of its variable. -/
theorem IsPlain.at?_key {environment : Environment} (plain : environment.IsPlain)
    (setting : Setting) :
    environment.at? setting.key =
      (environment.lookup setting.name).map (readValue setting.key) := by
  have found := get?_foldl_putVariable plain setting (.table [])
  have nothing : (Value.table []).get? (Text.splitOn '.' setting.key) = none := by
    cases setting <;> rfl
  rw [nothing, Option.or_none] at found
  exact found

end Environment

end DocTags

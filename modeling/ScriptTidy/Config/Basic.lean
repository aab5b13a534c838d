import ScriptTidy.Data.Json.Reader
import ScriptTidy.Data.Toml.Reader
import ScriptTidy.Pipeline

/-!
# Configuration

What a project asks for, as it is written down in a file of its own or in a section of its package manifest. The
section has six settings, all of which may be missing, and no others. `Config.pipeline` turns a configuration into a
pipeline.
-/

namespace ScriptTidy

/-- The settings of a project. What is not given has its standard value. -/
structure Config where
  /-- The rules to run, by their names. -/
  rules : Option (List String)
  /-- Names to leave alone. -/
  ignoreNames : List String
  /-- The pattern of more names to leave alone. -/
  ignorePattern : Option String
  /-- Leave exported declarations alone. -/
  keepExported : Option Bool
  /-- Refuse changes that add faults. -/
  verify : Option Bool
  /-- Folders to skip. -/
  excludeFolders : Option (List String)
  deriving DecidableEq, Repr

/-- Why there is no configuration in a text. -/
inductive ConfigError where
  /-- The text is not a document of its format. -/
  | malformedDocument
  /-- The section is not made up of the settings. -/
  | malformedSection
  deriving DecidableEq, Repr

namespace Config

/-- Nothing is given. -/
def standard : Config := ⟨none, [], none, none, none, none⟩

/-- The key of the section. -/
def sectionName : String := "neatify"

/-- Exported declarations are left alone unless something else is asked for. -/
def keepsExported (c : Config) : Bool := c.keepExported.getD true

/-- Changes are verified unless something else is asked for. -/
def verifies (c : Config) : Bool := c.verify.getD true

/-- The folders to skip, none unless some are given. -/
def excluded (c : Config) : List String := c.excludeFolders.getD []

/-! ### Settings in a document -/

/-- A setting that may be missing. An empty value counts as missing. -/
def optionalSetting (read : Json → Option α) : Option Json → Option (Option α)
  | none | some .null => some none
  | some v => (read v).map some

def readText : Json → Option String
  | .text s => some s
  | _ => none

def readBool : Json → Option Bool
  | .bool b => some b
  | _ => none

def readTexts : Json → Option (List String)
  | .array items => items.mapM readText
  | _ => none

/-- The keys of the settings, in their order. -/
def keys : List String :=
  ["rules", "ignore_names", "ignore_pattern", "keep_exported", "verify", "exclude_folders"]

/-- The configuration that the settings give, by their keys. -/
def ofSettings (setting : String → Option Json) : Option Config := do
  let rules ← optionalSetting readTexts (setting "rules")
  let ignoreNames ← ((setting "ignore_names").map readTexts).getD (some [])
  let ignorePattern ← optionalSetting readText (setting "ignore_pattern")
  let keepExported ← optionalSetting readBool (setting "keep_exported")
  let verify ← optionalSetting readBool (setting "verify")
  let excludeFolders ← optionalSetting readTexts (setting "exclude_folders")
  return ⟨rules, ignoreNames, ignorePattern, keepExported, verify, excludeFolders⟩

/-- The configuration of a section. It is an object with the settings by their keys, or an array with all of them in
their order. -/
def ofSection (body : Json) : Option Config :=
  match body with
  | .object fields =>
    if fields.all fun f => keys.contains f.1 then ofSettings body.field? else none
  | .array items =>
    if items.length = keys.length then ofSettings fun key => (keys.zip items).lookup key else none
  | _ => none

/-! ### Documents -/

/-- A value of TOML as one of JSON. No setting takes a number or a date, so that all of them may become zero. -/
def jsonOfToml : Toml → Json
  | .text s => .text s
  | .bool b => .bool b
  | .other => .number 0 0
  | .array items => .array (itemsOfToml items)
  | .tables items => .array (itemsOfToml items).reverse
  | .table _ fields => .object (fieldsOfToml fields)
where
  itemsOfToml : List Toml → List Json
    | [] => []
    | item :: items => jsonOfToml item :: itemsOfToml items
  fieldsOfToml : List (String × Toml) → List (String × Json)
    | [] => []
    | (key, value) :: fields => (key, jsonOfToml value) :: fieldsOfToml fields

/-- In TOML, an array may hold more values than there are settings. -/
def trimSection : Json → Json
  | .array items => .array (items.take keys.length)
  | v => v

/-- The configuration in a file of its own. Other tables and keys beside the section do not matter. -/
def ofToml (document : String) : Except ConfigError Config :=
  match Toml.ofText? document with
  | none => .error .malformedDocument
  | some fields =>
    match fields.lookup sectionName with
    | none => .ok standard
    | some v =>
      match ofSection (trimSection (jsonOfToml v)) with
      | some c => .ok c
      | none => .error .malformedSection

/-- The configuration in a package manifest, if it has a section for it. -/
def ofManifest (document : String) : Except ConfigError (Option Config) :=
  match Json.ofText? document with
  | none => .error .malformedDocument
  | some manifest =>
    match manifest.field? sectionName with
    | none => .ok none
    | some v =>
      match ofSection v with
      | some c => .ok (some c)
      | none => .error .malformedSection

/-! ### Pipelines -/

/-- What the rules have to heed. -/
def settings (c : Config) : Except RunError Settings :=
  match c.ignorePattern with
  | none => .ok ⟨c.ignoreNames, none, c.keepsExported⟩
  | some text =>
    match Pattern.ofText text with
    | .ok pattern => .ok ⟨c.ignoreNames, some pattern, c.keepsExported⟩
    | .error e => .error (.invalidPattern e)

/-- The rules of the given names. -/
def stages (names : List String) : Except RunError (List Rule) :=
  match names.mapM Rule.ofId with
  | .ok rules => .ok rules
  | .error e => .error (.unknownRule e)

/-- The pipeline that a configuration asks for. Of a bad pattern and a bad rule, the pattern is reported. -/
def pipeline (c : Config) : Except RunError Pipeline :=
  match c.settings with
  | .error e => .error e
  | .ok settings =>
    match (c.rules.map stages).getD (.ok Rule.all) with
    | .error e => .error e
    | .ok stages => .ok ⟨settings, stages, c.verifies⟩

end Config

end ScriptTidy

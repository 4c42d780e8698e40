import GatewayCheck.Checker
import GatewayCheck.Text.Blank
import GatewayCheck.Yaml.Document
import GatewayCheck.Yaml.Value

/-!
Configuration files. Every setting is optional, no other setting is allowed, and a release can be
written as a number.
-/
namespace GatewayCheck

/-- The forms of log lines. -/
inductive LogFormat where
  | text
  | json
  deriving DecidableEq, Repr

namespace LogFormat

/-- The name of a form. -/
def name : LogFormat → String
  | text => "text"
  | json => "json"

/-- The forms by their names. -/
def spellings : List (String × LogFormat) := [("text", text), ("json", json)]

end LogFormat

/-- The settings of a configuration file. The name of a release is not checked yet. -/
structure Config where
  release? : Option String
  sink? : Option Sink
  schemaDirectory? : Option String
  logFormat? : Option LogFormat
  limit? : Option Nat
  deriving DecidableEq, Repr

namespace Config

/-- Nothing is set. -/
def empty : Config := ⟨none, none, none, none, none⟩

/-- A setting of a configuration file. -/
inductive Setting where
  | release
  | sink
  | schemaDirectory
  | logFormat
  | limit
  deriving DecidableEq, Repr

/-- The settings by their keys, in the order in which a sequence lists them. -/
def Setting.keys : List (String × Setting) :=
  [("gateway_version", release), ("sink", sink), ("schema_dir", schemaDirectory),
    ("log_format", logFormat), ("max_reported_violations", limit)]

/-! ### Values of settings -/

/-- The name of a release: a text, or a number in plain decimals. -/
def readRelease? (scalar : Yaml.Scalar) : Option String := do
  match ← Yaml.Value.ofScalar? scalar with
  | .text text => some text
  | .floating value => some value.plainText
  | .whole value =>
    (Binary64.ofDecimal (value < 0) value.natAbs 0).map Binary64.plainText
  | .null | .boolean _ => none

/-- Nothing, in one of its spellings. -/
def isNothing (scalar : Yaml.Scalar) : Bool :=
  scalar.isPlain && (scalar.text.isEmpty || Yaml.isNull scalar.text)

/-- One of some names, as a text or as a tag of nothing. -/
def readChoice? {α : Type} (choices : List (String × α)) (scalar : Yaml.Scalar) : Option α :=
  match scalar.tag? with
  | some (.own name) => if isNothing scalar then choices.lookup name else none
  | _ => choices.lookup scalar.text

/-- A count of at most 64 bits. -/
def readCount? (scalar : Yaml.Scalar) : Option Nat := do
  let (negative, _) := Yaml.splitSign scalar.text.toList
  let value ← Yaml.readWhole? scalar.text.toList
  if scalar.isPlain && !negative && Yaml.hasWidth 64 value then some value.toNat else none

/-- Reads an optional value; the outer option tells a fault from a value that is left out. -/
def readOptional? {α : Type} (read? : Yaml.Scalar → Option α) (scalar : Yaml.Scalar) :
    Option (Option α) :=
  match scalar.tag? with
  | some .null =>
    if !scalar.isPlain then (read? scalar).map some
    else if Yaml.isNull scalar.text then some none
    else none
  | some _ => (read? scalar).map some
  | none => if isNothing scalar then some none else (read? scalar).map some

/-- The configuration with one setting read from a scalar. -/
def set (config : Config) (setting : Setting) (scalar : Yaml.Scalar) : Option Config :=
  match setting with
  | .release => (readOptional? readRelease? scalar).map fun release? => { config with release? }
  | .sink =>
    (readOptional? (readChoice? Sink.spellings) scalar).map fun sink? => { config with sink? }
  | .schemaDirectory =>
    (readOptional? (fun scalar => some scalar.text) scalar).map fun schemaDirectory? =>
      { config with schemaDirectory? }
  | .logFormat =>
    (readOptional? (readChoice? LogFormat.spellings) scalar).map fun logFormat? =>
      { config with logFormat? }
  | .limit => (readOptional? readCount? scalar).map fun limit? => { config with limit? }

/-! ### Configuration files -/

/-- Reading steps follow references. -/
abbrev Step := Yaml.Document.Following

/-- The scalar that a node stands for. -/
def scalarOf (document : Yaml.Document) (node : Yaml.Node) : Step Yaml.Scalar := do
  match ← document.follow node with
  | .scalar _ scalar => return scalar
  | _ => failure

/-- The configuration with a setting read from a node. -/
def setNode (document : Yaml.Document) (config : Config) (setting : Setting) (node : Yaml.Node) :
    Step Config := do
  let scalar ← scalarOf document node
  match config.set setting scalar with
  | some config => return config
  | none => failure

/-- Reads the settings of a sequence, in their order. -/
def readItems (document : Yaml.Document) (config : Config) :
    (settings : List Setting) → (items : List Yaml.Node) → Step Config
  | _, [] => return config
  | [], _ => failure
  | setting :: settings, item :: items => do
    readItems document (← config.setNode document setting item) settings items

/-- Reads the settings of a mapping; each is given once. -/
def readEntries (document : Yaml.Document) (config : Config) (given : List Setting) :
    (entries : List (Yaml.Node × Yaml.Node)) → Step Config
  | [] => return config
  | (key, value) :: entries => do
    let key ← scalarOf document key
    match Setting.keys.lookup key.text with
    | some setting =>
      if given.contains setting then failure
      else readEntries document (← config.setNode document setting value) (setting :: given) entries
    | none => failure

/-- Reads the settings of a document. -/
def readRoot (document : Yaml.Document) : Yaml.Node → Step Config
  | .scalar _ scalar => if scalar.isPlain && scalar.text.isEmpty then return empty else failure
  | .sequence _ _ items => readItems document empty (Setting.keys.map Prod.snd) items
  | .mapping _ _ entries => readEntries document empty [] entries
  | .reference _ => failure

/-- The configuration in a document. -/
def ofDocument? (document : Yaml.Document) : Option Config :=
  match document.root? with
  | none => some empty
  | some root => (readRoot document root).run' 0

/-- The configuration in a text; a blank text sets nothing. -/
def ofText? (text : List Char) : Option Config :=
  if Text.isBlank text then some empty else (Yaml.Document.ofText? text).bind ofDocument?

end Config

end GatewayCheck

import GatewayCheck.Library

/-!
Registries: a library whose schemas are compiled in advance. A schema is closed at its top level for
the strict sink before it is compiled.
-/
namespace GatewayCheck

/-- The schema for a sink. For the strict sink, a schema that declares properties and says nothing
of others refuses the others; nothing below the top level changes. -/
def Sink.close (sink : Sink) : Json → Json
  | .object members =>
    if sink.isStrict && (members.lookup "properties").isSome &&
        (members.lookup "additionalProperties").isNone then
      .object (Json.insertMember "additionalProperties" (.bool false) members)
    else .object members
  | schema => schema

/-- A compiled part of the document of a release. A part that no sink has changed has none. -/
structure Fragment where
  release : Release
  path : String
  sink? : Option Sink
  schema : Json
  compiled : Schema.Compiled

namespace Fragment

/-- The text of the schema that was compiled. -/
def text (fragment : Fragment) : String := fragment.schema.compact

/-- A document satisfies the schema. -/
def accepts (fragment : Fragment) (document : Json) : Bool := fragment.compiled.accepts document

/-- The violations of the schema in a document. -/
def violations (fragment : Fragment) (document : Json) : List Schema.Violation :=
  fragment.compiled.violations document

end Fragment

/-- Compiles the part of a document at a path, for a sink or unchanged. -/
def Library.compile (library : Library) (release : Release) (path : String) (sink? : Option Sink) :
    Except SetupError Fragment := do
  let schema ← library.fragment release path
  let schema := sink?.elim schema fun sink => sink.close schema
  match Schema.compile library.retrieve schema with
  | .ok compiled => return { release, path, sink?, schema, compiled }
  | .error defect => throw (.notCompiled release path defect)

/-- Compiles the part of a document at a path, if there is one. -/
def Library.compileDefined (library : Library) (release : Release) (path : String)
    (sink? : Option Sink) : Except SetupError (Option Fragment) :=
  match library.compile release path sink? with
  | .ok fragment => .ok (some fragment)
  | .error (.pathNotFound _ _) => .ok none
  | .error error => .error error

/-- The path of the schema of hash keys that name variables. -/
def variableKeyPath : String := "main.upstream_hash_vars_schema"

/-- The path of the schema of hash keys that name headers and cookies. -/
def headerKeyPath : String := "main.upstream_hash_header_schema"

/-- The paths of the schemas of hash keys. -/
def keyPaths : List String := [variableKeyPath, headerKeyPath]

/-- What a compiled part is kept under: a kind with a sink, or the path of a schema of hash keys. -/
inductive Registry.Key where
  | resource (release : Release) (kind : Resource) (sink : Sink)
  | hashKey (release : Release) (path : String)
  deriving DecidableEq, Repr

/-- A library with its compiled parts. -/
structure Registry where
  library : Library
  compiled : List (Registry.Key × Fragment)

namespace Registry

/-- The keys of a release, in the order in which their parts are compiled. -/
def keysOf (release : Release) : List Key :=
  (Resource.all.flatMap fun kind => Sink.all.map fun sink => Key.resource release kind sink) ++
    keyPaths.map fun path => .hashKey release path

/-- Compiles the part of a key, if there is one. -/
def compileKey (library : Library) : Key → Except SetupError (Option Fragment)
  | .resource release kind sink => library.compileDefined release kind.path (some sink)
  | .hashKey release path => library.compileDefined release path none

/-- Compiles the parts of keys in order, up to the first that cannot be compiled. -/
def compileKeys (library : Library) : List Key → Except SetupError (List (Key × Fragment))
  | [] => .ok []
  | key :: rest => do
    let fragment? ← compileKey library key
    let others ← compileKeys library rest
    return fragment?.elim others fun fragment => (key, fragment) :: others

/-- Compiles every kind and every schema of hash keys in every document of a library. -/
def build (library : Library) : Except SetupError Registry := do
  let compiled ← compileKeys library (library.releases.flatMap keysOf)
  return { library, compiled }

/-- The compiled part under a key. -/
def find? (registry : Registry) (key : Key) : Option Fragment := registry.compiled.lookup key

/-- The schema at a path for a sink; that of a kind at its own path is compiled already. -/
def resolve (registry : Registry) (release : Release) (kind : Resource) (path : String)
    (sink : Sink) : Except SetupError Fragment :=
  if path = kind.path then
    match registry.find? (.resource release kind sink) with
    | some fragment => .ok fragment
    | none => registry.library.compile release path (some sink)
  else registry.library.compile release path (some sink)

/-- The unchanged schema at a path; that of hash keys is compiled already. -/
def resolveFragment (registry : Registry) (release : Release) (path : String) :
    Except SetupError Fragment :=
  match registry.find? (.hashKey release path) with
  | some fragment => .ok fragment
  | none => registry.library.compile release path none

end Registry

end GatewayCheck

import GatewayCheck.Json.Shape
import GatewayCheck.Json.Pointer
import GatewayCheck.Release
import GatewayCheck.Resource
import GatewayCheck.Sink

/-!
Selectors: the release, the kind and the sink that a request names, as texts or inside documents.
-/
namespace GatewayCheck

/-- A name that no selector has, with what it was meant to name. -/
inductive UnknownName where
  | release (name : String)
  | resource (name : String)
  | sink (name : String)
  deriving DecidableEq, Repr

/-- The text of an unknown name. -/
def UnknownName.message : UnknownName → String
  | release name => "unsupported gateway version: " ++ Text.quoted name
  | resource name => "unknown resource kind: " ++ Text.quoted name
  | sink name => "unknown storage sink: " ++ Text.quoted name

/-- The release with the given name. -/
def Release.parse (name : String) : Except UnknownName Release :=
  (Release.ofName? name).elim (.error (.release name)) .ok

/-- The kind with the given name. -/
def Resource.parse (name : String) : Except UnknownName Resource :=
  (Resource.ofName? name).elim (.error (.resource name)) .ok

/-- The sink with the given name. -/
def Sink.parse (name : String) : Except UnknownName Sink :=
  (Sink.ofName? name).elim (.error (.sink name)) .ok

/-- The kind named by the last segment of a path. -/
def Resource.ofPath? (path : String) : Option Resource :=
  (Json.pathSegments path).getLast?.bind Resource.ofName?

/-- The kind named by the last segment of a path; an error names the whole path. -/
def Resource.parsePath (path : String) : Except UnknownName Resource :=
  (Resource.ofPath? path).elim (.error (.resource path)) .ok

/-- The release that a document names. -/
def Release.ofJson (json : Json) : Except Json.ShapeError Release :=
  json.readChoice (Release.all.map fun release => (release.name, release))

/-- The kind that a document names. -/
def Resource.ofJson (json : Json) : Except Json.ShapeError Resource :=
  json.readChoice (Resource.all.map fun kind => (kind.name, kind))

/-- The sink that a document names, under any of its spellings. -/
def Sink.ofJson (json : Json) : Except Json.ShapeError Sink := json.readChoice Sink.spellings

end GatewayCheck

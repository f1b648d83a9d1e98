import TaintSummary.Api.Exchange
import TaintSummary.GroupVersion
import TaintSummary.Json.Shape

/-!
# Discovery

A server tells which resource types a group has. The first entry that is asked for by its plural name, or by its kind in any
case, is the one meant; entries with a slash in their names are parts of others and never meant. Discovery is tried once.
-/

namespace TaintSummary.Api

/-- A resource type that a server knows. -/
structure ServedType where
  /-- The path under which the objects of the group are. -/
  base : Text
  plural : Text
  kind : Text
  namespaced : Bool
  deriving DecidableEq

namespace ServedType

/-- The path of the objects, in one namespace or in all. -/
def path (t : ServedType) (ns : Option Text) : Text :=
  match t.namespaced, ns with
  | true, some ns => t.base ++ "namespaces/".toList ++ ns ++ '/' :: t.plural
  | _, _ => t.base ++ t.plural

/-- The nodes of the cluster. -/
def node : ServedType where
  base := "/api/v1/".toList
  plural := "nodes".toList
  kind := "Node".toList
  namespaced := false

end ServedType

/-- Why a resource type cannot be found. -/
inductive DiscoveryError
  /-- The API version names no version. -/
  | noVersion (name : Text)
  | failed (groupVersion : GroupVersion) (e : RequestError)
  | notFound (type : ResourceType)

/-- The messages of the error, the outermost first. -/
def DiscoveryError.messages : DiscoveryError → List Text
  | .noVersion name => ["Invalid apiVersion for '".toList ++ name ++ "': expected <version> or <group>/<version>".toList]
  | .failed g e => ("Failed to discover API group '".toList ++ g.apiVersion ++ "'".toList) :: e.causes
  | .notFound t =>
    ["Resource '".toList ++ t.name ++ "' not found in API group '".toList ++ t.groupVersion.apiVersion ++ "'".toList]

namespace Discovery

/-- What a server says of a resource type. -/
structure Entry where
  name : Text
  kind : Text
  /-- The group, where it is not the one of the answer. -/
  group : Option Text
  namespaced : Bool

/-- What a server says of a group. -/
structure Answer where
  groupVersion : Text
  entries : List Entry

/-- The shape of an entry. -/
def entryShape : Shape := .options [
  ("categories", .list .text), ("group", .text), ("kind", .text), ("name", .text), ("namespaced", .bool),
  ("shortNames", .list .text), ("singularName", .text), ("storageVersionHash", .text), ("verbs", .list .text),
  ("version", .text)]

/-- The shape of an answer. -/
def answerShape : Shape := .record [
  ("apiVersion".toList, .exactly "v1".toList), ("groupVersion".toList, .optional .text),
  ("kind".toList, .exactly "APIResourceList".toList), ("resources".toList, .optional (.list entryShape))]

/-- The entry that a value of its shape describes. -/
def Entry.ofJson (j : Json) : Entry where
  name := Json.textOf "name".toList j
  kind := Json.textOf "kind".toList j
  group := (Json.get? "group".toList j).bind Json.string?
  namespaced := match Json.get? "namespaced".toList j with
    | some (.bool b) => b
    | _ => false

/-- The answer that a value describes. -/
def Answer.ofJson? (j : Json) : Option Answer :=
  if answerShape.fits j then
    some ⟨Json.textOf "groupVersion".toList j,
      (((Json.get? "resources".toList j).bind Json.array?).getD []).map Entry.ofJson⟩
  else none

/-- The group and the version of an answer, cut at the first slash. -/
def Answer.group (a : Answer) : GroupVersion :=
  match Text.cut? '/' a.groupVersion with
  | some (group, version) => ⟨group, version⟩
  | none => ⟨[], a.groupVersion⟩

/-- The entry is meant by the name: it is its plural name, or its kind in any case. -/
def Entry.isMeantBy (name : Text) (e : Entry) : Bool :=
  '/' ∉ e.name && (e.name = name || Text.eqIgnoringCase e.kind name)

/-- The path under which the entry's objects are. -/
def Answer.base (a : Answer) (e : Entry) : Text :=
  (if e.group.getD a.group.group = [] then "/api/".toList else "/apis/".toList) ++ a.group.apiVersion ++ ['/']

/-- The first entry with the name is namespaced. -/
def Answer.isNamespaced (a : Answer) (name : Text) : Bool :=
  match a.entries.find? fun e => e.name = name with
  | some e => e.namespaced
  | none => false

/-- The resource type that the name means. -/
def Answer.served? (a : Answer) (name : Text) : Option ServedType :=
  (a.entries.find? (Entry.isMeantBy name)).map fun e => ⟨a.base e, e.name, e.kind, a.isNamespaced e.name⟩

/-- Where a server tells of the types of a group. -/
def target (g : GroupVersion) : Text :=
  (if g.group = [] then "/api/".toList else "/apis/".toList) ++ g.apiVersion

/-- The resource type that the server's answer gives. -/
def answer (t : ResourceType) (r : Response) : Except DiscoveryError ServedType :=
  match r.read answerShape Answer.ofJson? with
  | .error e => .error (.failed t.groupVersion e)
  | .ok a =>
    match a.served? t.name with
    | some served => .ok served
    | none => .error (.notFound t)

/-- The resource type, and the answers that are left to be given. -/
def resolve (t : ResourceType) (script : List Response) : Exchange DiscoveryError (ServedType × List Response) :=
  if t.groupVersion.version = [] then .pure (.error (.noVersion t.name))
  else
    .ask (target t.groupVersion) (.failed t.groupVersion <| .target ·)
      (.pure ((answer t (script.headD .exhausted)).map (·, script.tail)))

end Discovery

end TaintSummary.Api

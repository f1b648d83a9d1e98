import TaintSummary.Text

/-!
# Resource types

A resource type is named within a group and a version. The two are written `group/version`, or `version` alone for the core
group, whose name is empty. A text with more than one slash names neither.
-/

namespace TaintSummary

/-- A group of resource types and the version of it. -/
structure GroupVersion where
  group : Text
  version : Text
  deriving DecidableEq

namespace GroupVersion

/-- The group and the version of an API version. -/
def parse (apiVersion : Text) : GroupVersion :=
  match Text.pieces '/' apiVersion with
  | [version] => ⟨[], version⟩
  | [group, version] => ⟨group, version⟩
  | _ => ⟨[], []⟩

/-- The API version. -/
def apiVersion (g : GroupVersion) : Text :=
  if g.group = [] then g.version else g.group ++ '/' :: g.version

end GroupVersion

/-- A resource type as it is asked for: by its plural name or by its kind. -/
structure ResourceType where
  groupVersion : GroupVersion
  name : Text
  deriving DecidableEq

namespace ResourceType

/-- The resource type of an API version and a name. -/
def parse (apiVersion name : Text) : ResourceType := ⟨.parse apiVersion, name⟩

/-- The resource type as it is shown. -/
def print (t : ResourceType) : Text := t.groupVersion.apiVersion ++ ' ' :: t.name

end ResourceType

end TaintSummary

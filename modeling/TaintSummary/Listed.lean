import TaintSummary.Json.Shape
import TaintSummary.Resource
import TaintSummary.Toleration

/-!
# Lists carried by objects

Taints and tolerations are carried by API objects as lists at fixed paths. `extract` reads such a list: a path that leads to no
array gives the empty list, and the first entry that cannot be read gives the error.
-/

namespace TaintSummary

/-- Why an entry of a list cannot be read. -/
inductive EntryError
  /-- The entry does not have the shape of one. -/
  | undecodable (path : List Text) (entry : Json)
  /-- A part of the entry is refused. -/
  | specifier (e : SpecifierError)

/-- Things that objects carry as a list and that have a specifier. -/
class Listed (α : Type) where
  /-- Where the list stands in an object. -/
  path : List Text
  /-- The shape of an entry of the list. -/
  shape : Shape
  /-- The thing an entry of that shape stands for. -/
  ofEntry : Json → Except SpecifierError α
  /-- The thing a specifier stands for. -/
  parse : Text → Except SpecifierError α
  /-- The specifier of a thing. -/
  print : α → Text
  /-- The columns of a report. -/
  columns : List Text
  /-- What a report shows of a resource, and what it is sorted by. -/
  labels : Resource → List Text

namespace Taint

/-- The shape of an entry of a taint list. -/
def shape : Shape := .options [("effect", .text), ("key", .text), ("timeAdded", .timestamp), ("value", .text)]

/-- The taint of an entry; missing texts are empty. -/
def ofEntry (j : Json) : Except SpecifierError Taint :=
  (Effect.ofField (Json.textOf "effect".toList j)).map fun effect =>
    ⟨Json.textOf "key".toList j, Json.textOf "value".toList j, effect⟩

end Taint

namespace Toleration

/-- The shape of an entry of a toleration list. -/
def shape : Shape :=
  .options [("effect", .text), ("key", .text), ("operator", .text), ("tolerationSeconds", .int64), ("value", .text)]

/-- The toleration of an entry: its operator is checked before its effect. -/
def ofEntry (j : Json) : Except SpecifierError Toleration :=
  (Operator.ofField (Json.textOf "operator".toList j)).bind fun operator => (Taint.ofEntry j).map (⟨operator, ·⟩)

end Toleration

instance : Listed Taint where
  path := ["spec".toList, "taints".toList]
  shape := Taint.shape
  ofEntry := Taint.ofEntry
  parse := Taint.parse
  print := Taint.print
  columns := ["NAME".toList, "TAINTS".toList]
  labels := fun r => [r.name]

instance : Listed Toleration where
  path := ["spec".toList, "template".toList, "spec".toList, "tolerations".toList]
  shape := Toleration.shape
  ofEntry := Toleration.ofEntry
  parse := Toleration.parse
  print := Toleration.print
  columns := ["NAMESPACE".toList, "NAME".toList, "TOLERATIONS".toList]
  labels := fun r => [r.ns, r.name]

namespace Listed

variable {α : Type} [Listed α]

/-- The thing an entry stands for. -/
def readEntry (j : Json) : Except EntryError α :=
  if (shape α).fits j then (ofEntry j).mapError .specifier else .error (.undecodable (path α) j)

/-- The entries of the list that the body carries. -/
def entries (α : Type) [Listed α] (body : Json) : List Json :=
  ((Json.follow? (path α) body).bind Json.array?).getD []

/-- The list that the body carries. -/
def extract (body : Json) : Except EntryError (List α) := (entries α body).mapM readEntry

/-- What is shown for an empty list. -/
def none : Text := "none".toList

/-- The list as it is shown: one specifier a line. -/
def printList (items : List α) : Text :=
  if items.isEmpty then none else Text.join ",\n".toList (items.map print)

end Listed

end TaintSummary

import TaintSummary.Proofs.Api.Answers
import TaintSummary.Proofs.Json.RoundTrip

/-!
# Pages that a server writes

`Response.ofItems` is the answer of a server that sends items with a token. Whatever the token, the page is read as the objects of
the items and the token itself (`page_ofItems`).
-/

namespace TaintSummary.Api

namespace Page

/-- The members of a page with the items and the token. -/
def members (items : List Json) (token : Text) : List (Text × Json) :=
  [("items".toList, .array items), ("metadata".toList, .object [("continue".toList, .string token)])]

/-- The shape of a page passes over nothing but what the shape of an object passes over in the items. -/
theorem knows_members (items : List Json) (token : Text) :
    shape.knows (.object (members items token)) = Object.shape.knowsItems items := by
  have hmembers : shape.knows (.object (members items token)) = (Object.shape.knowsItems items && true) := rfl
  rw [hmembers, Bool.and_true]

theorem ofJson?_members {items : List Json} {objects : List Object} (token : Text)
    (h : items.mapM Object.ofJson? = some objects) :
    ofJson? (.object (members items token)) = some ⟨objects, token⟩ := by
  have htoken : token? (members items token) = some token := rfl
  have hobjects : objects? (members items token) = some objects := h
  rw [ofJson?, htoken, hobjects]
  rfl

end Page

namespace Response

/-- A value that is sent is read as what it stands for. -/
theorem read_of_render {α : Type} {shape : Shape} {decode : Json → Option α} {j : Json} {a : α}
    (hplain : Json.isPlain Json.depthLimit j = true) (hknown : shape.knows j = true) (hdecode : decode j = some a) :
    (⟨200, j.render⟩ : Response).read shape decode = .ok a := by
  have hfailure : (⟨200, j.render⟩ : Response).isFailure = false := rfl
  rw [read, hfailure]
  simp only [Shape.parse_render hplain hknown, Option.bind_some, hdecode]
  rfl

/-- The answer with the items and the token. -/
def ofItems (items : List Json) (token : Text) : Response := ⟨200, (Json.object (Page.members items token)).render⟩

/-- The page is read as the objects of its items and as its token. -/
theorem page_ofItems {items : List Json} {objects : List Object} (token : Text)
    (hplain : Json.itemsPlain 125 items = true) (hknown : Object.shape.knowsItems items = true)
    (hobjects : items.mapM Object.ofJson? = some objects) : (ofItems items token).page = .ok ⟨objects, token⟩ := by
  refine read_of_render ?_ ?_ (Page.ofJson?_members token hobjects)
  · simp only [Page.members, Json.depthLimit, Json.isPlain, Json.membersPlain, hplain, Bool.and_self]
  · rw [Page.knows_members, hknown]

end Response

end TaintSummary.Api

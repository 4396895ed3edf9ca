import ServerLaunch.Text.CodePoint

/-!
# Documents

The values of a JSON document. A number keeps the text it was written with, since
nothing here computes with it. A text may hold halves of surrogate pairs. The members
of an object stay in the order written, repeated names among them; looking one up
finds the last.

## Main definitions

* `Json`: a document.
* `Json.member?`: the member of an object under a name.
* `Json.text?`: the text that a document is.
-/
namespace ServerLaunch

/-- A JSON document. -/
inductive Json where
  | null
  | bool (value : Bool)
  | number (written : String)
  | string (text : List Text.CodePoint)
  | array (items : List Json)
  | object (members : List (List Text.CodePoint × Json))
deriving Repr, Inhabited

namespace Json

/-- The member under a name, the last one if the name is repeated; `none` for a document
that is no object. -/
def member? (name : String) : Json → Option Json
  | object members => members.reverse.lookup (Text.CodePoint.ofText name)
  | _ => none

/-- The text that a document is, if it is one. -/
def text? : Json → Option (List Text.CodePoint)
  | string text => some text
  | _ => none

@[simp] theorem text?_eq_some_iff {document : Json} {text : List Text.CodePoint} :
    document.text? = some text ↔ document = string text := by
  cases document <;> simp [text?]

end Json

end ServerLaunch

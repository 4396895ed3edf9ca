import ServerLaunch.Text.CodePoint

/-!
# Versions

When an installed version is the latest one. Versions are compared as texts, apart
from white space around them and letters in front that only say "version".

## Main definitions

* `Version`: the text of a version.
* `Version.normalize`: the text by which a version is compared.
* `Version.agrees`: whether an installed version is the latest.
-/
namespace ServerLaunch

/-- The text of a version, as a registry or a manifest writes it. -/
structure Version where
  points : List Text.CodePoint
deriving DecidableEq, Repr

namespace Version

/-- The version that a text writes. -/
def ofText (text : String) : Version := ⟨Text.CodePoint.ofText text⟩

/-- The version as it is shown. -/
def text (version : Version) : String := Text.CodePoint.text version.points

@[simp] theorem text_ofText (s : String) : (ofText s).text = s := Text.CodePoint.text_ofText s

/-- The version that says nothing. -/
def empty : Version := ⟨[]⟩

/-- A version without the white space around it and the letters `v` in front. What the
letters hid stays, white space included. -/
def normalize (version : Version) : Version :=
  ⟨(Text.dropBoth Text.CodePoint.isBlank version.points).dropWhile (· == .char 'v')⟩

/-- Whether the installed version is the latest one. Nothing installed, or a version of
nothing but blanks and letters, agrees with none. -/
def agrees (installed? : Option Version) (latest : Version) : Bool :=
  match installed? with
  | none => false
  | some installed => installed.normalize != empty && installed.normalize == latest.normalize

end Version

end ServerLaunch

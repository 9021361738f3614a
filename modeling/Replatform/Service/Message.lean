import Replatform.Text.Search

/-!
# Requests and Responses

What is sent to a generation service and what it answers. A request carries a text or
a list of parts, and settings of which each may be missing; a response carries a text,
binary parts or both.

## Main definitions

* `Contents`, `Request`: What is asked, and how.
* `Request.withSystem`, `asJson`, `withBudget`, `withImage`: Settings.
* `Response`: What is answered.
* `Response.firstImage?`: The first picture in an answer.
-/

namespace Replatform

/-- Binary data in base 64 with its media type. -/
structure InlineData where
  mimeType : String
  data : String
deriving DecidableEq, Repr, Inhabited

/-- A part of the contents of a request. -/
inductive Part where
  | text (text : String)
  | inlineData (data : InlineData)
deriving DecidableEq, Repr

/-- The contents of a request. -/
inductive Contents where
  | text (text : String)
  | parts (parts : List Part)
deriving DecidableEq, Repr

namespace Contents

/-- The text of a part. -/
def partText? : Part → Option String
  | .text t => some t
  | .inlineData _ => none

/-- The text of the contents, parts on lines of their own. -/
def toText : Contents → String
  | .text t => t
  | .parts ps => "\n".intercalate (ps.filterMap partText?)

end Contents

/-- The shape of a picture that is asked for. -/
structure ImageShape where
  aspectRatio : String
  size : Option String := none
deriving DecidableEq, Repr

/-- How a request is to be answered. -/
structure RequestSettings where
  system : Option String := none
  mimeType : Option String := none
  /-- How many tokens may go into reasoning. -/
  thinkingBudget : Option Nat := none
  image : Option ImageShape := none
deriving DecidableEq, Repr, Inhabited

/-- A request to a generation service. -/
structure Request where
  model : String
  contents : Contents
  settings : RequestSettings := {}
deriving DecidableEq, Repr

namespace Request

/-- A request for the answer to a text. -/
def ofText (model text : String) : Request :=
  { model, contents := .text text }

/-- Set the system instruction. -/
def withSystem (r : Request) (instruction : String) : Request :=
  { r with settings := { r.settings with system := some instruction } }

/-- Ask for JSON. -/
def asJson (r : Request) : Request :=
  { r with settings := { r.settings with mimeType := some "application/json" } }

/-- Limit the reasoning. -/
def withBudget (r : Request) (tokens : Nat) : Request :=
  { r with settings := { r.settings with thinkingBudget := some tokens } }

/-- Ask for a picture. -/
def withImage (r : Request) (shape : ImageShape) : Request :=
  { r with settings := { r.settings with image := some shape } }

end Request

/-- The answer of a generation service. -/
structure Response where
  text : Option String := none
  inlineData : List InlineData := []
deriving DecidableEq, Repr, Inhabited

namespace Response

/-- An answer that is a text. -/
def ofText (text : String) : Response :=
  { text := some text }

/-- The text of an answer, empty if there is none. -/
def textOrEmpty (r : Response) : String :=
  r.text.getD ""

/-- The first part that is a picture. -/
def firstImage? (r : Response) : Option InlineData :=
  r.inlineData.find? fun d => Text.startsWith d.mimeType "image/"

end Response

end Replatform

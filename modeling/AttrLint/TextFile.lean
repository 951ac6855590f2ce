import AttrLint.FileSystem
import AttrLint.Text.Lines
import AttrLint.Text.Utf8

namespace AttrLint

/-!
# Text files

* `FileSystem.readText` — the text of a UTF-8 file, with every line end as a line feed.
-/

/-- Why there is no text to read. -/
inductive TextError where
  | access (error : AccessError)
  | undecodable (error : Text.Utf8.DecodeError)
  deriving DecidableEq, Repr

/-- The text of a file. -/
def FileSystem.readText (fs : FileSystem) (path : Path) : Except TextError (List Char) :=
  match fs.read path with
  | .error e => .error (.access e)
  | .ok bytes =>
    match Text.Utf8.decode bytes with
    | .error e => .error (.undecodable e)
    | .ok chars => .ok (Text.unifyLineEnds chars)

end AttrLint

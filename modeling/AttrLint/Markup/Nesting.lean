import AttrLint.Markup
import AttrLint.Markup.Style

namespace AttrLint.Markup

/-!
# Nesting of tags

A tag that starts with a slash closes one that is open.

* `Fault` — what is wrong with the tags of a text.
* `fault?` — the first fault of a text.
-/

/-- What is wrong with the tags of a text; positions count characters from zero. -/
inductive Fault where
  /-- A tag that closes the last open one stands where none is open. -/
  | nothingOpen (position : Nat)
  /-- A tag with the text `body` closes a style that is not open. -/
  | notOpen (body : List Char) (position : Nat)
  /-- A component of a color is empty. -/
  | emptyComponent
  deriving DecidableEq, Repr

/-- The fault in words. -/
def Fault.message : Fault → String
  | .nothingOpen position =>
    "closing tag '[/]' at position " ++ toString position ++ " has nothing to close"
  | .notOpen body position =>
    "closing tag '[" ++ String.ofList body ++ "]' at position " ++ toString position ++
      " doesn't match any open tag"
  | .emptyComponent => "invalid literal for int() with base 10: ''"

/-- The open tags after one more, which stands at `position`; they are held newest first, as the
canonical texts of their styles.  What follows an equals sign in a tag is not part of its style. -/
def turn (opened : List (List Char)) (position : Nat) (body : List Char) :
    Except Fault (List (List Char)) :=
  let said := body.takeWhile (· ≠ '=')
  match said with
  | '/' :: closing =>
    match trimmed closing, opened with
    | [], [] => .error (.nothingOpen position)
    | [], _ :: outer => .ok outer
    | style, opened =>
      match canonical style with
      | .error _ => .error .emptyComponent
      | .ok style =>
        if opened.contains style then .ok (opened.erase style)
        else .error (.notOpen body position)
  | said =>
    match canonical said with
    | .error _ => .error .emptyComponent
    | .ok style => .ok (style :: opened)

/-- The first fault of pieces that start at `position`, where the tags `opened` are open. -/
def faultFrom (opened : List (List Char)) (position : Nat) : List Segment → Option Fault
  | [] => none
  | .char _ :: rest => faultFrom opened (position + 1) rest
  | .tag slashes body :: rest =>
    let next := position + slashes + body.length + 2
    if slashes % 2 = 1 then faultFrom opened next rest
    else
      match turn opened (position + slashes) body with
      | .error fault => some fault
      | .ok opened => faultFrom opened next rest

/-- The first fault of the tags of a text, if there is one. -/
def fault? (s : List Char) : Option Fault :=
  faultFrom [] 0 (segments s)

end AttrLint.Markup

namespace AttrLint.Text

/-!
# Line ends

* `unifyLineEnds` — every way to end a line becomes a single line feed.
-/

/-- Replaces a carriage return, together with a line feed right after it, by a line feed;
`after` says that the character before was a carriage return, `done` holds the result so far,
newest first. -/
def unifyFrom (after : Bool) (done : List Char) : List Char → List Char
  | [] => done.reverse
  | c :: cs =>
    if c = '\r' then unifyFrom true ('\n' :: done) cs
    else if c = '\n' ∧ after then unifyFrom false done cs
    else unifyFrom false (c :: done) cs

/-- Makes each line end a single line feed, whether it was written as a line feed, a carriage
return, or a carriage return and a line feed. -/
def unifyLineEnds (s : List Char) : List Char :=
  unifyFrom false [] s

end AttrLint.Text

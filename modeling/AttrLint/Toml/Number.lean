import AttrLint.Text.Hex
import AttrLint.Toml.Value

namespace AttrLint.Toml

/-!
# Numbers, dates and times

Each function takes as much of the front of a text as has the form in question.

* `number?` — an integer or a number with a fraction or an exponent.
* `moment?` — a date, a time, or both.
-/

/-- Digits with single underscores between them, after a first digit: how many digits there are, and
what follows. -/
def moreDigits (isDigit : Char → Bool) (count : Nat) : List Char → Nat × List Char
  | [] => (count, [])
  | c :: cs =>
    if isDigit c then moreDigits isDigit (count + 1) cs
    else if c = '_' then
      match cs with
      | [] => (count, [c])
      | d :: rest =>
        if isDigit d then moreDigits isDigit (count + 1) rest else (count, c :: d :: rest)
    else (count, c :: cs)

/-- One digit or more: how many, and what follows; none if there is no digit. -/
def digits? (isDigit : Char → Bool) : List Char → Option (Nat × List Char)
  | c :: cs => if isDigit c then some (moreDigits isDigit 1 cs) else none
  | [] => none

/-- What is known of a number: what follows it, and, for a decimal integer, its digits. -/
structure NumberForm where
  /-- The number of decimal digits of an integer; none for other numbers. -/
  integerDigits : Option Nat
  rest : List Char

/-- An integer in another base than ten. -/
def basedInteger? : List Char → Option NumberForm
  | '0' :: mark :: s =>
    let isDigit : Option (Char → Bool) :=
      if mark = 'x' then some fun c => (Text.hexValue? c).isSome
      else if mark = 'b' then some fun c => c = '0' || c = '1'
      else if mark = 'o' then some fun c => '0' ≤ c && c ≤ '7'
      else none
    isDigit.bind fun isDigit => (digits? isDigit s).map fun (_, rest) => ⟨none, rest⟩
  | _ => none

/-- What follows a fraction. -/
def fraction? : List Char → Option (List Char)
  | '.' :: s => (digits? Char.isDigit s).map Prod.snd
  | _ => none

/-- What follows a sign, if there is one. -/
def skipSign (s : List Char) : List Char :=
  match s with
  | c :: t => if c = '+' || c = '-' then t else s
  | [] => []

/-- What follows an exponent. -/
def exponent? : List Char → Option (List Char)
  | c :: s =>
    if c = 'e' || c = 'E' then (digits? Char.isDigit (skipSign s)).map Prod.snd else none
  | [] => none

/-- The digits before a fraction: a single zero, or digits that do not start with one. -/
def wholePart? : List Char → Option (Nat × List Char)
  | '0' :: rest => some (1, rest)
  | s => digits? Char.isDigit s

/-- A number in base ten. -/
def decimal? (s : List Char) : Option NumberForm :=
  (wholePart? (skipSign s)).map fun (count, rest) =>
    match fraction? rest with
    | some rest => ⟨none, (exponent? rest).getD rest⟩
    | none =>
      match exponent? rest with
      | some rest => ⟨none, rest⟩
      | none => ⟨some count, rest⟩

/-- A number at the front of a text. -/
def number? (s : List Char) : Option NumberForm :=
  (basedInteger? s).or (decimal? s)

/-! ### Dates and times -/

/-- Two decimal digits with a value between the bounds. -/
def twoDigits? (low high : Nat) : List Char → Option (Nat × List Char)
  | a :: b :: rest =>
    if a.isDigit && b.isDigit then
      let n := (a.toNat - 0x30) * 10 + (b.toNat - 0x30)
      if low ≤ n ∧ n ≤ high then some (n, rest) else none
    else none
  | _ => none

/-- What follows a given character. -/
def after? (c : Char) : List Char → Option (List Char)
  | d :: rest => if c = d then some rest else none
  | [] => none

/-- What follows a fraction of a second, if there is one. -/
def skipSecondFraction (s : List Char) : List Char :=
  match s with
  | '.' :: c :: t => if c.isDigit then t.dropWhile Char.isDigit else s
  | _ => s

/-- What follows a time of day. -/
def time? (s : List Char) : Option (List Char) := do
  let (_, s) ← twoDigits? 0 23 s
  let s ← after? ':' s
  let (_, s) ← twoDigits? 0 59 s
  let s ← after? ':' s
  let (_, s) ← twoDigits? 0 59 s
  return skipSecondFraction s

/-- What follows an offset from universal time. -/
def offset? (s : List Char) : Option (List Char) :=
  match s with
  | c :: s =>
    if c = 'Z' || c = 'z' then some s
    else if c = '+' || c = '-' then do
      let (_, s) ← twoDigits? 0 23 s
      let s ← after? ':' s
      let (_, s) ← twoDigits? 0 59 s
      return s
    else none
  | [] => none

/-- What follows a time of day and an offset after a date, if they are there. -/
def skipTime (s : List Char) : List Char :=
  match s with
  | c :: t =>
    if c = 'T' || c = 't' || c = ' ' then
      match time? t with
      | some rest => (offset? rest).getD rest
      | none => s
    else s
  | [] => []

/-- Says that a year is a leap year. -/
def isLeap (year : Nat) : Bool :=
  year % 4 = 0 && (year % 100 ≠ 0 || year % 400 = 0)

/-- The number of days of a month. -/
def daysOf (year month : Nat) : Nat :=
  if month = 2 then if isLeap year then 29 else 28
  else if month = 4 || month = 6 || month = 9 || month = 11 then 30
  else 31

/-- A date, perhaps with a time: whether there is such a day, and what follows. -/
def date? (s : List Char) : Option (Bool × List Char) := do
  let (century, s) ← twoDigits? 0 99 s
  let (year, s) ← twoDigits? 0 99 s
  let s ← after? '-' s
  let (month, s) ← twoDigits? 1 12 s
  let s ← after? '-' s
  let (day, s) ← twoDigits? 1 31 s
  let year := century * 100 + year
  return (0 < year && day ≤ daysOf year month, skipTime s)

/-- A date, a time, or both at the front of a text: whether they exist, and what follows. -/
def moment? (s : List Char) : Option (Bool × List Char) :=
  (date? s).or ((time? s).map fun rest => (true, rest))

end AttrLint.Toml

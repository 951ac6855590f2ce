import AttrLint.Entries

namespace AttrLint.Toml

/-!
# TOML values

* `Value` — the values of a TOML document.  Of numbers and moments only the kind is kept.
* `Table` — named values in the order in which the names first appeared.
* `updateAt` — a change deep inside a table, made through the tables on the way.
-/

/-- A TOML value. -/
inductive Value where
  | string (text : String)
  | boolean (value : Bool)
  /-- A number of any form. -/
  | number
  /-- A date, a time, or both. -/
  | moment
  | array (items : List Value)
  | table (entries : List (String × Value))

/-- Named values in order. -/
abbrev Table := List (String × Value)

/-- Says that the value has parts of its own. -/
def Value.isCompound : Value → Bool
  | .array _ | .table _ => true
  | _ => false

/-- Replaces the last item of a list by what `f` makes of it; an empty list has none. -/
def updateLast {α ε : Type} (missing : ε) (f : α → Except ε α) : List α → Except ε (List α)
  | [] => .error missing
  | [x] => (f x).map fun y => [y]
  | x :: xs => (updateLast missing f xs).map fun ys => x :: ys

/-- Changes the table at the end of a path by `f`.  Tables on the way are made where nothing is;
with `through`, an array on the way stands for the table that is its last item.  Where something
else is on the way, `blocked` results. -/
def updateAt {ε : Type} (through : Bool) (blocked : ε) (f : Table → Except ε Table) :
    List String → Table → Except ε Table
  | [], entries => f entries
  | key :: path, entries =>
    let inner (value : Value) : Except ε Value :=
      match value with
      | .table t => (updateAt through blocked f path t).map .table
      | _ => .error blocked
    let updated :=
      match entries.lookup key with
      | none => inner (.table [])
      | some (.array items) =>
        if through then (updateLast blocked inner items).map .array else .error blocked
      | some value => inner value
    updated.map (Entries.put entries key)

end AttrLint.Toml

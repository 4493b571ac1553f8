import Keypad.Text

/-!
# Documents as trees

A document is a table whose entries are values, lists of values and further
tables. Each table remembers how it came to be written, because that decides
which later lines may still add to it. A date or a time is only known to be one.
-/

namespace Keypad.Toml

/-- A value that holds no other values. -/
inductive Scalar where
  | text (value : Text)
  | integer (value : Int)
  | float (value : Float)
  | boolean (value : Bool)
  | dateTime

/-- How a table came to be written. -/
inductive TableKind where
  /-- By a header of its own, or as the document itself. -/
  | header
  /-- By the header of a table inside it. -/
  | implied
  /-- By a dotted key. -/
  | dotted
  /-- Between braces. Nothing is added to it later. -/
  | inline
deriving DecidableEq, Repr

/-- A value of a document. -/
inductive Node where
  | scalar (value : Scalar)
  | array (items : List Node)
  | table (kind : TableKind) (entries : List (Text × Node))
  /-- Tables written one by one under a repeated header; the last one is open to
  additions. -/
  | tables (earlier : List Node) (last : List (Text × Node))

/-- The entries of a table, in the order in which they were written. -/
abbrev Entries := List (Text × Node)

namespace Entries

/-- The value of a key. -/
def get? (entries : Entries) (key : Text) : Option Node :=
  entries.lookup key

/-- Gives a listed key another value, or lists a new key last. -/
def set (entries : Entries) (key : Text) (node : Node) : Entries :=
  match entries with
  | [] => [(key, node)]
  | entry :: rest =>
      if entry.1 = key then (key, node) :: rest else entry :: set rest key node

@[simp] theorem get?_nil (key : Text) : get? [] key = none := rfl

/-- After a value is given to a key, the key has that value and every other key the
value it had. -/
theorem get?_set (entries : Entries) (key : Text) (node : Node) (other : Text) :
    (entries.set key node).get? other =
      if other = key then some node else entries.get? other := by
  simp only [get?]
  induction entries with
  | nil => simp [set, Text.lookup_cons_eq_ite]
  | cons head rest inductionHypothesis =>
      simp only [set]
      split
      · rename_i equal
        subst equal
        by_cases same : other = head.1 <;> simp [Text.lookup_cons_eq_ite, same]
      · rename_i different
        by_cases atHead : other = head.1
        · subst atHead
          simp [Text.lookup_cons_eq_ite, different]
        · simp [Text.lookup_cons_eq_ite, atHead, inductionHypothesis]

/-- Changes the table that a path of keys leads to and makes the tables missing on
the way, of kind `made`. A path leads through the last of several tables under
one header, but not into a table between braces; and a dotted path does not lead
into a table that has a header of its own. -/
def change (made : TableKind) (path : List Text) (kind : TableKind)
    (finish : TableKind → Entries → Option Entries) (entries : Entries) : Option Entries :=
  match path with
  | [] => finish kind entries
  | key :: rest =>
      match entries.get? key with
      | none => do
          let inner ← change made rest made finish []
          return entries.set key (.table made inner)
      | some (.table found inner) =>
          if found = .inline ∨ (made = .dotted ∧ found = .header) then none
          else do
            let inner ← change made rest found finish inner
            return entries.set key (.table found inner)
      | some (.tables earlier last) => do
          let last ← change made rest .header finish last
          return entries.set key (.tables earlier last)
      | some _ => none

/-- Adds a value under a dotted key. Each key is given one value only, and a table
made by dotted keys is the only kind that a dotted key adds to. -/
def define (entries : Entries) (path : List Text) (key : Text) (node : Node) :
    Option Entries :=
  entries.change .dotted path .header fun kind found =>
    if (path ≠ [] ∧ kind ≠ .dotted) ∨ (found.get? key).isSome then none
    else some (found.set key node)

end Entries

/-- A key with its path, and the value given to it. -/
structure Definition where
  path : List Text
  key : Text
  node : Node

/-- The entries after a list of definitions. -/
def Entries.defineAll (entries : Entries) (definitions : List Definition) : Option Entries :=
  definitions.foldlM (fun entries d => entries.define d.path d.key d.node) entries

/-- A header and the definitions below it. -/
structure Section where
  /-- Whether the header is doubled, and so opens one more table of several. -/
  repeated : Bool
  path : List Text
  key : Text
  definitions : List Definition

/-- The document after one more section. A plain header opens a new table, or one
that so far was only implied by its own tables; a doubled header opens a further
table of a list that doubled headers made. -/
def Entries.add (entries : Entries) (part : Section) : Option Entries :=
  entries.change .implied part.path .header fun _ found =>
    match part.repeated, found.get? part.key with
    | false, none => do
        return found.set part.key (.table .header (← Entries.defineAll [] part.definitions))
    | false, some (.table .implied inner) => do
        return found.set part.key (.table .header (← Entries.defineAll inner part.definitions))
    | true, none => do
        return found.set part.key (.tables [] (← Entries.defineAll [] part.definitions))
    | true, some (.tables earlier last) => do
        return found.set part.key
          (.tables (earlier ++ [.table .header last]) (← Entries.defineAll [] part.definitions))
    | _, some _ => none

end Keypad.Toml

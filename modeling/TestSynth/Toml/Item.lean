/-!
# TOML trees

The values of a TOML document and how tables grow while one is read.  Every
table remembers how it came about, since this decides what may be added to it
later.
-/

namespace TestSynth.Toml

/-- How a table came about. -/
inductive TableOrigin
  /-- By its own header, or as the document itself. -/
  | header
  /-- On the way to the table of a longer header. -/
  | implied
  /-- On the way to the value of a dotted key. -/
  | dotted
  /-- Written in braces. -/
  | inline
  deriving DecidableEq

inductive Item
  | string (text : String)
  | integer (value : Int)
  /-- A real number, as it is written. -/
  | real (text : String)
  | boolean (value : Bool)
  /-- A date, a time or both, as it is written. -/
  | moment (text : String)
  | array (items : List Item)
  | table (origin : TableOrigin) (entries : List (String × Item))
  /-- The tables of a header in double brackets, the first one first. -/
  | tables (rows : List (List (String × Item)))

/-- The entries of a table. -/
abbrev Entries := List (String × Item)

namespace Entries

def get? (entries : Entries) (key : String) : Option Item :=
  (entries.find? fun (name, _) => name == key).map (·.2)

/-- Replaces the item of a key, or adds the key at the end. -/
def put (entries : Entries) (key : String) (item : Item) : Entries :=
  match entries with
  | [] => [(key, item)]
  | (name, existing) :: rest =>
      if name = key then (key, item) :: rest
      else (name, existing) :: put rest key item

/-- Whether a dotted key may go through a table of the given origin. -/
def admitsDotted : TableOrigin → Bool
  | .implied | .dotted => true
  | .header | .inline => false

/-- Changes the table at the end of a path, making the tables on the way that are
missing.  A path of a header goes through every table but those in braces, the
path of a dotted key only through tables that have no header.  Either goes
through the last one of several tables. -/
def change (isDotted : Bool) (origin : TableOrigin) (entries : Entries)
    (edit : TableOrigin → Entries → Option Entries) : List String → Option Entries
  | [] => edit origin entries
  | key :: path =>
      match entries.get? key with
      | none => do
          let added : TableOrigin := if isDotted then .dotted else .implied
          let inner ← change isDotted added [] edit path
          return entries.put key (.table added inner)
      | some (.table inside inner) => do
          if inside = .inline || (isDotted && !admitsDotted inside) then none
          else
            let inner ← change isDotted inside inner edit path
            return entries.put key (.table inside inner)
      | some (.tables rows) => do
          let last ← rows.getLast?
          let inner ← change isDotted .header last edit path
          return entries.put key (.tables (rows.dropLast ++ [inner]))
      | some _ => none

/-- Gives a key its value, once, in the table of a dotted path.  The path ends in
a table of dotted keys exactly if it is not empty. -/
def assign (origin : TableOrigin) (entries : Entries) (path : List String)
    (key : String) (item : Item) : Option Entries :=
  change true origin entries
    (fun origin entries =>
      if (origin == .dotted) == path.isEmpty then none
      else
        match entries.get? key with
        | some _ => none
        | none => some (entries.put key item))
    path

/-- Opens the table of a header.  It may have come about on the way to another
header, but not in any other way. -/
def openTable (entries : Entries) (path : List String) (key : String) : Option Entries :=
  change false .header entries
    (fun _ entries =>
      match entries.get? key with
      | none => some (entries.put key (.table .header []))
      | some (.table .implied inner) => some (entries.put key (.table .header inner))
      | some _ => none)
    path

/-- Opens one more of the tables of a header in double brackets. -/
def openRow (entries : Entries) (path : List String) (key : String) : Option Entries :=
  change false .header entries
    (fun _ entries =>
      match entries.get? key with
      | none => some (entries.put key (.tables [[]]))
      | some (.tables rows) => some (entries.put key (.tables (rows ++ [[]])))
      | some _ => none)
    path

end Entries

end TestSynth.Toml

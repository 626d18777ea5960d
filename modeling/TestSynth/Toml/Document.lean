import TestSynth.Toml.Item
import TestSynth.Toml.Number
import TestSynth.Toml.Text

/-!
# TOML documents

A document is a sequence of headers and entries, each on a line of its own.  An
entry belongs to the table of the last header.
-/

namespace TestSynth.Toml

open Text

/-- A value that holds no other values. -/
def readFlat : Reader Item :=
  Item.string <$> readText <|>
    (do Reader.text "true"; pure (.boolean true)) <|>
    (do Reader.text "false"; pure (.boolean false)) <|>
    Item.moment <$> readMoment <|>
    Item.real <$> readReal <|>
    Item.integer <$> readInteger

/-- An element of an array with what may stand around it. -/
def readElement (reader : Reader Item) : Reader Item := do
  readGap
  let item ← reader
  readGap
  pure item

def readArray (reader : Reader Item) : Reader Item := do
  Reader.char '['
  let items ← Reader.optional (Reader.separated (readElement reader) (Reader.char ','))
  if items.isSome then
    let _ ← Reader.optional (Reader.char ',')
  readGap
  Reader.char ']'
  pure (.array (items.getD []))

/-- A dotted key with its value. -/
structure Entry where
  path : List String
  key : String
  item : Item

def readEntry (reader : Reader Item) : Reader Entry := do
  let (path, key) ← readKey
  Reader.char '='
  readBlanks
  let item ← reader
  pure { path := path, key := key, item := item }

def readInlineEntry (reader : Reader Item) : Reader Entry := do
  let entry ← readEntry reader
  readBlanks
  pure entry

/-- The table that entries in braces make up. -/
def inlineTable? (entries : List Entry) : Option Item :=
  (entries.foldlM
    (fun (table : Entries) entry => Entries.assign .inline table entry.path entry.key entry.item)
    []).map (.table .inline)

def readInline (reader : Reader Item) : Reader Item := do
  Reader.char '\x7b'
  let entries ← Reader.optional (Reader.separated (readInlineEntry reader) (Reader.char ','))
  readBlanks
  Reader.char '\x7d'
  match inlineTable? (entries.getD []) with
  | some table => pure table
  | none => Reader.refuse

/-- A value, nested to at most the given depth. -/
def readItem : Nat → Reader Item
  | 0 => readFlat
  | depth + 1 => readArray (readItem depth) <|> readInline (readItem depth) <|> readFlat

/-- What a line of a document says. -/
inductive Statement
  | table (path : List String) (key : String)
  | row (path : List String) (key : String)
  | entry (entry : Entry)
  | blank

def readRowHeader : Reader Statement := do
  Reader.text "[["
  let (path, key) ← readKey
  Reader.text "]]"
  readLineRest
  pure (.row path key)

def readTableHeader : Reader Statement := do
  Reader.char '['
  let (path, key) ← readKey
  Reader.char ']'
  readLineRest
  pure (.table path key)

def readEntryLine : Reader Statement := do
  let entry ← readEntry (readItem (depthLimit - 1))
  readLineRest
  pure (.entry entry)

def readStatement : Reader Statement := do
  readBlanks
  (do readComment; readLineEndOrEnd; pure .blank) <|> (do readLineEnd; pure .blank) <|>
    readRowHeader <|> readTableHeader <|> readEntryLine

/-- The statements of a document.  A mark of the byte order may stand in front. -/
def readStatements : Reader (List Statement) := do
  let _ ← Reader.optional (Reader.char '\uFEFF')
  let statements ← Reader.repeated readStatement
  readBlanks
  pure statements

/-- A document as far as it is read: all entries, and the path of the table that
the last header opened. -/
structure Draft where
  entries : Entries
  here : List String

/-- Carries out a statement, if it contradicts no earlier one. -/
def Draft.add? (draft : Draft) : Statement → Option Draft
  | .blank => some draft
  | .table path key => do
      return { entries := ← draft.entries.openTable path key, here := path ++ [key] }
  | .row path key => do
      return { entries := ← draft.entries.openRow path key, here := path ++ [key] }
  | .entry entry => do
      let entries ←
        Entries.change false .header draft.entries
          (fun origin inner => Entries.assign origin inner entry.path entry.key entry.item)
          draft.here
      return { draft with entries := entries }

/-- The entries of a document. -/
def ofText? (text : String) : Option Entries := do
  let statements ← readStatements.readAll? text.toList
  let draft ← statements.foldlM Draft.add? { entries := [], here := [] }
  return draft.entries

end TestSynth.Toml

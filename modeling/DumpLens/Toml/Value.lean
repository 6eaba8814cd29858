import DumpLens.Number.Shortest
import DumpLens.Text.Numeral
import DumpLens.Text.Quoted
import DumpLens.Toml.Calendar

/-! Values of configuration documents, and their texts. -/

namespace DumpLens.Toml

/-- A value of a document. The entries of a table stand in the order in which they
were made, and no key has two. -/
inductive Value
  | string (text : Text)
  | integer (number : Int)
  | float (number : Double)
  | boolean (truth : Bool)
  | date (day : Date)
  | time (clock : Time)
  | dateTime (moment : DateTime)
  | array (items : List Value)
  | table (entries : List (Text × Value))
  deriving Repr

/-- The entries of a table. -/
abbrev Table := List (Text × Value)

def Table.find? (table : Table) (key : Text) : Option Value :=
  table.lookup key

namespace Value

/-! ## Types of values -/

def typeName : Value → Text
  | string _ => "str".toList
  | integer _ => "int".toList
  | float _ => "float".toList
  | boolean _ => "bool".toList
  | date _ => "date".toList
  | time _ => "time".toList
  | dateTime _ => "datetime".toList
  | array _ => "list".toList
  | table _ => "dict".toList

/-- The name of the type of a value with the library it comes from. -/
def qualifiedTypeName : Value → Text
  | date _ => "datetime.date".toList
  | time _ => "datetime.time".toList
  | dateTime _ => "datetime.datetime".toList
  | value => value.typeName

/-! ## Texts of values -/

/-- Why a value has no text. -/
inductive ShowError
  /-- An integer has too many digits. -/
  | overlongInteger
  /-- Collections stand in each other too often. -/
  | tooDeep
  deriving DecidableEq, Repr

/-- The digits of an integer, unless there are too many. -/
def integerText (number : Int) : Except ShowError Text :=
  match Numeral.write? number with
  | some numeral => .ok numeral
  | none => .error .overlongInteger

/-- How many collections may stand in each other in a value with a text. -/
def shownDepth : Nat := 990

mutual

/-- A value as one would write it in a program, where collections may stand in each other
as often as the given number says. -/
def shownWithin (depth : Nat) : Value → Except ShowError Text
  | string text => .ok (Quoted.quote text)
  | integer number => integerText number
  | float number => .ok number.text
  | boolean truth => .ok (if truth then "True".toList else "False".toList)
  | date day => .ok day.constructorText
  | time clock => .ok clock.constructorText
  | dateTime moment => .ok moment.constructorText
  | array items => do
    if depth = 0 then throw .tooDeep
    let texts ← shownItems (depth - 1) items
    pure ('[' :: commaSeparated texts ++ [']'])
  | table entries => do
    if depth = 0 then throw .tooDeep
    let texts ← shownEntries (depth - 1) entries
    pure ('\x7b' :: commaSeparated texts ++ ['\x7d'])

def shownItems (depth : Nat) : List Value → Except ShowError (List Text)
  | [] => .ok []
  | item :: rest => do
    let text ← shownWithin depth item
    let texts ← shownItems depth rest
    pure (text :: texts)

def shownEntries (depth : Nat) : List (Text × Value) → Except ShowError (List Text)
  | [] => .ok []
  | (key, value) :: rest => do
    let text ← shownWithin depth value
    let texts ← shownEntries depth rest
    pure ((Quoted.quote key ++ ": ".toList ++ text) :: texts)

end

/-- A value as one would write it in a program. -/
def shown (value : Value) : Except ShowError Text :=
  value.shownWithin shownDepth

/-- A value as text. Strings, dates and times are written plainly, other values as in
a program. -/
def text : Value → Except ShowError Text
  | string text => .ok text
  | date day => .ok day.text
  | time clock => .ok clock.text
  | dateTime moment => .ok moment.text
  | value => value.shown

end Value

end DumpLens.Toml

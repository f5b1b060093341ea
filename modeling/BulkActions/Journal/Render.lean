import BulkActions.Journal.Entry
import BulkActions.Json.Basic
import BulkActions.Text.Quoted

/-! Entries as lines for a console and as documents for a file. -/

namespace BulkActions.Journal

/-- What stands for the marks that only a running process can fill in. -/
structure Marks where
  processId : String
  clock : String
  file : String

/-- The text of a field on the console: texts in quotes where they are marked so. -/
def FieldValue.text (m : Marks) : FieldValue → String
  | .shown s => s
  | .quoted s => Text.quote s
  | .number n => toString n
  | .processId => m.processId
  | .clock => m.clock
  | .file => m.file
  | .missing => ""

def FieldValue.toJson (m : Marks) : FieldValue → Json
  | .shown s => .str s
  | .quoted s => .str s
  | .number n => .nat n
  | .processId => .str m.processId
  | .clock => .str m.clock
  | .file => .str m.file
  | .missing => .null

/-- Characters a terminal would obey are spelled out in messages. -/
def inertChar (c : Char) : List Char :=
  if ['\x07', '\x08', '\x0c', '\x1b', '\x7f'].contains c then
    '\\' :: 'x' :: Nat.toDigits 16 (c.toNat / 16) ++ Nat.toDigits 16 (c.toNat % 16)
  else if 0x80 ≤ c.toNat && c.toNat ≤ 0x9f then
    '\\' :: 'u' :: '{' :: Nat.toDigits 16 c.toNat ++ ['}']
  else [c]

def inert (text : String) : String := String.ofList (text.toList.flatMap inertChar)

/-- The length of the sequence a text starts with that sets a terminal's colours, zero if there is
none. -/
def colourLength : List Char → Nat
  | '\x1b' :: '[' :: rest =>
    let codes := rest.takeWhile fun c => c.isDigit || c = ';'
    if (rest.drop codes.length).head? = some 'm' then codes.length + 3 else 0
  | _ => 0

/-- The characters behind those to be skipped, without colours. -/
def withoutColours : Nat → List Char → List Char
  | _, [] => []
  | skipped + 1, _ :: rest => withoutColours skipped rest
  | 0, c :: rest =>
    match colourLength (c :: rest) with
    | 0 => c :: withoutColours 0 rest
    | length + 1 => withoutColours length rest

def plain (text : String) : String := String.ofList (withoutColours 0 text.toList)

/-- One line: level, origin, message and fields, without colours. -/
def Entry.line (m : Marks) (e : Entry) : String :=
  let fields := e.written.map fun (name, v) => s!"{name}={plain (v.text m)}"
  " ".intercalate (s!"{e.level.name} {e.origin.path}: {inert e.message}" :: fields)

/-- The message is the first field. -/
def Entry.toJson (m : Marks) (e : Entry) : Json :=
  .obj [("level", .str e.level.name),
    ("fields", .obj (("message", .str e.message) ::
      e.written.map fun (name, v) => (name, v.toJson m))),
    ("target", .str e.origin.path)]

end BulkActions.Journal

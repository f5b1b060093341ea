import BulkActions.Text.Numbered

/-! Text in double quotes, as messages show it. -/

namespace BulkActions.Text

/-- Short escapes where they exist, a code point in braces for the other numbered characters. -/
def quoteChar (c : Char) : List Char :=
  if c = '"' then ['\\', '"']
  else if c = '\\' then ['\\', '\\']
  else if c = '\n' then ['\\', 'n']
  else if c = '\r' then ['\\', 'r']
  else if c = '\t' then ['\\', 't']
  else if c = '\x00' then ['\\', '0']
  else if isNumbered c then '\\' :: 'u' :: '{' :: Nat.toDigits 16 c.toNat ++ ['}']
  else [c]

def quoteChars (cs : List Char) : List Char := '"' :: cs.flatMap quoteChar ++ ['"']

def quote (text : String) : String := String.ofList (quoteChars text.toList)

end BulkActions.Text

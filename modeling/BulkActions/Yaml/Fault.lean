/-! Places in the text of a document, and what can be wrong there. -/

namespace BulkActions.Yaml

/-- Bytes read, lines ended, and characters read of the line. All count from zero. -/
structure Place where
  index : Nat := 0
  line : Nat := 0
  column : Nat := 0
  deriving DecidableEq, Repr

def Place.isStart (p : Place) : Bool := p.line = 0 && p.column = 0

/-- The place behind a character of the same line. -/
def Place.pass (p : Place) (c : Char) : Place :=
  { p with index := p.index + c.utf8Size, column := p.column + 1 }

/-- The start of the next line, behind a break of some bytes. -/
def Place.skipLine (p : Place) (width : Nat) : Place := ⟨p.index + width, p.line + 1, 0⟩

def Place.describe (p : Place) : String :=
  if p.isStart then "" else s!" at line {p.line + 1} column {p.column + 1}"

/-- What a place in a document belongs to. -/
inductive Route where
  | root
  | item (parent : Route) (index : Nat)
  | entry (parent : Route) (key : String)
  /-- Below a key that is no scalar. -/
  | unnamed (parent : Route)
  deriving DecidableEq, Repr

namespace Route

def describe : Route → String
  | .root => "."
  | .item parent index => s!"{describe parent}[{index}]"
  | .entry .root key => key
  | .entry parent key => s!"{describe parent}.{key}"
  | .unnamed .root => "?"
  | .unnamed parent => s!"{describe parent}.?"

/-- In front of a message. -/
def lead (r : Route) : String := if r.describe = "." then "" else s!"{r.describe}: "

end Route

inductive Fault where
  /-- A character that no document may hold, behind so many bytes. -/
  | controlCharacter (offset : Nat)
  /-- A character that begins no token. -/
  | unexpectedCharacter
  | missingColon
  | misplacedDash
  | misplacedKey
  | misplacedColon
  /-- A document mark inside quotes. -/
  | documentMark
  | endOfText
  | unknownEscape
  | escapeDigits
  | escapeCode
  /-- In brackets, a colon right before another mark. -/
  | looseColon
  | tab
  | tabInBlock
  | zeroIndent
  | lineEnd
  | anchorName
  | tagMark
  | tagEnd
  | tagUri
  | tagEscape
  | tagEscapeBytes
  | tagBlank
  | tagDirectiveEnd
  | directiveName
  | directiveLetters
  | unknownDirective
  | versionNumber
  | longVersion
  | versionPoint
  | secondVersion
  | version
  | secondTagDirective
  | undefinedTag
  | missingContent
  | missingDash
  | missingKey
  | missingComma (close : Char)
  | missingDocument
  | unknownAnchor
  | duplicateKey (route : Route) (key : String)
  | wrongValue (route : Route) (reason : String)
  | secondDocument
  | tooDeep
  | tooManyAliases
  deriving DecidableEq, Repr

def Fault.describe : Fault → String
  | .controlCharacter offset =>
    let place := if offset = 0 then "" else s!" at position {offset}"
    "control characters are not allowed" ++ place
  | .unexpectedCharacter => "found character that cannot start any token"
  | .missingColon => "could not find expected ':'"
  | .misplacedDash => "block sequence entries are not allowed in this context"
  | .misplacedKey => "mapping keys are not allowed in this context"
  | .misplacedColon => "mapping values are not allowed in this context"
  | .documentMark => "found unexpected document indicator"
  | .endOfText => "found unexpected end of stream"
  | .unknownEscape => "found unknown escape character"
  | .escapeDigits => "did not find expected hexdecimal number"
  | .escapeCode => "found invalid Unicode character escape code"
  | .looseColon => "found unexpected ':'"
  | .tab => "found a tab character that violates indentation"
  | .tabInBlock => "found a tab character where an indentation space is expected"
  | .zeroIndent => "found an indentation indicator equal to 0"
  | .lineEnd => "did not find expected comment or line break"
  | .anchorName => "did not find expected alphabetic or numeric character"
  | .tagMark => "did not find expected '!'"
  | .tagEnd => "did not find the expected '>'"
  | .tagUri => "did not find expected tag URI"
  | .tagEscape => "did not find URI escaped octet"
  | .tagEscapeBytes => "found an incorrect leading UTF-8 octet"
  | .tagBlank => "did not find expected whitespace or line break"
  | .tagDirectiveEnd => "did not find expected whitespace"
  | .directiveName => "could not find expected directive name"
  | .directiveLetters => "found unexpected non-alphabetical character"
  | .unknownDirective => "found unknown directive name"
  | .versionNumber => "did not find expected version number"
  | .longVersion => "found extremely long version number"
  | .versionPoint => "did not find expected digit or '.' character"
  | .secondVersion => "found duplicate %YAML directive"
  | .version => "found incompatible YAML document"
  | .secondTagDirective => "found duplicate %TAG directive"
  | .undefinedTag => "found undefined tag handle"
  | .missingContent => "did not find expected node content"
  | .missingDash => "did not find expected '-' indicator"
  | .missingKey => "did not find expected key"
  | .missingComma close => s!"did not find expected ',' or '{close}'"
  | .missingDocument => "did not find expected <document start>"
  | .unknownAnchor => "unknown anchor"
  | .duplicateKey route key => s!"{route.lead}duplicate entry {key}"
  | .wrongValue route reason => s!"{route.lead}{reason}"
  | .secondDocument =>
    "deserializing from YAML containing more than one document is not supported"
  | .tooDeep => "recursion limit exceeded"
  | .tooManyAliases => "repetition limit exceeded"

/-- What was being read when a fault was found. -/
inductive Activity where
  | nextToken
  | simpleKey
  | quotedScalar
  | escape
  | plainScalar
  | blockScalar
  | anchor
  | alias
  | tag
  | tagParts
  | directive
  | versionDirective
  | tagDirective
  | blockNode
  | flowNode
  | node
  | blockSequence
  | blockMapping
  | flowSequence
  | flowMapping
  deriving DecidableEq, Repr

def Activity.describe : Activity → String
  | .nextToken => "while scanning for the next token"
  | .simpleKey => "while scanning a simple key"
  | .quotedScalar => "while scanning a quoted scalar"
  | .escape => "while parsing a quoted scalar"
  | .plainScalar => "while scanning a plain scalar"
  | .blockScalar => "while scanning a block scalar"
  | .anchor => "while scanning an anchor"
  | .alias => "while scanning an alias"
  | .tag => "while scanning a tag"
  | .tagParts => "while parsing a tag"
  | .directive => "while scanning a directive"
  | .versionDirective => "while scanning a %YAML directive"
  | .tagDirective => "while parsing a %TAG directive"
  | .blockNode => "while parsing a block node"
  | .flowNode => "while parsing a flow node"
  | .node => "while parsing a node"
  | .blockSequence => "while parsing a block collection"
  | .blockMapping => "while parsing a block mapping"
  | .flowSequence => "while parsing a flow sequence"
  | .flowMapping => "while parsing a flow mapping"

/-- A fault, where it is, and what was being read from where on. -/
structure ParseError where
  fault : Fault
  place : Place
  during : Option (Activity × Place) := none
  deriving DecidableEq, Repr

def ParseError.message (e : ParseError) : String :=
  let head := e.fault.describe ++ e.place.describe
  match e.during with
  | none => head
  | some (activity, start) =>
    let place :=
      if start.line = e.place.line && start.column = e.place.column then "" else start.describe
    s!"{head}, {activity.describe}{place}"

end BulkActions.Yaml

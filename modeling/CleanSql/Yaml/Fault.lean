import CleanSql.Decode.Mismatch

/-!
# Faults of YAML documents

What can be wrong with a YAML text, where, and in the middle of what.
-/
namespace CleanSql.Yaml

/-- A place in a text: the characters before it, the lines before it, and the characters before
it in its line. -/
structure Mark where
  index : Nat := 0
  line : Nat := 0
  column : Nat := 0
  deriving DecidableEq, Repr

namespace Mark

def right (m : Mark) : Mark := ⟨m.index + 1, m.line, m.column + 1⟩

/-- The start of the next line, behind a line break of some characters. -/
def down (m : Mark) (characters : Nat) : Mark := ⟨m.index + characters, m.line + 1, 0⟩

def isStart (m : Mark) : Bool := m.line = 0 && m.column = 0

/-- Lines and columns are counted from one. The start of a text needs no words. -/
def words (m : Mark) : String :=
  if m.isStart then ""
  else " at line " ++ toString (m.line + 1) ++ " column " ++ toString (m.column + 1)

end Mark

/-- What is wrong with the spelling of a document. -/
inductive Cause where
  | noToken
  | noColon
  | entryNotAllowed
  | keyNotAllowed
  | valueNotAllowed
  | unknownDirective
  | noDirectiveName
  | badDirectiveName
  | noVersionPoint
  | noVersion
  | longVersion
  | noLineEnd
  | noBlank
  | noBlankOrBreak
  | noName
  | noAngle
  | noBang
  | noUri
  | noOctet
  | badLeadingOctet
  | badTrailingOctet
  | zeroIndentation
  | tabForSpace
  | tabInIndentation
  | documentMark
  | endInQuoted
  | unknownEscape
  | noHexDigit
  | noCharacter
  | colonInFlow
  | noDocumentStart
  | twoVersions
  | otherVersion
  | twoHandles
  | unknownHandle
  | noContent
  | noEntry
  | noKey
  | noListComma
  | noMapComma
  deriving DecidableEq, Repr

def Cause.message : Cause → String
  | noToken => "found character that cannot start any token"
  | noColon => "could not find expected ':'"
  | entryNotAllowed => "block sequence entries are not allowed in this context"
  | keyNotAllowed => "mapping keys are not allowed in this context"
  | valueNotAllowed => "mapping values are not allowed in this context"
  | unknownDirective => "found unknown directive name"
  | noDirectiveName => "could not find expected directive name"
  | badDirectiveName => "found unexpected non-alphabetical character"
  | noVersionPoint => "did not find expected digit or '.' character"
  | noVersion => "did not find expected version number"
  | longVersion => "found extremely long version number"
  | noLineEnd => "did not find expected comment or line break"
  | noBlank => "did not find expected whitespace"
  | noBlankOrBreak => "did not find expected whitespace or line break"
  | noName => "did not find expected alphabetic or numeric character"
  | noAngle => "did not find the expected '>'"
  | noBang => "did not find expected '!'"
  | noUri => "did not find expected tag URI"
  | noOctet => "did not find URI escaped octet"
  | badLeadingOctet => "found an incorrect leading UTF-8 octet"
  | badTrailingOctet => "found an incorrect trailing UTF-8 octet"
  | zeroIndentation => "found an indentation indicator equal to 0"
  | tabForSpace => "found a tab character where an indentation space is expected"
  | tabInIndentation => "found a tab character that violates indentation"
  | documentMark => "found unexpected document indicator"
  | endInQuoted => "found unexpected end of stream"
  | unknownEscape => "found unknown escape character"
  | noHexDigit => "did not find expected hexdecimal number"
  | noCharacter => "found invalid Unicode character escape code"
  | colonInFlow => "found unexpected ':'"
  | noDocumentStart => "did not find expected <document start>"
  | twoVersions => "found duplicate %YAML directive"
  | otherVersion => "found incompatible YAML document"
  | twoHandles => "found duplicate %TAG directive"
  | unknownHandle => "found undefined tag handle"
  | noContent => "did not find expected node content"
  | noEntry => "did not find expected '-' indicator"
  | noKey => "did not find expected key"
  | noListComma => "did not find expected ',' or ']'"
  | noMapComma => "did not find expected ',' or '\x7d'"

/-- What was being read when something turned out to be wrong. -/
inductive Activity where
  | nextToken
  | simpleKey
  | directive
  | versionDirective
  | tagDirective
  | directiveHandle
  | tagDirectiveUri
  | anchor
  | reference
  | tag
  | tagUri
  | blockScalar
  | quotedScalar
  | quotedEscape
  | plainScalar
  | node
  | blockNode
  | flowNode
  | blockList
  | blockMap
  | flowList
  | flowMap
  deriving DecidableEq, Repr

def Activity.words : Activity → String
  | nextToken => "while scanning for the next token"
  | simpleKey => "while scanning a simple key"
  | directive => "while scanning a directive"
  | versionDirective => "while scanning a %YAML directive"
  | tagDirective => "while scanning a %TAG directive"
  | directiveHandle => "while parsing a directive"
  | tagDirectiveUri => "while parsing a %TAG directive"
  | anchor => "while scanning an anchor"
  | reference => "while scanning an alias"
  | tag => "while scanning a tag"
  | tagUri => "while parsing a tag"
  | blockScalar => "while scanning a block scalar"
  | quotedScalar => "while scanning a quoted scalar"
  | quotedEscape => "while parsing a quoted scalar"
  | plainScalar => "while scanning a plain scalar"
  | node => "while parsing a node"
  | blockNode => "while parsing a block node"
  | flowNode => "while parsing a flow node"
  | blockList => "while parsing a block collection"
  | blockMap => "while parsing a block mapping"
  | flowList => "while parsing a flow sequence"
  | flowMap => "while parsing a flow mapping"

/-- A step from a value to one of its parts. -/
inductive Step where
  | item (index : Nat)
  | entry (key : String)
  /-- The value of a key that is an alias. -/
  | aliased
  deriving DecidableEq, Repr

/-- The way from the root of a document to a value, its last step first. -/
abbrev Path := List Step

def Path.words : Path → String
  | [] => ""
  | step :: parent =>
    let before := Path.words parent
    let dotted := if parent.isEmpty then "" else before ++ "."
    match step with
    | .item index => before ++ "[" ++ toString index ++ "]"
    | .entry key => dotted ++ key
    | .aliased => dotted ++ "?"

inductive Fault where
  /-- A character that no document may hold, with the bytes before it. -/
  | controlCharacter (offset : Nat)
  | spelling (cause : Cause) (place : Mark) (during : Option (Activity × Mark))
  | unknownAnchor (place : Mark)
  | moreDocuments
  | shape (mismatch : Mismatch) (location : Option (Path × Mark))
  deriving DecidableEq, Repr

namespace Fault

/-- A fault that does not yet say where it is gets a place. -/
def locate (path : Path) (place : Mark) : Fault → Fault
  | shape m none => shape m (some (path, place))
  | f => f

def message : Fault → String
  | controlCharacter offset =>
    "control characters are not allowed"
      ++ (if offset = 0 then "" else " at position " ++ toString offset)
  | spelling cause place during =>
    cause.message ++ place.words ++ match during with
      | none => ""
      | some (activity, start) =>
        ", " ++ activity.words
          ++ (if start.line = place.line && start.column = place.column then ""
            else start.words)
  | unknownAnchor place => "unknown anchor" ++ place.words
  | moreDocuments =>
    "deserializing from YAML containing more than one document is not supported"
  | shape m location =>
    match location with
    | none => m.message
    | some (path, place) =>
      (if path.isEmpty then "" else path.words ++ ": ") ++ m.message ++ place.words

end Fault

end CleanSql.Yaml

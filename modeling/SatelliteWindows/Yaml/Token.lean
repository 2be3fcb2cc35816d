/-!
# Tokens of YAML

A text is cut into tokens first. Most of them stand for characters of the text; the tokens that open
and close block collections stand for changes of indentation.
-/

namespace SatelliteWindows.Yaml

/-- What is wrong with the form of a text. -/
inductive SyntaxError where
  /-- A character must not stand in a text. -/
  | forbiddenCharacter
  /-- No token starts like this. -/
  | unexpectedCharacter
  /-- The text ends too early. -/
  | unexpectedEnd
  /-- A document marker stands inside quotes. -/
  | unexpectedMarker
  /-- A directive is unknown or incomplete. -/
  | badDirective
  /-- The name of an anchor is missing or not ended. -/
  | badAnchor
  /-- A tag is incomplete or not ended. -/
  | badTag
  /-- An escape sequence is unknown or stands for no character. -/
  | badEscape
  /-- The header of a block scalar is not well formed. -/
  | badHeader
  /-- A tab stands where only blanks indent. -/
  | tabIndentation
  /-- An item of a list stands where none may start. -/
  | misplacedEntry
  /-- A key stands where none may start. -/
  | misplacedKey
  /-- A value stands where none may start. -/
  | misplacedValue
  /-- A line that has to be a key is not followed by a colon. -/
  | missingColon
  /-- The tokens do not make up a document. -/
  | unexpectedToken
  /-- A tag uses a handle that was not declared. -/
  | undefinedHandle
  /-- An alias refers to no anchor. -/
  | undefinedAlias
  /-- There is more than one document. -/
  | severalDocuments
  deriving DecidableEq, Repr

/-- How a scalar is written. -/
inductive ScalarStyle where
  /-- Without quotes. -/
  | plain
  /-- In single quotes. -/
  | single
  /-- In double quotes. -/
  | double
  /-- As a block that keeps its lines. -/
  | literal
  /-- As a block whose lines are joined. -/
  | folded
  deriving DecidableEq, Repr

/-- A tag, or part of one: its bytes. Escape sequences may write bytes that encode no text. -/
abbrev Tag := List UInt8

/-- The bytes of ASCII characters. -/
def asciiBytes (cs : List Char) : List UInt8 := cs.map fun c => UInt8.ofNat c.toNat

/-- A token. -/
inductive Token where
  /-- The version of YAML. -/
  | version (major minor : Nat)
  /-- What a tag handle stands for. -/
  | tagHandle (handle : String) (replacement : Tag)
  /-- Three dashes. -/
  | documentStart
  /-- Three dots. -/
  | documentEnd
  /-- Indentation for a list. -/
  | blockListStart
  /-- Indentation for a record. -/
  | blockRecordStart
  /-- Back to the indentation before. -/
  | blockEnd
  /-- An opening bracket. -/
  | listStart
  /-- A closing bracket. -/
  | listEnd
  /-- An opening brace. -/
  | recordStart
  /-- A closing brace. -/
  | recordEnd
  /-- The dash before an item. -/
  | entry
  /-- The comma between items. -/
  | comma
  /-- What follows is a key. -/
  | key
  /-- What follows is a value. -/
  | value
  /-- A reference to an anchor. -/
  | alias (name : String)
  /-- A name for the node that follows. -/
  | anchor (name : String)
  /-- A tag for the node that follows. -/
  | tag (handle : String) (suffix : Tag)
  /-- A scalar. -/
  | scalar (style : ScalarStyle) (text : String)
  deriving DecidableEq, Repr

end SatelliteWindows.Yaml

import FrameCourier.Yaml.Cursor

/-!
# Faults of notation

A text in the notation of settings is refused at a place and for a cause.
-/

namespace FrameCourier.Yaml

/-- Why a text is refused. -/
inductive Cause where
  -- Blanks and lines.
  | tabAsIndentation
  | commentNotApart
  | invalidIndentation
  | unexpectedCharacter (c : Char)
  -- Keys and values.
  | keyWithoutColon
  | keyExpected
  | keyNotAllowed
  | noBlank
  | tabAfterKeyMark
  | tabAfterColon
  | colonMisplaced
  | valueNotAllowed
  | duplicatedKey (shown : String)
  -- Items.
  | itemInBrackets
  | itemNotAllowed
  | tabAfterDash
  -- Directives and documents.
  | noDirectiveName
  | directiveName
  | directiveNotEnded
  | versionPoint
  | longVersion
  | noVersion
  | repeatedVersion
  | directiveInDocument
  | contentAfterDocument
  | noDocument
  -- Tags and anchors.
  | tagMark
  | tagDirectiveMark
  | tagDirectiveNotApart
  | tagCharacter
  | tagNotClosed
  | tagNotApart
  | noTag
  | tagEscape
  | tagLeadingByte
  | tagTrailingByte
  | tagCodePoint
  | undeclaredHandle
  | noAnchorName
  | unknownAnchor
  -- Scalars.
  | zeroIndentation
  | blockHeader
  | blockTab
  | blockIndentation
  | documentInQuotes
  | endInQuotes
  | quotedIndentation
  | quotedTab
  | afterQuotes
  | unknownEscape
  | escapeDigits
  | escapeCodePoint
  | bracketIndentation
  | dashInBrackets
  | plainTab
  | emptyPlain
  -- Collections.
  | nestedTooDeep
  | noContent
  | noKey
  | noMappingComma
  | noSequenceComma
  | noDash
  deriving DecidableEq, Repr

def Cause.words : Cause → String
  | tabAsIndentation => "tabs disallowed within this context (block indentation)"
  | commentNotApart => "comments must be separated from other tokens by whitespace"
  | invalidIndentation => "invalid indentation"
  | unexpectedCharacter c => "unexpected character: `" ++ String.singleton c ++ "'"
  | keyWithoutColon => "simple key expect ':'"
  | keyExpected => "simple key expected"
  | keyNotAllowed => "mapping keys are not allowed in this context"
  | noBlank => "expected whitespace"
  | tabAfterKeyMark => "tabs disallowed in this context"
  | tabAfterColon => "':' must be followed by a valid YAML whitespace"
  | colonMisplaced => "illegal placement of ':' indicator"
  | valueNotAllowed => "mapping values are not allowed in this context"
  | duplicatedKey shown => shown ++ ": duplicated key in mapping"
  | itemInBrackets => "\"-\" is only valid inside a block"
  | itemNotAllowed => "block sequence entries are not allowed in this context"
  | tabAfterDash => "'-' must be followed by a valid YAML whitespace"
  | noDirectiveName => "while scanning a directive, could not find expected directive name"
  | directiveName => "while scanning a directive, found unexpected non-alphabetical character"
  | directiveNotEnded =>
    "while scanning a directive, did not find expected comment or line break"
  | versionPoint =>
    "while scanning a YAML directive, did not find expected digit or '.' character"
  | longVersion => "while scanning a YAML directive, found extremely long version number"
  | noVersion => "while scanning a YAML directive, did not find expected version number"
  | repeatedVersion => "duplicate version directive"
  | directiveInDocument => "missing explicit document end marker before directive"
  | contentAfterDocument => "invalid content after document end marker"
  | noDocument => "did not find expected <document start>"
  | tagMark => "while scanning a tag, did not find expected '!'"
  | tagDirectiveMark => "while parsing a tag directive, did not find expected '!'"
  | tagDirectiveNotApart => "while scanning TAG, did not find expected whitespace or line break"
  | tagCharacter => "invalid global tag character"
  | tagNotClosed => "while scanning a verbatim tag, did not find the expected '>'"
  | tagNotApart => "while scanning a tag, did not find expected whitespace or line break"
  | noTag => "while parsing a tag, did not find expected tag URI"
  | tagEscape => "while parsing a tag, found an invalid escape sequence"
  | tagLeadingByte => "while parsing a tag, found an incorrect leading UTF-8 byte"
  | tagTrailingByte => "while parsing a tag, found an incorrect trailing UTF-8 byte"
  | tagCodePoint => "while parsing a tag, found an invalid UTF-8 codepoint"
  | undeclaredHandle => "the handle wasn't declared"
  | noAnchorName =>
    "while scanning an anchor or alias, did not find expected alphabetic or numeric character"
  | unknownAnchor => "while parsing node, found unknown anchor"
  | zeroIndentation =>
    "while scanning a block scalar, found an indentation indicator equal to 0"
  | blockHeader =>
    "while scanning a block scalar, did not find expected comment or line break"
  | blockTab => "a block scalar content cannot start with a tab"
  | blockIndentation => "wrongly indented line in block scalar"
  | documentInQuotes =>
    "while scanning a quoted scalar, found unexpected document indicator"
  | endInQuotes => "while scanning a quoted scalar, found unexpected end of stream"
  | quotedIndentation => "invalid indentation in quoted scalar"
  | quotedTab => "tab cannot be used as indentation"
  | afterQuotes => "invalid trailing content after double-quoted scalar"
  | unknownEscape => "while parsing a quoted scalar, found unknown escape character"
  | escapeDigits =>
    "while parsing a quoted scalar, did not find expected hexadecimal number"
  | escapeCodePoint =>
    "while parsing a quoted scalar, found invalid Unicode character escape code"
  | bracketIndentation => "invalid indentation in flow construct"
  | dashInBrackets => "plain scalar cannot start with '-' followed by ,[]\x7b\x7d"
  | plainTab => "while scanning a plain scalar, found a tab"
  | emptyPlain => "unexpected end of plain scalar"
  | nestedTooDeep => "recursion limit exceeded"
  | noContent => "while parsing a node, did not find expected node content"
  | noKey => "while parsing a block mapping, did not find expected key"
  | noMappingComma =>
    "while parsing a flow mapping, did not find expected ',' or '\x7d'"
  | noSequenceComma => "while parsing a flow sequence, expected ',' or ']'"
  | noDash => "while parsing a block collection, did not find expected '-' indicator"

/-- A cause, and the place at which it shows. -/
structure Fault where
  cause : Cause
  mark : Mark
  deriving DecidableEq, Repr

/-- The words for a fault; columns are counted from 1 in them. -/
def Fault.message (fault : Fault) : String :=
  fault.cause.words ++ " at byte " ++ toString fault.mark.index ++ " line " ++
    toString fault.mark.line ++ " column " ++ toString (fault.mark.column + 1)

namespace Cursor

/-- Refuses the text at a cursor. -/
def refuse {α : Type} (cursor : Cursor) (cause : Cause) : Except Fault α :=
  .error ⟨cause, cursor.mark⟩

/-- Passes blanks, and a comment that is apart from what is before them. -/
def passGap (cursor : Cursor) (blank : Char → Bool) : Except Fault Cursor :=
  let blanks := cursor.rest.takeWhile blank
  let after := cursor.passBlank blanks.length
  if after.next ≠ some '#' then .ok after
  else if blanks.isEmpty then after.refuse .commentNotApart
  else .ok after.passLine

/-- Passes blanks, and a comment that is apart, before the end of a line. -/
def toLineEnd (cursor : Cursor) : Except Fault Cursor := cursor.passGap isBlank

end Cursor

end FrameCourier.Yaml

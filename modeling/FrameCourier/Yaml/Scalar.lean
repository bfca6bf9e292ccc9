import FrameCourier.Number.Written
import FrameCourier.Yaml.Event
import FrameCourier.Yaml.Node

/-!
# Scalars

A scalar between quotes, or in a block, is a text.  A plain one is what it looks like: a
number, a truth value, null or else a text.  A tag of the common scheme says what a plain
scalar has to be; with any other tag it is a text.
-/

namespace FrameCourier.Yaml.Node

/-- The integer that digits of a base are, if it has 64 bits. -/
def integerIn? (base : Nat) (digits : List Char) : Option Int :=
  Number.integerWithin? Number.leastInt64 Number.greatestInt64 base digits

/-- The integer that a plain scalar is. -/
def integerOf? (text : List Char) : Option Int :=
  let special := match text with
    | '0' :: 'x' :: digits => integerIn? 16 digits
    | '0' :: 'o' :: digits => integerIn? 8 digits
    | '+' :: digits => integerIn? 10 digits
    | _ => none
  special.or (integerIn? 10 text)

/-- The words that stand for infinity, and for the lack of a number. -/
def numberWords : List String :=
  [".inf", ".Inf", ".INF", "+.inf", "+.Inf", "+.INF", "-.inf", "-.Inf", "-.INF", ".nan", ".NaN",
    ".NAN"]

/-- Whether a text is a number, with a digit if it is none of the words. -/
def isReal (text : String) : Bool :=
  numberWords.contains text ||
    (text.toList.any Char.isDigit && (Number.Binary.read? Number.Format.double text).isSome)

/-- What a plain scalar without a tag is. -/
def ofPlain (written : String) : Node :=
  match integerOf? written.toList with
  | some value => integer value
  | none =>
    if ["", "~", "null"].contains written then null
    else if ["true", "True", "TRUE"].contains written then boolean true
    else if ["false", "False", "FALSE"].contains written then boolean false
    else if isReal written then real written
    else text written

/-- What a plain scalar is that a tag of the common scheme says to be of some kind. -/
def ofKind (kind written : String) : Node :=
  if kind = "bool" then
    if written = "true" then boolean true
    else if written = "false" then boolean false
    else invalid
  else if kind = "int" then
    match integerIn? 10 written.toList with
    | some value => integer value
    | none => invalid
  else if kind = "float" then if isReal written then real written else invalid
  else if kind = "null" then if written = "~" || written = "null" then null else invalid
  else text written

/-- What a scalar is. -/
def ofScalar (written : String) (isPlain : Bool) (tag : Option NodeTag) : Node :=
  if !isPlain then text written
  else
    match tag with
    | none => ofPlain written
    | some tag =>
      if tag.scheme = "tag:yaml.org,2002:" then ofKind tag.name written else text written

end FrameCourier.Yaml.Node

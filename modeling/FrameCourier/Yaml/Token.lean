import FrameCourier.Yaml.Fault

/-!
# Tokens

The words of the notation of settings: what opens, closes and separates collections, what
stands before a node, and scalars.  Where indentation opens and closes a collection, tokens
without characters of their own say so.
-/

namespace FrameCourier.Yaml

/-- The kinds of tokens. -/
inductive Kind where
  | version
  | tagDirective (handle meaning : String)
  | documentStart
  | documentEnd
  | blockSequence
  | blockMapping
  | blockEnd
  | flowSequence
  | flowSequenceEnd
  | flowMapping
  | flowMappingEnd
  | item
  | comma
  | key
  | value
  | alias (name : String)
  | anchor (name : String)
  | tag (handle suffix : String)
  | scalar (text : String) (isPlain : Bool)
  | textEnd
  deriving DecidableEq, Repr

/-- A token, and where it begins. -/
structure Token where
  kind : Kind
  mark : Mark
  deriving DecidableEq, Repr

end FrameCourier.Yaml

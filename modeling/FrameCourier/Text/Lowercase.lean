import FrameCourier.Text.Casing

/-!
# Lower case

Every letter that has a lower-case form becomes it.  The capital I with a dot becomes two
characters, and a capital sigma becomes the final sigma where a word ends at it: a cased
character is before it and none is after it, disregarded characters aside.
-/

namespace FrameCourier.Text

/-- The lower-case form of a code point within a run. -/
def LowerRun.lower? (run : LowerRun) (code : Nat) : Option Nat :=
  if run.first ≤ code && code ≤ run.last && (code - run.first) % run.step == 0 then
    some (run.lower + (code - run.first))
  else none

/-- The lower-case form of a character by itself. -/
def lowerChar (c : Char) : List Char :=
  if c = 'İ' then ['i', '\u0307']
  else
    match lowerRuns.findSome? fun run => run.lower? c.toNat with
    | some code => [Char.ofNat code]
    | none => [c]

/-- The capital letters of ASCII become the small ones. -/
theorem flatMap_lowerChar_capitals :
    "ABCDEFGHIJKLMNOPQRSTUVWXYZ".toList.flatMap lowerChar =
      "abcdefghijklmnopqrstuvwxyz".toList := by
  decide +kernel

/-- Whether a character is in one of some ranges. -/
def isIn (ranges : List (Nat × Nat)) (c : Char) : Bool :=
  ranges.any fun range => range.1 ≤ c.toNat && c.toNat ≤ range.2

/-- Whether the first character that is not disregarded is a cased one. -/
def startsCased (cs : List Char) : Bool :=
  match cs.dropWhile (isIn disregardedRanges) with
  | [] => false
  | c :: _ => isIn casedRanges c

/-- The lower-case form of what follows some characters, those in reverse order. -/
def lowerAfter : List Char → List Char → List Char
  | _, [] => []
  | before, c :: rest =>
    (if c = 'Σ' then
      if startsCased before && !startsCased rest then ['ς'] else ['σ']
    else lowerChar c) ++ lowerAfter (c :: before) rest

/-- The lower-case form of a text. -/
def lowercase (s : String) : String := String.ofList (lowerAfter [] s.toList)

/-- A sigma is final where a word ends at it, and nowhere else. -/
theorem lowercase_sigma :
    lowercase "ΑΣ" = "ας" ∧ lowercase "ΑΣΑ" = "ασα" ∧ lowercase "Σ" = "σ" := by
  decide +kernel

end FrameCourier.Text

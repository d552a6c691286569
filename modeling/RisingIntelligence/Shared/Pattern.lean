import Mathlib.Data.List.Infix

/-!
# Regular expressions

The regular expressions that the services test texts with.  A pattern is read as what may remain of
a text after it, so a test finds a match if one remains after some position.
-/

namespace RisingIntelligence.Js

inductive Pattern : Type
  | empty
  | char (accepts : Char → Bool)
  /-- Any number of characters. -/
  | many (accepts : Char → Bool)
  /-- `$` in a pattern for lines. -/
  | lineEnd
  | seq (first second : Pattern)
  | alt (first second : Pattern)

namespace Pattern

/-- A text in lower case, matched in any case. -/
def word (text : String) : Pattern :=
  text.toList.foldr (fun c rest => seq (char fun other => other.toLower == c) rest) empty

/-- A text as it is. -/
def literal (text : String) : Pattern :=
  text.toList.foldr (fun c rest => seq (char fun other => other == c) rest) empty

def oneOrMore (accepts : Char → Bool) : Pattern := seq (char accepts) (many accepts)

def optional (pattern : Pattern) : Pattern := alt pattern empty

def restsOfMany (accepts : Char → Bool) : List Char → List (List Char)
  | [] => [[]]
  | c :: rest => (c :: rest) :: if accepts c then restsOfMany accepts rest else []

def isLineEnd : List Char → Bool
  | [] => true
  | c :: _ => [0x0A, 0x0D, 0x2028, 0x2029].contains c.toNat

def rests : Pattern → List Char → List (List Char)
  | empty, cs => [cs]
  | char _, [] => []
  | char accepts, c :: rest => if accepts c then [rest] else []
  | many accepts, cs => restsOfMany accepts cs
  | lineEnd, cs => if isLineEnd cs then [cs] else []
  | seq first second, cs => (first.rests cs).flatMap second.rests
  | alt first second, cs => first.rests cs ++ second.rests cs

/-- `pattern.test(value)` -/
def test (pattern : Pattern) (value : String) : Bool :=
  value.toList.tails.any fun cs => !(pattern.rests cs).isEmpty

/-- `\w` -/
def isWordChar (c : Char) : Bool := c.isAlphanum || c == '_'

def isWordEnd : List Char → Bool
  | [] => true
  | c :: _ => !isWordChar c

def testWordsFrom (pattern : Pattern) (inWord : Bool) : List Char → Bool
  | [] => !inWord && (pattern.rests []).any isWordEnd
  | c :: rest =>
      (!inWord && (pattern.rests (c :: rest)).any isWordEnd) ||
        testWordsFrom pattern (isWordChar c) rest

/-- `/\b..\b/.test(value)` with a pattern between whose matches begin and end with word
characters. -/
def testWords (pattern : Pattern) (value : String) : Bool :=
  testWordsFrom pattern false value.toList

end Pattern

end RisingIntelligence.Js

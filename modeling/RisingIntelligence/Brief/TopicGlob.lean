import RisingIntelligence.Brief.SummaryRequest

/-!
# Topic globs

`createTopicGlobMatcherSet` of `apps/brief/src/topic-glob.ts`.  A glob is compiled to the parts of a
regular expression, which is tested over the UTF-16 code units of a topic.
-/

namespace RisingIntelligence.Brief

/-- A part of the expression that a glob is compiled to. -/
inductive GlobPart : Type
  /-- `.*` -/
  | anyUnits
  /-- `.` -/
  | anyUnit
  /-- An escaped character. -/
  | char (c : Char)
  deriving DecidableEq

def globPart (c : Char) : GlobPart :=
  if c = '*' then .anyUnits else if c = '?' then .anyUnit else .char c

/-- What `.` matches. -/
def isDotUnit (unit : Nat) : Bool := !([0x0A, 0x0D, 0x2028, 0x2029].contains unit)

/-- In any case, by the flag `i`: no unit beyond ASCII is the same as one of ASCII. -/
def isSameUnit (c : Char) (unit : Nat) : Bool :=
  decide (unit < 0x80) && (Char.ofNat unit).toUpper == c.toUpper

/-- What may remain after some units that `.` matches. -/
def restsOfDots : List Nat → List (List Nat)
  | [] => [[]]
  | unit :: units => (unit :: units) :: if isDotUnit unit then restsOfDots units else []

def testGlobParts : List GlobPart → List Nat → Bool
  | [], units => units.isEmpty
  | .anyUnits :: parts, units => (restsOfDots units).any (testGlobParts parts)
  | .anyUnit :: _, [] => false
  | .anyUnit :: parts, unit :: units => isDotUnit unit && testGlobParts parts units
  | .char _ :: _, [] => false
  | .char c :: parts, unit :: units => isSameUnit c unit && testGlobParts parts units

def compileTopicGlob (glob : String) : Except SummaryRequestError (List GlobPart) :=
  (validateTopicGlob glob).map fun normalized => normalized.toList.map globPart

def matchesAnyTopicGlob (topic : String) (matchers : List (List GlobPart)) : Bool :=
  matchers.any fun matcher => testGlobParts matcher (Js.codeUnits topic)

structure TopicGlobMatcherSet where
  globs : List String
  matchesTopic : String → Bool

def createTopicGlobMatcherSet (globs : Option (List String)) :
    Except SummaryRequestError TopicGlobMatcherSet := do
  let normalized ← normalizeTopicGlobs globs
  let resolvedGlobs := match normalized with
    | some (glob :: globs) => glob :: globs
    | none | some [] => ["*"]
  let matchers ← resolvedGlobs.mapM compileTopicGlob
  return { globs := resolvedGlobs, matchesTopic := (matchesAnyTopicGlob · matchers) }

example : (createTopicGlobMatcherSet (some ["LLM.*"])).toOption.map (·.matchesTopic "llm.agents") =
    some true := by
  decide

end RisingIntelligence.Brief

import Mathlib.Data.List.DropRight
import Mathlib.Data.String.Basic

/-!
# Strings of the runtime

The string operations of the language that the services rely on, on Lean strings:
`trim`, the integer readers, and the conversion to a big integer.
-/

namespace RisingIntelligence.Js

/-- A check of every character of a text, to be evaluated. -/
theorem forall_mem_of_all {p : Char → Prop} [DecidablePred p] {cs : List Char}
    (all : (cs.all fun c => decide (p c)) = true) : ∀ c ∈ cs, p c := by
  simpa using all

/-- `value.length`, which counts UTF-16 code units. -/
def length (value : String) : Nat :=
  (value.toList.map fun c => if 0x10000 ≤ c.toNat then 2 else 1).foldl (· + ·) 0

/-- White space and line terminators of the language. -/
def isWhitespace (c : Char) : Bool :=
  let n := c.toNat
  n == 0x20 || (0x09 ≤ n && n ≤ 0x0D) || n == 0xA0 || n == 0x1680 || (0x2000 ≤ n && n ≤ 0x200A) ||
    n == 0x2028 || n == 0x2029 || n == 0x202F || n == 0x205F || n == 0x3000 || n == 0xFEFF

/-! ## Lower case -/

theorem toNat_toLower (c : Char) :
    c.toLower.toNat = if 65 ≤ c.toNat ∧ c.toNat ≤ 90 then c.toNat + 32 else c.toNat := by
  have bounds : (c.val ≥ 'A'.val ∧ c.val ≤ 'Z'.val) ↔ 65 ≤ c.toNat ∧ c.toNat ≤ 90 := Iff.rfl
  unfold Char.toLower
  by_cases upper : 65 ≤ c.toNat ∧ c.toNat ≤ 90
  · rw [dif_pos (bounds.2 upper), if_pos upper]
    change (c.val + 32).toNat = c.val.toNat + 32
    rw [UInt32.toNat_add, Nat.mod_eq_of_lt]
    · rfl
    · have small : c.val.toNat ≤ 90 := upper.2
      have value : (32 : UInt32).toNat = 32 := rfl
      omega
  · rw [dif_neg (fun found => upper (bounds.1 found)), if_neg upper]

theorem toNat_toUpper (c : Char) :
    c.toUpper.toNat = if 97 ≤ c.toNat ∧ c.toNat ≤ 122 then c.toNat - 32 else c.toNat := by
  have bounds : (c.val ≥ 'a'.val ∧ c.val ≤ 'z'.val) ↔ 97 ≤ c.toNat ∧ c.toNat ≤ 122 := Iff.rfl
  unfold Char.toUpper
  by_cases lower : 97 ≤ c.toNat ∧ c.toNat ≤ 122
  · rw [dif_pos (bounds.2 lower), if_pos lower]
    change (c.val + ('A'.val - 'a'.val)).toNat = c.val.toNat - 32
    have large : 97 ≤ c.val.toNat := lower.1
    have small : c.val.toNat ≤ 122 := lower.2
    have value : ('A'.val - 'a'.val).toNat = 2 ^ 32 - 32 := rfl
    rw [UInt32.toNat_add, value]
    omega
  · rw [dif_neg (fun found => lower (bounds.1 found)), if_neg lower]

theorem toLower_eq_self {c : Char} (outside : ¬ (65 ≤ c.toNat ∧ c.toNat ≤ 90)) : c.toLower = c := by
  apply Char.toNat_inj.1
  rw [toNat_toLower, if_neg outside]

theorem isWhitespace_toLower (c : Char) : isWhitespace c.toLower = isWhitespace c := by
  unfold isWhitespace
  rw [toNat_toLower]
  split
  · rename_i upper
    rw [Bool.eq_iff_iff]
    simp only [Bool.or_eq_true, Bool.and_eq_true, beq_iff_eq, decide_eq_true_eq]
    omega
  · rfl

/-! ## Trimming -/

def trimList (cs : List Char) : List Char :=
  ((cs.dropWhile isWhitespace).reverse.dropWhile isWhitespace).reverse

/-- `value.trim()` -/
def trim (value : String) : String := String.ofList (trimList value.toList)

theorem trimList_eq_rdropWhile (cs : List Char) :
    trimList cs = (cs.dropWhile isWhitespace).rdropWhile isWhitespace := rfl

/-- Cutting at the end leaves a list that starts as it did. -/
theorem dropWhile_rdropWhile {p : Char → Bool} {cs : List Char} (trimmed : cs.dropWhile p = cs) :
    (cs.rdropWhile p).dropWhile p = cs.rdropWhile p := by
  have initial := List.rdropWhile_prefix p (l := cs)
  rw [List.dropWhile_eq_self_iff] at trimmed ⊢
  intro nonempty
  have longer := Nat.lt_of_lt_of_le nonempty initial.length_le
  rw [initial.getElem nonempty]
  exact trimmed longer

theorem trimList_trimList (cs : List Char) : trimList (trimList cs) = trimList cs := by
  have front := dropWhile_rdropWhile (List.dropWhile_idempotent isWhitespace cs)
  rw [trimList_eq_rdropWhile, trimList_eq_rdropWhile, front, List.rdropWhile_idempotent]

@[simp] theorem trim_trim (value : String) : trim (trim value) = trim value := by
  simp only [trim, String.toList_ofList, trimList_trimList]

@[simp] theorem trim_empty : trim "" = "" := by decide

theorem trimList_eq_nil_iff {cs : List Char} :
    trimList cs = [] ↔ ∀ c ∈ cs, isWhitespace c = true := by
  rw [trimList_eq_rdropWhile, List.rdropWhile_eq_nil_iff]
  constructor
  · intro blank
    have none : (cs.dropWhile isWhitespace).dropWhile isWhitespace = [] :=
      List.dropWhile_eq_nil_iff.2 blank
    rw [List.dropWhile_idempotent] at none
    exact List.dropWhile_eq_nil_iff.1 none
  · intro blank c mem
    exact blank c (List.dropWhile_sublist _ |>.subset mem)

/-- Trimming loses no character that is not white space. -/
theorem countP_trimList {p : Char → Bool} (solid : ∀ c, isWhitespace c = true → ¬ p c = true)
    (cs : List Char) : (trimList cs).countP p = cs.countP p := by
  have front : ∀ cs : List Char, (cs.dropWhile isWhitespace).countP p = cs.countP p := by
    intro cs
    induction cs with
    | nil => rfl
    | cons c rest ih =>
        by_cases blank : isWhitespace c = true
        · rw [List.dropWhile_cons_of_pos blank, ih, List.countP_cons_of_neg (solid c blank)]
        · rw [List.dropWhile_cons_of_neg blank]
  unfold trimList
  rw [List.countP_reverse, front, List.countP_reverse, front]

theorem trim_eq_empty_iff {value : String} : trim value = "" ↔ trimList value.toList = [] := by
  unfold trim
  rw [← String.toList_inj, String.toList_ofList]
  rfl

theorem trim_eq_self {value : String} (unblank : ∀ c ∈ value.toList, isWhitespace c = false) :
    trim value = value := by
  have front : value.toList.dropWhile isWhitespace = value.toList := by
    rw [List.dropWhile_eq_self_iff]
    intro nonempty
    exact Bool.eq_false_iff.1 (unblank _ (List.getElem_mem nonempty))
  have back : value.toList.rdropWhile isWhitespace = value.toList := by
    rw [List.rdropWhile_eq_self_iff]
    intro nonempty
    exact Bool.eq_false_iff.1 (unblank _ (List.getLast_mem nonempty))
  unfold trim
  rw [trimList_eq_rdropWhile, front, back, String.ofList_toList]

/-- `value.startsWith(start)` -/
def startsWith (value start : String) : Bool := start.toList.isPrefixOf value.toList

/-- `value.endsWith(stop)` -/
def endsWith (value stop : String) : Bool := stop.toList.isSuffixOf value.toList

/-- `value.includes(part)`, on characters. -/
def includesList (part : List Char) : List Char → Bool
  | [] => part.isEmpty
  | c :: rest => part.isPrefixOf (c :: rest) || includesList part rest

def includes (value part : String) : Bool := includesList part.toList value.toList

/-- `value.split(separator)` for a separator of one character. -/
def split (separator : Char) (value : String) : List String :=
  (value.toList.splitOn separator).map String.ofList

/-- `value.slice(1, -1)` of a text whose first and last characters are single code units. -/
def dropEnds (value : String) : String := String.ofList (value.toList.drop 1).dropLast

/-- `value.slice(0, -1)` of a text whose last character is a single code unit. -/
def dropLast (value : String) : String := String.ofList value.toList.dropLast

/-- `value.replace(/\s+/g, " ")`; the flag tells that the character before was white space. -/
def collapseList : Bool → List Char → List Char
  | _, [] => []
  | inside, c :: rest =>
      if isWhitespace c then
        if inside then collapseList true rest else ' ' :: collapseList true rest
      else c :: collapseList false rest

def collapseWhitespace (value : String) : String :=
  String.ofList (collapseList false value.toList)

/-- The code units of one character. -/
def units (c : Char) : Nat := if 0x10000 ≤ c.toNat then 2 else 1

/-- The text in UTF-16. -/
def codeUnits (value : String) : List Nat :=
  value.toList.flatMap fun c =>
    if c.toNat < 0x10000 then [c.toNat]
    else [0xD800 + (c.toNat - 0x10000) / 0x400, 0xDC00 + (c.toNat - 0x10000) % 0x400]

theorem codeUnits_eq {value : String} (plain : ∀ c ∈ value.toList, c.toNat < 0x10000) :
    codeUnits value = value.toList.map Char.toNat := by
  unfold codeUnits
  rw [← List.flatMap_singleton' (value.toList.map Char.toNat), List.flatMap_map]
  refine List.flatMap_congr fun c mem => ?_
  rw [if_pos (plain c mem)]

/-- What half of a pair of code units is here: like the half it is one unit, which no pattern takes
for a letter or white space, and encoders write it for the half. -/
def halfPair : Char := '\uFFFD'

/-- `value.slice(0, limit)`, in UTF-16 code units. -/
def takeUnits : Nat → List Char → List Char
  | _, [] => []
  | 0, _ => []
  | limit + 1, c :: rest =>
      if units c ≤ limit + 1 then c :: takeUnits (limit + 1 - units c) rest else [halfPair]

theorem units_pos (c : Char) : 0 < units c := by
  unfold units
  split <;> omega

theorem mem_takeUnits {limit : Nat} {cs : List Char} {c : Char} (mem : c ∈ takeUnits limit cs) :
    c ∈ cs ∨ c = halfPair := by
  induction cs generalizing limit with
  | nil =>
      rw [takeUnits] at mem
      cases mem
  | cons first rest ih =>
      cases limit with
      | zero =>
          rw [takeUnits] at mem
          · cases mem
          · exact List.cons_ne_nil _ _
      | succ limit =>
          rw [takeUnits] at mem
          split at mem
          · rcases List.mem_cons.1 mem with rfl | mem
            · exact .inl List.mem_cons_self
            · exact (ih mem).imp_left (List.mem_cons_of_mem first)
          · exact .inr (List.mem_singleton.1 mem)

theorem length_cons (c : Char) (rest : List Char) :
    length (String.ofList (c :: rest)) = units c + length (String.ofList rest) := by
  have shift : ∀ (counts : List Nat) (start : Nat),
      counts.foldl (· + ·) start = start + counts.foldl (· + ·) 0 := by
    intro counts
    induction counts with
    | nil => intro start; rfl
    | cons count counts ih =>
        intro start
        rw [List.foldl_cons, List.foldl_cons, ih, ih (0 + count)]
        omega
  unfold length
  rw [String.toList_ofList, String.toList_ofList, List.map_cons, List.foldl_cons, shift, units]
  omega

theorem length_takeUnits (limit : Nat) (cs : List Char) :
    length (String.ofList (takeUnits limit cs)) = min limit (length (String.ofList cs)) := by
  induction cs generalizing limit with
  | nil =>
      rw [takeUnits]
      exact (Nat.min_zero limit).symm
  | cons c rest ih =>
      rw [length_cons]
      cases limit with
      | zero =>
          rw [takeUnits, Nat.zero_min]
          · rfl
          · exact List.cons_ne_nil _ _
      | succ limit =>
          have unit := units_pos c
          rw [takeUnits]
          split
          · rw [length_cons, ih]
            omega
          · rename_i half
            have two : units c ≤ 2 := by
              unfold units
              split <;> omega
            have one : length (String.ofList [halfPair]) = 1 := by decide
            rw [one]
            omega

theorem takeUnits_eq_self_iff {limit : Nat} {cs : List Char} :
    takeUnits limit cs = cs ↔ length (String.ofList cs) ≤ limit := by
  constructor
  · intro same
    have length := length_takeUnits limit cs
    rw [same] at length
    omega
  · intro fits
    induction cs generalizing limit with
    | nil => rw [takeUnits]
    | cons c rest ih =>
        have unit := units_pos c
        rw [length_cons] at fits
        cases limit with
        | zero => omega
        | succ limit =>
            rw [takeUnits, if_pos (by omega), ih (by omega)]

/-- The value of a digit in a radix up to sixteen. -/
def digitValue (radix : Nat) (c : Char) : Option Nat :=
  let n := c.toNat
  let value :=
    if '0'.toNat ≤ n ∧ n ≤ '9'.toNat then some (n - '0'.toNat)
    else if 'a'.toNat ≤ n ∧ n ≤ 'f'.toNat then some (n - 'a'.toNat + 10)
    else if 'A'.toNat ≤ n ∧ n ≤ 'F'.toNat then some (n - 'A'.toNat + 10)
    else none
  value.filter (· < radix)

/-- The number a digit string denotes; `none` when there is no digit or another character. -/
def readDigits (radix : Nat) (cs : List Char) : Option Nat :=
  if cs.isEmpty then none
  else cs.foldlM (fun acc c => (digitValue radix c).map (radix * acc + ·)) 0

/-- `BigInt(value)`, `none` where it throws a `SyntaxError`. -/
def bigInt (value : String) : Option Int :=
  match trimList value.toList with
  | [] => some 0
  | '0' :: 'x' :: digits | '0' :: 'X' :: digits => (readDigits 16 digits).map Int.ofNat
  | '0' :: 'o' :: digits | '0' :: 'O' :: digits => (readDigits 8 digits).map Int.ofNat
  | '0' :: 'b' :: digits | '0' :: 'B' :: digits => (readDigits 2 digits).map Int.ofNat
  | '+' :: digits => (readDigits 10 digits).map Int.ofNat
  | '-' :: digits => (readDigits 10 digits).map fun n => -Int.ofNat n
  | digits => (readDigits 10 digits).map Int.ofNat

/-- `Number.parseInt(value, 10)`: a sign and the digits that follow, `none` for `NaN`. -/
def parseInt10 (value : String) : Option Int :=
  match value.toList.dropWhile isWhitespace with
  | '-' :: rest => (readDigits 10 (rest.takeWhile Char.isDigit)).map fun n => -Int.ofNat n
  | '+' :: rest => (readDigits 10 (rest.takeWhile Char.isDigit)).map Int.ofNat
  | rest => (readDigits 10 (rest.takeWhile Char.isDigit)).map Int.ofNat

example : parseInt10 "7" = some 7 ∧ parseInt10 "3x" = some 3 ∧ parseInt10 "x" = none := by decide

theorem digitValue_of_isDigit {c : Char} (digit : c.isDigit = true) :
    digitValue 10 c = some (c.toNat - '0'.toNat) := by
  have bounds := Char.isDigit_iff_toNat.1 digit
  have small : c.toNat - '0'.toNat < 10 := by
    have upper : c.toNat ≤ 57 := bounds.2
    have base : '0'.toNat = 48 := rfl
    omega
  simp only [digitValue, bounds.1, bounds.2, and_self, if_true, Option.filter_some, small,
    decide_true]

theorem readDigits_of_isDigit {cs : List Char} (digits : ∀ c ∈ cs, c.isDigit = true)
    (nonempty : cs ≠ []) : readDigits 10 cs = some (Nat.ofDigitChars 10 cs 0) := by
  have loop : ∀ (cs : List Char) (acc : Nat), (∀ c ∈ cs, c.isDigit = true) →
      cs.foldlM (fun acc c => (digitValue 10 c).map (10 * acc + ·)) acc =
        some (Nat.ofDigitChars 10 cs acc) := by
    intro cs
    induction cs with
    | nil => intro acc _; rfl
    | cons c rest ih =>
        intro acc digits
        rw [List.foldlM_cons, digitValue_of_isDigit (digits c (by simp)), Nat.ofDigitChars_cons]
        exact ih _ fun c' found => digits c' (List.mem_cons_of_mem c found)
  have isEmpty : cs.isEmpty = false := by simpa using nonempty
  simp only [readDigits, isEmpty, Bool.false_eq_true, if_false]
  exact loop cs 0 digits

theorem isWhitespace_of_isDigit {c : Char} (digit : c.isDigit = true) : isWhitespace c = false := by
  have bounds : 48 ≤ c.toNat ∧ c.toNat ≤ 57 := Char.isDigit_iff_toNat.1 digit
  simp only [isWhitespace, Bool.or_eq_false_iff, Bool.and_eq_false_iff, beq_eq_false_iff_ne,
    decide_eq_false_iff_not]
  omega

/-- A number that is not negative reads back from its decimal digits. -/
theorem parseInt10_toString (n : Nat) : parseInt10 (toString (n : Int)) = some (n : Int) := by
  have text : (toString (n : Int)).toList = Nat.toDigits 10 n := Nat.toList_repr
  have digits : ∀ c ∈ Nat.toDigits 10 n, c.isDigit = true :=
    fun c found => Nat.isDigit_of_mem_toDigits (by decide) (by decide) found
  have read := readDigits_of_isDigit digits Nat.toDigits_ne_nil
  rcases shape : Nat.toDigits 10 n with _ | ⟨c, rest⟩
  · exact absurd shape Nat.toDigits_ne_nil
  · rw [shape] at text digits read
    have first := digits c (by simp)
    have whole : (c :: rest).takeWhile Char.isDigit = c :: rest :=
      List.takeWhile_eq_self_iff.2 digits
    have unsigned : c ≠ '-' ∧ c ≠ '+' := by
      constructor
      · rintro rfl
        simp at first
      · rintro rfl
        simp at first
    have value : Nat.ofDigitChars 10 (c :: rest) 0 = n := by
      rw [← shape, Nat.ofDigitChars_ten_toDigits]
    unfold parseInt10
    rw [text, List.dropWhile_cons_of_neg (by simp [isWhitespace_of_isDigit first])]
    split
    · rename_i same
      exact absurd (List.cons.inj same).1 unsigned.1
    · rename_i same
      exact absurd (List.cons.inj same).1 unsigned.2
    · rw [whole, read, value]
      rfl

example : bigInt " 42 " = some 42 ∧ bigInt "-0" = some 0 ∧ bigInt "1.5" = none ∧
    bigInt "0x1F" = some 31 := by decide

end RisingIntelligence.Js

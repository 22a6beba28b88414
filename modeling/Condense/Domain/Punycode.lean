import Condense.Text.Basic

/-!
# Names in ASCII

A text as ASCII letters, digits and hyphens: its ASCII characters first, and behind a hyphen the
numbers that say which other characters to insert, in the order of their code points, and where. A
number is written with digits to base 36, of which the first one below a threshold is the last; the
thresholds adapt to the size of the numbers. This is Punycode, with the parameters that it has for
host names.
-/

namespace Condense.Domain.Punycode

/-- The number of digits. -/
def base : Nat := 36

/-- The first code point that is not ASCII. -/
def firstInserted : Nat := 0x80

def firstBias : Nat := 72

/-- The threshold of the digit at a place, which counts in steps of the base. -/
def threshold (place bias : Nat) : Nat := max 1 (min 26 (place - bias))

theorem threshold_pos (place bias : Nat) : 0 < threshold place bias := by
  unfold threshold
  omega

/-- Divides by 35 until at most 455 is left, and counts the divisions in steps of the base. -/
def scaleDown (delta steps : Nat) : Nat × Nat :=
  if 455 < delta then scaleDown (delta / 35) (steps + base) else (delta, steps)
termination_by delta

/-- The bias behind a number, where so many characters are in place. -/
def adapt (delta : Nat) (isFirst : Bool) (count : Nat) : Nat :=
  let delta := if isFirst then delta / 700 else delta / 2
  let (delta, steps) := scaleDown (delta + delta / count) 0
  steps + base * delta / (delta + 38)

def digitChar (value : Nat) : Char :=
  if value < 26 then Char.ofNat ('a'.toNat + value) else Char.ofNat ('0'.toNat + (value - 26))

/-- The value of a digit, whatever its case. -/
def digitValue? (c : Char) : Option Nat :=
  if 'a' ≤ c && c ≤ 'z' then some (c.toNat - 'a'.toNat)
  else if 'A' ≤ c && c ≤ 'Z' then some (c.toNat - 'A'.toNat)
  else if c.isDigit then some (c.toNat - '0'.toNat + 26)
  else none

def writeNumber (place bias n : Nat) : List Char :=
  if n < threshold place bias then [digitChar n]
  else
    let t := threshold place bias
    digitChar (t + (n - t) % (base - t)) :: writeNumber (place + base) bias ((n - t) / (base - t))
termination_by n
decreasing_by
  have := threshold_pos place bias
  have := Nat.div_le_self (n - threshold place bias) (base - threshold place bias)
  omega

/-- How far the writing of the insertions has come. -/
structure Progress where
  /-- What the next number amounts to so far. -/
  delta : Nat := 0
  bias : Nat := firstBias
  /-- The characters that are in place. -/
  count : Nat
  /-- No number was written yet. -/
  isFirst : Bool := true
  written : List Char := []

namespace Progress

/-- Passes one character of the text while the insertions of a code point are written. -/
def pass (code : Nat) (progress : Progress) (c : Nat) : Progress :=
  if c < code then { progress with delta := progress.delta + 1 }
  else if c == code then
    { delta := 0
      bias := adapt progress.delta progress.isFirst (progress.count + 1)
      count := progress.count + 1
      isFirst := false
      written := progress.written ++ writeNumber base progress.bias progress.delta }
  else progress

/-- Writes the insertions of the code points, of which `earlier` was the last one before. -/
def writeAll (text : List Nat) (progress : Progress) (earlier : Nat) : List Nat → Progress
  | [] => progress
  | code :: rest =>
    let skipped := (code - earlier) * (progress.count + 1)
    let passed := text.foldl (pass code) { progress with delta := progress.delta + skipped }
    writeAll text { passed with delta := passed.delta + 1 } (code + 1) rest

end Progress

def encode (t : Text) : List Char :=
  let codes := t.map CodePoint.code
  let basic := codes.filter (· < firstInserted)
  let others := ((codes.filter (firstInserted ≤ ·)).mergeSort (· ≤ ·)).eraseDups
  let progress := Progress.writeAll codes { count := basic.length } firstInserted others
  (if basic.isEmpty then [] else basic.map Char.ofNat ++ ['-']) ++ progress.written

/-- The number at the front of some digits, and what follows it. -/
def readNumber? (bias : Nat) : (place weight n : Nat) → List Char → Option (Nat × List Char)
  | _, _, _, [] => none
  | place, weight, n, c :: cs =>
    match digitValue? c with
    | none => none
    | some digit =>
      let n := n + digit * weight
      if digit < threshold place bias then some (n, cs)
      else readNumber? bias (place + base) (weight * (base - threshold place bias)) n cs

/-- Inserts the characters that the numbers stand for. The number of digits bounds how many there
are; `index` is where the next one may stand at the earliest. -/
def insertAll? : (fuel code index bias : Nat) → (isFirst : Bool) → List Nat → List Char →
    Option (List Nat)
  | _, _, _, _, _, text, [] => some text
  | 0, _, _, _, _, _, _ => none
  | fuel + 1, code, index, bias, isFirst, text, digits =>
    match readNumber? bias base 1 0 digits with
    | none => none
    | some (delta, rest) =>
      let places := text.length + 1
      let code := code + (index + delta) / places
      let index := (index + delta) % places
      let text := text.take index ++ code :: text.drop index
      if 0x10FFFF < code then none
      else insertAll? fuel code (index + 1) (adapt delta isFirst places) false text rest

/-- The ASCII characters of the text in front of the last hyphen, and the digits behind it. A hyphen
that follows nothing separates nothing. -/
def parted (cs : List Char) : List Char × List Char :=
  match cs.reverse.span (· != '-') with
  | (digits, _ :: last :: basic) => ((last :: basic).reverse, digits.reverse)
  | _ => ([], cs)

/-- The text that some ASCII characters stand for. -/
def decode? (cs : List Char) : Option Text :=
  let (basic, digits) := parted cs
  (insertAll? digits.length firstInserted 0 firstBias true (basic.map Char.toNat) digits).map
    (·.map CodePoint.ofCode)

end Condense.Domain.Punycode

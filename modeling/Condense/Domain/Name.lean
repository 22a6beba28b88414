import Condense.Domain.Label
import Condense.Domain.Punycode
import Condense.Text.Case

/-!
# Host names

An international host name in ASCII, label by label: a label that is not ASCII becomes the A-label
that IDNA 2008 gives it. Names and labels are no longer than the domain name system allows, and four
characters count as dots.
-/

namespace Condense.Domain

def longestLabel : Nat := 63

/-- What a label in ASCII begins with that stands for another text. -/
def encodedStart : List Char := ['x', 'n', '-', '-']

/-- The characters that separate labels. -/
def isDot (c : Char) : Bool :=
  c == '.' || c.toNat == 0x3002 || c.toNat == 0xFF0E || c.toNat == 0xFF61

def labels : Text → List Text
  | [] => [[]]
  | p :: rest =>
    match labels rest with
    | label :: others => if p.is isDot then [] :: label :: others else (p :: label) :: others
    | [] => [[p]]

/-- The label that ASCII characters stand for, if it is one. -/
def isEncodedLabel (cs : List Char) : Bool :=
  !cs.isEmpty && cs.getLast? != some '-' && (Punycode.decode? cs).any isLabel

def isAsciiLabel (cs : List Char) : Bool :=
  if encodedStart.isPrefixOf cs then isEncodedLabel (cs.drop encodedStart.length)
  else isLabel (Text.ofChars cs)

def encodeLabel? (label : Text) : Option (List Char) :=
  match label.chars? with
  | none => none
  | some cs =>
    if cs.all fun c => c.toNat < 0x80 then
      if isAsciiLabel cs && cs.length ≤ longestLabel then some cs else none
    else
      let encoded := encodedStart ++ Punycode.encode label
      if isLabel label && encoded.length ≤ longestLabel then some encoded else none

/-- A name in lower case in ASCII. A dot at its end stays and does not count. -/
def encode? (name : Text) : Option (List Char) :=
  let parts := labels name
  let isOpen := parts.length == 1 || parts.getLast?.any fun label => !label.isEmpty
  match (if isOpen then parts else parts.dropLast).mapM encodeLabel? with
  | none => none
  | some parts =>
    let encoded := ['.'].intercalate (if isOpen then parts else parts ++ [[]])
    let limit := if isOpen then longestName - 1 else longestName
    if name.length ≤ longestName && encoded.length ≤ limit then some encoded else none

def decodeLabel (label : Text) : Text :=
  match label.chars? with
  | some cs =>
    if encodedStart.isPrefixOf cs then
      (Punycode.decode? (cs.drop encodedStart.length)).getD label
    else label
  | none => label

/-- The name that a readable name in ASCII stands for. -/
def decode (name : Text) : Text := Text.join "." ((labels (Text.lower name)).map decodeLabel)

/-- Every label of a name in ASCII is one or stands for one. -/
def isReadable (name : Text) : Bool :=
  let parts := labels (Text.lower name)
  let isOpen := parts.length == 1 || parts.getLast?.any fun label => !label.isEmpty
  name.length ≤ longestName && (if isOpen then parts else parts.dropLast).all fun label =>
    label.chars?.any isAsciiLabel

end Condense.Domain

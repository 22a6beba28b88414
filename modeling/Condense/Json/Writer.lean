import Condense.Text.Hex
import Condense.Value.Depth
import Condense.Value.Literal

/-!
# Writing documents

Three styles: one line with all characters as they are, one line in ASCII, and indented lines in
ASCII. Every function puts its text in front of another one, so that a long document is written in
one pass. Bytes and integers beyond the digit limit have no form in a document; `write` refuses them
and `render` shows their literal.
-/

namespace Condense.Json

/-- How a document is laid out. -/
structure Style where
  ascii : Bool
  indented : Bool

/-- One line, characters as they are. -/
def Style.inline : Style := ⟨false, false⟩

/-- One line, ASCII only. -/
def Style.line : Style := ⟨true, false⟩

/-- Two spaces of indentation for each level, ASCII only. -/
def Style.file : Style := ⟨true, true⟩

/-- A code unit by its four hexadecimal digits. -/
def unitEscape (unit : Nat) : Text := Text.ofChars ('\\' :: 'u' :: Text.hex 4 unit)

def pointEscape (p : CodePoint) : Text :=
  if p.code < 0x10000 then unitEscape p.code
  else
    let offset := p.code - 0x10000
    unitEscape (0xD800 + offset / 0x400) ++ unitEscape (0xDC00 + offset % 0x400)

def escapePoint (style : Style) (p : CodePoint) : Text :=
  if p == .char '"' then "\\\""
  else if p == .char '\\' then "\\\\"
  else if p == .char '\n' then "\\n"
  else if p == .char '\r' then "\\r"
  else if p == .char '\t' then "\\t"
  else if p.code == 8 then "\\b"
  else if p.code == 12 then "\\f"
  else if p.code < 0x20 || (style.ascii && 0x7F ≤ p.code) then pointEscape p
  else [p]

def renderText (style : Style) (t after : Text) : Text :=
  .char '"' :: t.foldr (fun p rest => escapePoint style p ++ rest) (.char '"' :: after)

def truthName (b : Bool) : String := if b then "true" else "false"

/-- The name of a member. -/
def keyText : Key → Text
  | .null => "null"
  | .bool b => truthName b
  | .int n => integerText n
  | .real x => Text.ofChars (Layout.document.chars x)
  | .text t => t

/-- What stands in front of an item or of the closing bracket, at a level of indentation. -/
def gap (style : Style) (depth : Nat) : Text :=
  if style.indented then .char '\n' :: List.replicate (2 * depth) (.char ' ') else []

/-- What stands between two items. -/
def comma (style : Style) (depth : Nat) : Text :=
  if style.indented then .char ',' :: gap style depth else ", "

mutual

/-- A value at a level of indentation, in front of a text. -/
def renderOnto (style : Style) (depth : Nat) (after : Text) : Value → Text
  | .null => "null" ++ after
  | .bool b => truthName b ++ after
  | .int n => integerText n ++ after
  | .real x => Text.ofChars (Layout.document.chars x) ++ after
  | .text t => renderText style t after
  | .bytes octets => renderText style (Text.quotedBytes octets) after
  | .list [] => "[]" ++ after
  | .list (v :: vs) => .char '[' :: (gap style (depth + 1) ++
      renderOnto style (depth + 1)
        (renderItems style (depth + 1) (gap style depth ++ .char ']' :: after) vs) v)
  | .dict [] => "\x7b\x7d" ++ after
  | .dict ((k, v) :: rest) => .char '\x7b' :: (gap style (depth + 1) ++
      renderText style (keyText k) (": " ++ renderOnto style (depth + 1)
        (renderMembers style (depth + 1) (gap style depth ++ .char '\x7d' :: after) rest) v))

/-- The further items of a list, each behind a comma, in front of a text. -/
def renderItems (style : Style) (depth : Nat) (after : Text) : List Value → Text
  | [] => after
  | v :: vs =>
    comma style depth ++ renderOnto style depth (renderItems style depth after vs) v

/-- The further members of a dictionary, each behind a comma, in front of a text. -/
def renderMembers (style : Style) (depth : Nat) (after : Text) : List (Key × Value) → Text
  | [] => after
  | (k, v) :: rest =>
    comma style depth ++ renderText style (keyText k)
      (": " ++ renderOnto style depth (renderMembers style depth after rest) v)

end

def render (style : Style) (v : Value) : Text := renderOnto style 0 [] v

/-- Why a value has no form in a document. -/
inductive Unwritable where
  | bytes
  | tooManyDigits
  | tooDeep
  deriving DecidableEq, Repr

def Unwritable.message : Unwritable → Text
  | .bytes => "Object of type bytes is not JSON serializable"
  | .tooManyDigits => overlongMessage
  | .tooDeep => TooDeep.following.message

/-- Integers have a text only up to a number of digits. -/
def digitsObstacle? (n : Int) : Option Unwritable :=
  if isOverlong n then some .tooManyDigits else none

/-- Why the name of a member cannot be written. -/
def keyObstacle? : Key → Option Unwritable
  | .int n => digitsObstacle? n
  | _ => none

mutual

/-- The first thing in a value that cannot be written: bytes, an integer with too many digits, or a
bracket beyond those that may still be opened. -/
def obstacle? (room : Nat) : Value → Option Unwritable
  | .int n => digitsObstacle? n
  | .bytes _ => some .bytes
  | .list items => if room = 0 then some .tooDeep else itemsObstacle? (room - 1) items
  | .dict members => if room = 0 then some .tooDeep else membersObstacle? (room - 1) members
  | _ => none

/-- The first thing in the items that cannot be written. -/
def itemsObstacle? (room : Nat) : List Value → Option Unwritable
  | [] => none
  | v :: vs => (obstacle? room v).or (itemsObstacle? room vs)

/-- The first thing in the members that cannot be written. -/
def membersObstacle? (room : Nat) : List (Key × Value) → Option Unwritable
  | [] => none
  | (k, v) :: rest => ((keyObstacle? k).or (obstacle? room v)).or (membersObstacle? room rest)

end

def write (v : Value) : Except Unwritable Text :=
  match obstacle? depthLimit v with
  | some why => .error why
  | none => .ok (render .file v)

end Condense.Json

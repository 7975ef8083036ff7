import ConnectionUri.Value.Basic

/-!
# Reading JSON

The reader keeps the order of members and tells integers from other numbers. A repeated member
takes its last value at its first place. The three number words `NaN`, `Infinity` and `-Infinity`
are read too. A surrogate that stands alone is refused, and so is an integer of too many digits.
Lists and mappings nest up to a fixed depth.
-/

set_option autoImplicit false

namespace ConnectionUri.Json

/-- The two kinds of values that hold values. -/
inductive Container where
  | list
  | mapping
  deriving DecidableEq

/-- Why a text is not read: it is malformed, or a container comes too deep before anything malformed
does. -/
inductive ReadError where
  | malformed
  | tooDeep (container : Container)
  deriving DecidableEq

def required {α : Type} : Option α → Except ReadError α
  | some value => .ok value
  | none => .error .malformed

/-- The greatest depth of nesting. -/
def depthLimit : Nat := 984

def isSpace (char : Char) : Bool :=
  char == ' ' || char == '\n' || char == '\r' || char == '\t'

/-- The text after white space. -/
def skipSpace (text : Text) : Text := text.dropWhile isSpace

/-- The value of four hexadecimal digits and the text after them. -/
def readHex4? : Text → Option (Nat × Text)
  | a :: b :: c :: d :: rest =>
    match Text.hexValue? a, Text.hexValue? b, Text.hexValue? c, Text.hexValue? d with
    | some a, some b, some c, some d => some (((a * 16 + b) * 16 + c) * 16 + d, rest)
    | _, _, _, _ => none
  | _ => none

def escapedChar? (char : Char) : Option Char :=
  if char = '\x22' then some '\x22'
  else if char = '\\' then some '\\'
  else if char = '/' then some '/'
  else if char = 'b' then some '\x08'
  else if char = 'f' then some '\x0c'
  else if char = 'n' then some '\n'
  else if char = 'r' then some '\r'
  else if char = 't' then some '\t'
  else none

def pairChar (high low : Nat) : Char :=
  Char.ofNat (0x10000 + (high - 0xD800) * 0x400 + (low - 0xDC00))

/-- Reads the inside of a string up to its closing quote; answers it with the text that follows.
A surrogate that stands alone is refused. -/
def readString? : Text → Option (Text × Text)
  | [] => none
  | '\x22' :: rest => some ([], rest)
  | '\\' :: 'u' :: a :: b :: c :: d :: rest =>
    match readHex4? [a, b, c, d] with
    | none => none
    | some (unit, _) =>
      if unit < 0xD800 ∨ 0xDFFF < unit then
        (readString? rest).map fun (text, after) => (Char.ofNat unit :: text, after)
      else if unit < 0xDC00 then
        match rest with
        | '\\' :: 'u' :: a :: b :: c :: d :: rest =>
          match readHex4? [a, b, c, d] with
          | some (low, _) =>
            if 0xDC00 ≤ low ∧ low ≤ 0xDFFF then
              (readString? rest).map fun (text, after) => (pairChar unit low :: text, after)
            else none
          | none => none
        | _ => none
      else none
  | '\\' :: char :: rest =>
    match escapedChar? char with
    | some escaped => (readString? rest).map fun (text, after) => (escaped :: text, after)
    | none => none
  | char :: rest =>
    if char = '\\' ∨ char.toNat < 0x20 then none
    else (readString? rest).map fun (text, after) => (char :: text, after)

/-- The decimal digits at the front of a text, and the text after them. -/
def digitsOf (text : Text) : Text × Text := text.span Char.isDigit

/-- The digits after a point, if a point and a digit come next. -/
def fractionOf (text : Text) : Option Text × Text :=
  match text with
  | '.' :: rest =>
    let (digits, after) := digitsOf rest
    if digits.isEmpty then (none, text) else (some digits, after)
  | _ => (none, text)

/-- The exponent of ten, if its letter and at least one digit come next. -/
def exponentOf (text : Text) : Option Int × Text :=
  match text with
  | letter :: rest =>
    if letter = 'e' ∨ letter = 'E' then
      let (negative, rest) :=
        match rest with
        | '-' :: rest => (true, rest)
        | '+' :: rest => (false, rest)
        | _ => (false, rest)
      let (digits, after) := digitsOf rest
      if digits.isEmpty then (none, text)
      else
        let size := Int.ofNat (Text.decimalValue digits)
        (some (if negative then -size else size), after)
    else (none, text)
  | [] => (none, text)

/-- Reads a number after its sign. Without a point and an exponent it is an integer. -/
def readNumber? (negative : Bool) (text : Text) : Option (Value × Text) :=
  let (whole, rest) :=
    match text with
    | '0' :: rest => (['0'], rest)
    | _ => digitsOf text
  if whole.isEmpty then none
  else
    let (fraction, rest) := fractionOf rest
    let (exponent, rest) := exponentOf rest
    if fraction.isNone && exponent.isNone then
      if whole.length > Text.digitLimit then none
      else
        let size := Int.ofNat (Text.decimalValue whole)
        some (.integer (if negative then -size else size), rest)
    else
      let places := fraction.getD []
      let power := exponent.getD 0 - Int.ofNat places.length
      some (.real (.ofDecimal negative (Text.decimalValue (whole ++ places)) power), rest)

def words : List (Text × Value) :=
  [("null".toList, .null), ("true".toList, .boolean true), ("false".toList, .boolean false),
   ("NaN".toList, .real .notANumber), ("Infinity".toList, .real (.infinite false)),
   ("-Infinity".toList, .real (.infinite true))]

def readWord? (text : Text) : Option (Value × Text) :=
  words.findSome? fun (word, value) => (Text.afterStart? word text).map (value, ·)

mutual

/-- Reads one value; `levels` more containers may be opened, and `fuel` bounds the number of nested
steps. -/
def readValue : Nat → Nat → Text → Except ReadError (Value × Text)
  | 0, _, _ => .error .malformed
  | fuel + 1, levels, text =>
    match skipSpace text with
    | '\x22' :: rest => (required (readString? rest)).map fun (text, after) => (.text text, after)
    | '[' :: rest =>
      match levels with
      | 0 => .error (.tooDeep .list)
      | levels + 1 =>
        match skipSpace rest with
        | ']' :: after => .ok (.list [], after)
        | rest => (readItems fuel levels rest).map fun (items, after) => (.list items, after)
    | '\x7b' :: rest =>
      match levels with
      | 0 => .error (.tooDeep .mapping)
      | levels + 1 =>
        match skipSpace rest with
        | '\x7d' :: after => .ok (.mapping [], after)
        | rest =>
          (readMembers fuel levels rest).map fun (members, after) =>
            (.mapping (Mapping.ofList members), after)
    | text =>
      match readWord? text with
      | some found => .ok found
      | none =>
        match text with
        | '-' :: rest => required (readNumber? true rest)
        | _ => required (readNumber? false text)

/-- Reads the items of a list up to its closing bracket. -/
def readItems : Nat → Nat → Text → Except ReadError (List Value × Text)
  | 0, _, _ => .error .malformed
  | fuel + 1, levels, text =>
    match readValue fuel levels text with
    | .error error => .error error
    | .ok (item, rest) =>
      match skipSpace rest with
      | ']' :: after => .ok ([item], after)
      | ',' :: rest => (readItems fuel levels rest).map fun (items, after) => (item :: items, after)
      | _ => .error .malformed

/-- Reads the members of a mapping up to its closing brace. -/
def readMembers : Nat → Nat → Text → Except ReadError (List (Text × Value) × Text)
  | 0, _, _ => .error .malformed
  | fuel + 1, levels, text =>
    match skipSpace text with
    | '\x22' :: rest =>
      match readString? rest with
      | none => .error .malformed
      | some (name, rest) =>
        match skipSpace rest with
        | ':' :: rest =>
          match readValue fuel levels rest with
          | .error error => .error error
          | .ok (value, rest) =>
            match skipSpace rest with
            | '\x7d' :: after => .ok ([(name, value)], after)
            | ',' :: rest =>
              (readMembers fuel levels rest).map fun (members, after) =>
                ((name, value) :: members, after)
            | _ => .error .malformed
        | _ => .error .malformed
    | _ => .error .malformed

end

/-- Reads a whole text as one value with nothing but white space around it. -/
def read (text : Text) : Except ReadError Value :=
  match readValue (2 * text.length + 2) depthLimit text with
  | .ok (value, rest) => if (skipSpace rest).isEmpty then .ok value else .error .malformed
  | .error error => .error error

/-- The value of a text, if it is one. -/
def parse? (text : Text) : Option Value := (read text).toOption

end ConnectionUri.Json

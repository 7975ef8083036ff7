import ConnectionUri.Log.Conversion
import ConnectionUri.Log.Record

/-!
# Message templates

A template is running text with conversions. A conversion is a percent sign, an optional key in
parentheses, flags, a width, a precision and a letter. Arguments are taken in order, or by key when
the only argument is a mapping that is not empty. Without arguments a template stands for itself.
-/

set_option autoImplicit false

namespace ConnectionUri.Log

namespace Template

/-- The arguments that are still to be taken: a row of them, or one that is taken at most once. -/
inductive Pending where
  | row (values : List Value)
  | single (value : Option Value)

/-- The arguments of a template. -/
structure Supply where
  entries : Option Mapping
  pending : Pending

/-- The supply of a list of arguments. A mapping on its own is looked up by key, unless it is
empty. -/
def Supply.ofArguments : List Value → Supply
  | [.mapping (entry :: rest)] =>
    ⟨some (entry :: rest), .single (some (.mapping (entry :: rest)))⟩
  | values => ⟨none, .row values⟩

def Supply.next (supply : Supply) : Except FormatError (Value × Supply) :=
  match supply.pending with
  | .row (value :: rest) => .ok (value, { supply with pending := .row rest })
  | .single (some value) => .ok (value, { supply with pending := .single none })
  | .row [] | .single none => .error .tooFewArguments

/-- Looks up a key; its value is the next argument. -/
def Supply.select (supply : Supply) (key : Text) : Except FormatError Supply :=
  match supply.entries with
  | none => .error .needsMapping
  | some entries =>
    match Mapping.get? key entries with
    | some value => .ok { supply with pending := .single (some value) }
    | none => .error (.missingKey key)

def Supply.hasLeftover (supply : Supply) : Bool :=
  match supply.entries, supply.pending with
  | none, .row (_ :: _) => true
  | _, _ => false

def isFlag (char : Char) : Bool := ['-', '+', ' ', '#', '0'].contains char

/-- Reads a key up to the parenthesis that closes it; parentheses inside are balanced. -/
def readKey? : Nat → Text → Option (Text × Text)
  | _, [] => none
  | depth, char :: rest =>
    if char = ')' then
      match depth with
      | 0 => some ([], rest)
      | depth + 1 => (readKey? depth rest).map fun (key, after) => (')' :: key, after)
    else if char = '(' then
      (readKey? (depth + 1) rest).map fun (key, after) => ('(' :: key, after)
    else (readKey? depth rest).map fun (key, after) => (char :: key, after)

/-- The greatest width. -/
def widthLimit : Nat := Nat.pow 2 63 - 1

/-- The greatest precision. -/
def precisionLimit : Nat := Nat.pow 2 31 - 1

/-- The number of characters that a width asks for. The least width asks for none. -/
def widthSize (width : Int) : Nat := if width < -Int.ofNat widthLimit then 0 else width.natAbs

/-- The integer that an argument gives as a width or precision. -/
def countOf (limit : Nat) (target : Text) : Value → Except FormatError Int
  | .integer value =>
    if value > limit ∨ value < -(limit + 1) then .error (.countOverflow target) else .ok value
  | .boolean value => .ok (if value then 1 else 0)
  | _ => .error .countNotInteger

/-- Reads a width or precision: a star that takes an argument, digits, or nothing. -/
def readCount (limit : Nat) (target : Text) (tooBig : FormatError) (supply : Supply)
    (text : Text) : Except FormatError (Option Int × Supply × Text) :=
  match text with
  | '*' :: rest => do
    let (value, supply) ← supply.next
    let count ← countOf limit target value
    pure (some count, supply, rest)
  | _ =>
    let (digits, rest) := text.span Char.isDigit
    if digits.isEmpty then .ok (none, supply, text)
    else
      let count := Text.decimalValue digits
      if count > limit then .error tooBig else .ok (some (Int.ofNat count), supply, rest)

/-- Reads the precision after a point; a point alone stands for zero, and so does a negative
argument. -/
def readPrecision (supply : Supply) (text : Text) :
    Except FormatError (Option Nat × Supply × Text) :=
  match text with
  | '.' :: rest => do
    let (count, supply, rest) ← readCount precisionLimit "int".toList .precisionTooBig supply rest
    pure (some (count.getD 0).toNat, supply, rest)
  | _ => .ok (none, supply, text)

/-- The text after a length letter, which means nothing. -/
def skipLength : Text → Text
  | 'h' :: rest => rest
  | 'l' :: rest => rest
  | 'L' :: rest => rest
  | text => text

/-- Reads everything between the percent sign and the conversion letter. -/
def readLayout (supply : Supply) (text : Text) : Except FormatError (Layout × Supply × Text) := do
  let (supply, text) ←
    match text with
    | '(' :: rest =>
      match supply.entries with
      | none => .error .needsMapping
      | some _ =>
        match readKey? 0 rest with
        | none => .error .incompleteKey
        | some (key, rest) => do
          let supply ← supply.select key
          pure (supply, rest)
    | _ => pure (supply, text)
  let (flags, text) := text.span isFlag
  let (width, supply, text) ← readCount widthLimit "ssize_t".toList .widthTooBig supply text
  let (precision, supply, text) ← readPrecision supply text
  let width := width.getD 0
  pure ({
    leftAligned := flags.contains '-' || decide (width < 0)
    plusSign := flags.contains '+'
    blankSign := flags.contains ' '
    alternate := flags.contains '#'
    zeroFilled := flags.contains '0'
    width := widthSize width
    precision := precision }, supply, skipLength text)

/-- Fills in a template of `size` characters of which `text` is left; `fuel` is at least the length
of that rest. -/
def fillFrom (size : Nat) : Nat → Supply → Text → Except FormatError Text
  | 0, _, _ => .ok []
  | fuel + 1, supply, text =>
    match text with
    | [] => if supply.hasLeftover then .error .tooManyArguments else .ok []
    | '%' :: '%' :: rest => (fillFrom size fuel supply rest).map ('%' :: ·)
    | '%' :: rest => do
      let (layout, supply, rest) ← readLayout supply rest
      match rest with
      | [] => .error .incomplete
      | letter :: rest => do
        let (value, supply) ← supply.next
        let converted ← convert layout letter (size - rest.length - 1) value
        (fillFrom size fuel supply rest).map (converted ++ ·)
    | char :: rest => (fillFrom size fuel supply rest).map (char :: ·)

/-- The text of a template with its arguments filled in. -/
def fill (template : Text) (arguments : List Value) : Except FormatError Text :=
  if arguments.isEmpty then .ok template
  else fillFrom template.length (template.length + 1) (.ofArguments arguments) template

end Template

def Record.message (record : Record) : Except FormatError Text :=
  Template.fill record.template record.arguments

end ConnectionUri.Log

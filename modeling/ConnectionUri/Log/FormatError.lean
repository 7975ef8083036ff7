import ConnectionUri.Text.Quoted

/-!
# Formatting errors

Everything that can be wrong with a message template and its arguments, and the wording of each.
-/

set_option autoImplicit false

namespace ConnectionUri.Log

/-- Why a template cannot be filled in. -/
inductive FormatError where
  | incomplete
  | incompleteKey
  | needsMapping
  | missingKey (key : Text)
  | tooFewArguments
  | tooManyArguments
  | unknownConversion (letter : Char) (index : Nat)
  | countNotInteger
  | widthTooBig
  | precisionTooBig
  | precisionTooLarge
  | outOfMemory
  | countOverflow (target : Text)
  | notInteger (letter : Char) (typeName : Text)
  | notNumber (letter : Char) (typeName : Text)
  | notReal (typeName : Text)
  | realOverflow
  | infinityToInteger
  | nanToInteger
  | notCharacter
  | characterOutOfRange
  deriving DecidableEq

namespace FormatError

/-- The letter of an unknown conversion as it is shown; one outside a small range is not. -/
def shownLetter (letter : Char) : Char :=
  if 31 ≤ letter.toNat ∧ letter.toNat ≤ 126 then letter else '?'

def message : FormatError → Text
  | .incomplete => "incomplete format".toList
  | .incompleteKey => "incomplete format key".toList
  | .needsMapping => "format requires a mapping".toList
  | .missingKey key => Text.quoted key
  | .tooFewArguments => "not enough arguments for format string".toList
  | .tooManyArguments => "not all arguments converted during string formatting".toList
  | .unknownConversion letter index =>
    "unsupported format character '".toList ++ [shownLetter letter] ++ "' (0x".toList ++
      Text.ofNat 16 letter.toNat ++ ") at index ".toList ++ Text.decimal index
  | .countNotInteger => "* wants int".toList
  | .widthTooBig => "width too big".toList
  | .precisionTooBig => "precision too big".toList
  | .precisionTooLarge => "precision too large".toList
  | .outOfMemory => []
  | .countOverflow target => "Python int too large to convert to C ".toList ++ target
  | .notInteger letter typeName =>
    '%' :: letter :: " format: an integer is required, not ".toList ++ typeName
  | .notNumber letter typeName =>
    '%' :: letter :: " format: a real number is required, not ".toList ++ typeName
  | .notReal typeName => "must be real number, not ".toList ++ typeName
  | .realOverflow => "int too large to convert to float".toList
  | .infinityToInteger => "cannot convert float infinity to integer".toList
  | .nanToInteger => "cannot convert float NaN to integer".toList
  | .notCharacter => "%c requires int or char".toList
  | .characterOutOfRange => "%c arg not in range(0x110000)".toList

end FormatError

end ConnectionUri.Log

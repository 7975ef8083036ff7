import ConnectionUri.Text.Numeral

/-!
# Strict UTF-8

Bytes are read as characters in their shortest form only. Surrogates, overlong forms, code points
beyond the last one and sequences that are cut short are refused. `fault?` says where and why.
-/

set_option autoImplicit false

namespace ConnectionUri.Utf8

def isContinuation (byte : UInt8) : Bool := 0x80 ≤ byte && byte ≤ 0xBF

def isPair (first second : UInt8) : Bool :=
  0xC2 ≤ first && first ≤ 0xDF && isContinuation second

/-- Whether three bytes are a whole sequence, neither overlong nor a surrogate. -/
def isTriple (first second third : UInt8) : Bool :=
  0xE0 ≤ first && first ≤ 0xEF && isContinuation second && isContinuation third &&
    (first != 0xE0 || 0xA0 ≤ second) && (first != 0xED || second ≤ 0x9F)

/-- Whether four bytes are a whole sequence, neither overlong nor beyond the last code point. -/
def isQuadruple (first second third fourth : UInt8) : Bool :=
  0xF0 ≤ first && first ≤ 0xF4 && isContinuation second && isContinuation third &&
    isContinuation fourth && (first != 0xF0 || 0x90 ≤ second) && (first != 0xF4 || second ≤ 0x8F)

/-- The character of a sequence, from the bits that its leading byte adds and the continuations. -/
def charOf (lead : Nat) (continuations : List UInt8) : Char :=
  Char.ofNat (continuations.foldl (fun code byte => code * 64 + (byte.toNat - 0x80)) lead)

def decode? : List UInt8 → Option Text
  | [] => some []
  | first :: rest =>
    if first < 0x80 then (decode? rest).map (Char.ofNat first.toNat :: ·)
    else match rest with
      | [] => none
      | second :: rest =>
        if isPair first second then
          (decode? rest).map (charOf (first.toNat - 0xC0) [second] :: ·)
        else match rest with
          | [] => none
          | third :: rest =>
            if isTriple first second third then
              (decode? rest).map (charOf (first.toNat - 0xE0) [second, third] :: ·)
            else match rest with
              | [] => none
              | fourth :: rest =>
                if isQuadruple first second third fourth then
                  (decode? rest).map (charOf (first.toNat - 0xF0) [second, third, fourth] :: ·)
                else none

/-- Why a sequence of bytes is refused. -/
inductive FaultReason where
  | invalidStart
  | invalidContinuation
  | unexpectedEnd
  deriving DecidableEq

def FaultReason.text : FaultReason → Text
  | .invalidStart => "invalid start byte".toList
  | .invalidContinuation => "invalid continuation byte".toList
  | .unexpectedEnd => "unexpected end of data".toList

/-- The bytes that are refused: a first one and those after it that could go on with it. -/
structure Fault where
  position : Nat
  first : UInt8
  more : List UInt8
  reason : FaultReason
  deriving DecidableEq

def Fault.message (fault : Fault) : Text :=
  "'utf-8' codec can't decode byte".toList ++
    (if fault.more.isEmpty then
      " 0x".toList ++ Text.hexPadded 2 fault.first.toNat ++ " in position ".toList ++
        Text.decimal fault.position
    else
      "s in position ".toList ++ Text.decimal fault.position ++ ['-'] ++
        Text.decimal (fault.position + fault.more.length)) ++
    ": ".toList ++ fault.reason.text

/-- Whether a byte can come after the first one of a sequence. -/
def isSecond (first second : UInt8) : Bool :=
  isContinuation second && (first != 0xE0 || 0xA0 ≤ second) && (first != 0xED || second ≤ 0x9F) &&
    (first != 0xF0 || 0x90 ≤ second) && (first != 0xF4 || second ≤ 0x8F)

/-- The bytes that go on with a sequence after its first byte. -/
def continuations (first : UInt8) : List UInt8 → List UInt8
  | [] => []
  | second :: rest => if isSecond first second then second :: rest.takeWhile isContinuation else []

/-- The fault of a first byte and the next ones, at most three, which are no whole sequence. -/
def faultAt (position : Nat) (first : UInt8) (next : List UInt8) : Fault :=
  if first < 0xC2 || 0xF5 ≤ first then ⟨position, first, [], .invalidStart⟩
  else
    let more := continuations first next
    ⟨position, first, more,
      if more.length = next.length then .unexpectedEnd else .invalidContinuation⟩

/-- The first fault in bytes that start at a position. -/
def fault? (position : Nat) : List UInt8 → Option Fault
  | [] => none
  | first :: rest =>
    if first < 0x80 then fault? (position + 1) rest
    else match rest with
      | [] => some (faultAt position first [])
      | second :: rest =>
        if isPair first second then fault? (position + 2) rest
        else match rest with
          | [] => some (faultAt position first [second])
          | third :: rest =>
            if isTriple first second third then fault? (position + 3) rest
            else match rest with
              | [] => some (faultAt position first [second, third])
              | fourth :: rest =>
                if isQuadruple first second third fourth then fault? (position + 4) rest
                else some (faultAt position first [second, third, fourth])

def encode (text : Text) : List UInt8 := text.flatMap String.utf8EncodeChar

end ConnectionUri.Utf8

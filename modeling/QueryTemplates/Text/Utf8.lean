import QueryTemplates.Text.Basic

/-! # Reading UTF-8

A strict decoder: overlong forms, surrogates and code points above the last plane are refused. A failure
names the bytes that cannot be decoded: the start of the sequence and the bytes of it that were still
well formed.
-/

namespace QueryTemplates.Utf8

/-- Why bytes are not UTF-8. -/
inductive Fault
  | invalidStart
  | invalidContinuation
  | truncated
deriving DecidableEq

/-- The reason in words. -/
def Fault.reason : Fault → String
  | .invalidStart => "invalid start byte"
  | .invalidContinuation => "invalid continuation byte"
  | .truncated => "unexpected end of data"

/-- A failure to decode: `length` bytes from `position` on, the first of which is `byte`. -/
structure Error where
  fault : Fault
  position : Nat
  length : Nat
  byte : Nat
deriving DecidableEq

/-- The byte continues a sequence. -/
def isContinuation (b : UInt8) : Bool := 0x80 ≤ b && b < 0xC0

/-- The second byte can follow the first byte of a sequence of three or four bytes. -/
def isSecond (first second : UInt8) : Bool :=
  isContinuation second &&
    (first != 0xE0 || 0xA0 ≤ second) && (first != 0xED || second < 0xA0) &&
    (first != 0xF0 || 0x90 ≤ second) && (first != 0xF4 || second < 0x90)

/-- The low six bits of a continuation byte. -/
def payload (b : UInt8) : Nat := b.toNat % 64

/-- Decodes from the given position on; `done` holds the characters read so far, last one first. -/
def decodeFrom (position : Nat) (done : Text) : List UInt8 → Except Error Text
  | [] => .ok done.reverse
  | a :: rest =>
    let fail (fault : Fault) (length : Nat) : Except Error Text :=
      .error ⟨fault, position, length, a.toNat⟩
    if a < 0x80 then decodeFrom (position + 1) (Char.ofNat a.toNat :: done) rest
    else if a < 0xC2 then fail .invalidStart 1
    else if a < 0xE0 then
      match rest with
      | [] => fail .truncated 1
      | b :: rest =>
        if isContinuation b then
          decodeFrom (position + 2) (Char.ofNat (a.toNat % 32 * 64 + payload b) :: done) rest
        else fail .invalidContinuation 1
    else if a < 0xF0 then
      match rest with
      | [] => fail .truncated 1
      | b :: rest =>
        if !isSecond a b then fail .invalidContinuation 1
        else match rest with
          | [] => fail .truncated 2
          | c :: rest =>
            if isContinuation c then
              decodeFrom (position + 3)
                (Char.ofNat (a.toNat % 16 * 4096 + payload b * 64 + payload c) :: done) rest
            else fail .invalidContinuation 2
    else if a < 0xF5 then
      match rest with
      | [] => fail .truncated 1
      | b :: rest =>
        if !isSecond a b then fail .invalidContinuation 1
        else match rest with
          | [] => fail .truncated 2
          | c :: rest =>
            if !isContinuation c then fail .invalidContinuation 2
            else match rest with
              | [] => fail .truncated 3
              | d :: rest =>
                if isContinuation d then
                  decodeFrom (position + 4)
                    (Char.ofNat (a.toNat % 8 * 262144 + payload b * 4096 + payload c * 64 + payload d)
                      :: done) rest
                else fail .invalidContinuation 3
    else fail .invalidStart 1

/-- The text that the bytes encode. -/
def decode (bytes : List UInt8) : Except Error Text := decodeFrom 0 [] bytes

/-- The bytes of a text. -/
def encode (text : Text) : List UInt8 := text.flatMap String.utf8EncodeChar

/-- The text that the bytes encode, at most `failures` times with a mark in place of bytes that cannot be
decoded. -/
def decodeMarking : (failures : Nat) → List UInt8 → Text
  | 0, _ => []
  | failures + 1, bytes =>
    match decode bytes with
    | .ok text => text
    | .error failure =>
      let before := match decode (bytes.take failure.position) with
        | .ok text => text
        | .error _ => []
      before ++ '\uFFFD' :: decodeMarking failures (bytes.drop (failure.position + failure.length))

/-- The text that the bytes encode, with a mark in place of bytes that cannot be decoded. -/
def decodeLossy (bytes : List UInt8) : Text := decodeMarking (bytes.length + 1) bytes

end QueryTemplates.Utf8

import Stencil.Text.Basic

/-!
# Texts as bytes

The encoding of texts in files.  Reading is strict: it stops at the first byte
that no text contains there, and says where that byte is and what is wrong.
-/

namespace Stencil

/-- The content of a file. -/
abbrev Bytes := List UInt8

namespace Utf8

/-- What is wrong with a sequence of bytes. -/
inductive Flaw where
  | startByte
  | continuationByte
  | cutOff
  deriving DecidableEq, Repr

/-- The first fault of a sequence of bytes: the position of the character it
is in, how many bytes of that character there are, and the first of them. -/
structure Fault where
  position : Nat
  width : Nat
  byte : Nat
  flaw : Flaw
  deriving DecidableEq, Repr

/-- A byte that continues a character. -/
def isTail (byte : UInt8) : Bool :=
  0x80 ≤ byte.toNat && byte.toNat < 0xC0

/-- A second byte that, after `lead`, gives neither an overlong form nor a
surrogate nor a code point that is too large. -/
def isSecond (lead second : UInt8) : Bool :=
  isTail second && !(lead = 0xE0 && second < 0xA0) && !(lead = 0xED && 0xA0 ≤ second)
    && !(lead = 0xF0 && second < 0x90) && !(lead = 0xF4 && 0x90 ≤ second)

/-- The payload of a continuation byte. -/
def payload (byte : UInt8) : Nat :=
  byte.toNat % 64

/-- Reads bytes that start at `position`. -/
def decodeFrom (position : Nat) : Bytes → Except Fault Text
  | [] => .ok []
  | lead :: rest =>
      let fault (width : Nat) (flaw : Flaw) : Except Fault Text :=
        .error ⟨position, width, lead.toNat, flaw⟩
      if lead < 0x80 then
        (decodeFrom (position + 1) rest).map (Char.ofNat lead.toNat :: ·)
      else if lead < 0xC2 || 0xF5 ≤ lead then fault 1 .startByte
      else match rest with
        | [] => fault 1 .cutOff
        | second :: rest =>
            if !isSecond lead second then fault 1 .continuationByte
            else if lead < 0xE0 then
              (decodeFrom (position + 2) rest).map
                (Char.ofNat (lead.toNat % 32 * 64 + payload second) :: ·)
            else match rest with
              | [] => fault 2 .cutOff
              | third :: rest =>
                  if !isTail third then fault 2 .continuationByte
                  else
                    let upper := payload second * 64 + payload third
                    if lead < 0xF0 then
                      (decodeFrom (position + 3) rest).map
                        (Char.ofNat (lead.toNat % 16 * 4096 + upper) :: ·)
                    else match rest with
                      | [] => fault 3 .cutOff
                      | fourth :: rest =>
                          if !isTail fourth then fault 3 .continuationByte
                          else
                            (decodeFrom (position + 4) rest).map
                              (Char.ofNat (lead.toNat % 8 * 262144 + upper * 64
                                + payload fourth) :: ·)

def decode (bytes : Bytes) : Except Fault Text :=
  decodeFrom 0 bytes

def encodeChar (char : Char) : Bytes :=
  let code := char.toNat
  let tail (number : Nat) : UInt8 := UInt8.ofNat (0x80 + number % 64)
  if code < 0x80 then [UInt8.ofNat code]
  else if code < 0x800 then [UInt8.ofNat (0xC0 + code / 64), tail code]
  else if code < 0x10000 then
    [UInt8.ofNat (0xE0 + code / 4096), tail (code / 64), tail code]
  else
    [UInt8.ofNat (0xF0 + code / 262144), tail (code / 4096), tail (code / 64), tail code]

def encode (text : Text) : Bytes :=
  text.flatMap encodeChar

end Utf8

namespace Text

/-- The text with every line end, of whichever kind, written as a line feed. -/
def withLineFeeds : Text → Text
  | [] => []
  | '\r' :: '\n' :: text => '\n' :: withLineFeeds text
  | '\r' :: text => '\n' :: withLineFeeds text
  | char :: text => char :: withLineFeeds text

end Text

end Stencil

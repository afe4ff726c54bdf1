import SdkGraft.Text.Quoted

/-!
# Bytes of a text

* `Utf8.encode` : the bytes of a text, one to four for each character;
* `Utf8.next` : the first character of a run of bytes, or what is wrong there;
* `Utf8.decode` : the text of the bytes, or the first fault with its place;
* `Utf8.decodeLossy` : the text of the bytes, faulty bytes left out;
* `DecodeFault.message` : the wording of a fault.
-/

namespace SdkGraft

abbrev Bytes := List UInt8

namespace Utf8

/-- The bytes of one character: its number in six-bit groups behind a head that tells how many. -/
def encodeChar (c : Char) : Bytes :=
  let n := c.toNat
  if n < 0x80 then [UInt8.ofNat n]
  else if n < 0x800 then [UInt8.ofNat (0xC0 + n / 0x40), UInt8.ofNat (0x80 + n % 0x40)]
  else if n < 0x10000 then
    [UInt8.ofNat (0xE0 + n / 0x1000), UInt8.ofNat (0x80 + n / 0x40 % 0x40), UInt8.ofNat (0x80 + n % 0x40)]
  else
    [UInt8.ofNat (0xF0 + n / 0x40000), UInt8.ofNat (0x80 + n / 0x1000 % 0x40),
      UInt8.ofNat (0x80 + n / 0x40 % 0x40), UInt8.ofNat (0x80 + n % 0x40)]

def encode (t : Text) : Bytes := t.flatMap encodeChar

inductive Reason where
  /-- The first byte begins no character. -/
  | badStart
  /-- The byte after the valid ones does not continue the character. -/
  | badContinuation
  /-- The bytes end inside a character. -/
  | truncated
  deriving DecidableEq, Repr

inductive Next where
  /-- The run is empty. -/
  | done
  /-- One character of `width` bytes. -/
  | char (c : Char) (width : Nat)
  /-- `width` bytes that are no character. -/
  | fault (reason : Reason) (width : Nat)

/-- The byte continues a character. -/
def isTail (b : UInt8) : Bool := 0x80 ≤ b.toNat && b.toNat < 0xC0

/-- The byte may stand second after the head `head`: overlong forms, surrogates and numbers that
are too large are refused here. -/
def isSecond (head b : UInt8) : Bool :=
  if head = 0xE0 then 0xA0 ≤ b.toNat && b.toNat < 0xC0
  else if head = 0xED then 0x80 ≤ b.toNat && b.toNat < 0xA0
  else if head = 0xF0 then 0x90 ≤ b.toNat && b.toNat < 0xC0
  else if head = 0xF4 then 0x80 ≤ b.toNat && b.toNat < 0x90
  else isTail b

def next2 (b : UInt8) : Bytes → Next
  | [] => .fault .truncated 1
  | c :: _ =>
    if isTail c then .char (Char.ofNat ((b.toNat - 0xC0) * 0x40 + (c.toNat - 0x80))) 2
    else .fault .badContinuation 1

def next3 (b : UInt8) : Bytes → Next
  | [] => .fault .truncated 1
  | c :: r =>
    if isSecond b c then
      match r with
      | [] => .fault .truncated 2
      | d :: _ =>
        if isTail d then
          .char (Char.ofNat ((b.toNat - 0xE0) * 0x1000 + (c.toNat - 0x80) * 0x40 + (d.toNat - 0x80))) 3
        else .fault .badContinuation 2
    else .fault .badContinuation 1

def next4 (b : UInt8) : Bytes → Next
  | [] => .fault .truncated 1
  | c :: r =>
    if isSecond b c then
      match r with
      | [] => .fault .truncated 2
      | d :: s =>
        if isTail d then
          match s with
          | [] => .fault .truncated 3
          | e :: _ =>
            if isTail e then
              .char (Char.ofNat ((b.toNat - 0xF0) * 0x40000 + (c.toNat - 0x80) * 0x1000
                + (d.toNat - 0x80) * 0x40 + (e.toNat - 0x80))) 4
            else .fault .badContinuation 3
        else .fault .badContinuation 2
    else .fault .badContinuation 1

def next : Bytes → Next
  | [] => .done
  | b :: r =>
    if b.toNat < 0x80 then .char (Char.ofNat b.toNat) 1
    else if b.toNat < 0xC2 then .fault .badStart 1
    else if b.toNat < 0xE0 then next2 b r
    else if b.toNat < 0xF0 then next3 b r
    else if b.toNat < 0xF5 then next4 b r
    else .fault .badStart 1

end Utf8

/-- Bytes that are no text: the first `width` faulty bytes, the first of them `byte`, at `place`. -/
structure DecodeFault where
  byte : UInt8
  place : Nat
  width : Nat
  reason : Utf8.Reason
  deriving DecidableEq, Repr

namespace Utf8

/-- The text of the bytes after the first `skip` of them, `place` bytes into the whole. -/
def decodeFrom (place : Nat) : (skip : Nat) → Bytes → Except DecodeFault Text
  | _, [] => .ok []
  | skip + 1, _ :: r => decodeFrom (place + 1) skip r
  | 0, b :: r =>
    match next (b :: r) with
    | .done => .ok []
    | .char c width => (decodeFrom (place + 1) (width - 1) r).map (c :: ·)
    | .fault reason width => .error ⟨b, place, width, reason⟩

def decode (bytes : Bytes) : Except DecodeFault Text := decodeFrom 0 0 bytes

/-- The text of the bytes after the first `skip` of them, faulty bytes left out. -/
def decodeLossyFrom : (skip : Nat) → Bytes → Text
  | _, [] => []
  | skip + 1, _ :: r => decodeLossyFrom skip r
  | 0, b :: r =>
    match next (b :: r) with
    | .done => []
    | .char c width => c :: decodeLossyFrom (width - 1) r
    | .fault _ width => decodeLossyFrom (width - 1) r

/-- The text of the bytes, faulty bytes left out. -/
def decodeLossy (bytes : Bytes) : Text := decodeLossyFrom 0 bytes

def Reason.message : Reason → Text
  | .badStart => "invalid start byte".toList
  | .badContinuation => "invalid continuation byte".toList
  | .truncated => "unexpected end of data".toList

end Utf8

/-- The faulty byte, or where the faulty bytes are if they are several. -/
def DecodeFault.what (f : DecodeFault) : Text :=
  if f.width ≤ 1 then
    "byte 0x".toList ++ Text.hex 2 f.byte.toNat ++ " in position ".toList ++ Text.decimal f.place
  else
    "bytes in position ".toList ++ Text.decimal f.place ++ '-' :: Text.decimal (f.place + f.width - 1)

def DecodeFault.message (f : DecodeFault) : Text :=
  "'utf-8' codec can't decode ".toList ++ f.what ++ ": ".toList ++ f.reason.message

end SdkGraft

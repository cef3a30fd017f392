import RespClient.Bytes

/-!
# UTF-8 text in octet strings

`Utf8.encode` writes text; `Utf8.decode` reads it back or names the first fault,
and `Utf8.decodeLossy` reads any octets, one replacement character per fault.
Both readers go through `Utf8.pieces`, which cuts the octets into characters and
the longest runs that begin a character without completing it.
-/

namespace RespClient.Utf8

/-- The UTF-8 form of a list of characters. -/
def encode (text : List Char) : Bytes := text.flatMap String.utf8EncodeChar

/-- The UTF-8 form of a string. -/
def ofString (text : String) : Bytes := encode text.toList

/-- What the octets at one place amount to. -/
inductive Piece where
  /-- A whole character. -/
  | char (c : Char)
  /-- This many octets that no further octet can complete. -/
  | stray (count : Nat)
  /-- This many octets that begin a character the input ends inside of. -/
  | cut (count : Nat)
  deriving Repr, DecidableEq

/-- The first octet of a character of several octets: the bits it carries, the
number of octets to follow, and the range the next octet must lie in. -/
structure Lead where
  bits : Nat
  more : Nat
  low : Nat
  high : Nat
  deriving Repr, DecidableEq

/-- The octets that begin a character of several octets. The narrow ranges rule
out over-long forms, surrogates and code points past `0x10FFFF`. -/
def lead? (b : Nat) : Option Lead :=
  if 0xC2 ≤ b ∧ b ≤ 0xDF then some ⟨b - 0xC0, 1, 0x80, 0xBF⟩
  else if b = 0xE0 then some ⟨0, 2, 0xA0, 0xBF⟩
  else if b = 0xED then some ⟨13, 2, 0x80, 0x9F⟩
  else if 0xE1 ≤ b ∧ b ≤ 0xEF then some ⟨b - 0xE0, 2, 0x80, 0xBF⟩
  else if b = 0xF0 then some ⟨0, 3, 0x90, 0xBF⟩
  else if b = 0xF4 then some ⟨4, 3, 0x80, 0x8F⟩
  else if 0xF1 ≤ b ∧ b ≤ 0xF3 then some ⟨b - 0xF0, 3, 0x80, 0xBF⟩
  else none

/-- Continuation octets. -/
def isContinuation (b : Nat) : Bool := 0x80 ≤ b && b ≤ 0xBF

/-- Cuts octets into characters and faults. An octet that cannot continue a
character is looked at again as the start of the next piece. -/
def pieces : Bytes → List Piece
  | [] => []
  | b :: rest =>
    if b.toNat < 0x80 then .char (Char.ofNat b.toNat) :: pieces rest
    else
      match lead? b.toNat with
      | none => .stray 1 :: pieces rest
      | some l =>
        match rest with
        | [] => [.cut 1]
        | c :: rest₁ =>
          if ¬ (l.low ≤ c.toNat ∧ c.toNat ≤ l.high) then .stray 1 :: pieces (c :: rest₁)
          else if l.more = 1 then
            .char (Char.ofNat (l.bits * 64 + c.toNat % 64)) :: pieces rest₁
          else
            match rest₁ with
            | [] => [.cut 2]
            | d :: rest₂ =>
              if ¬ isContinuation d.toNat then .stray 2 :: pieces (d :: rest₂)
              else if l.more = 2 then
                .char (Char.ofNat ((l.bits * 64 + c.toNat % 64) * 64 + d.toNat % 64)) ::
                  pieces rest₂
              else
                match rest₂ with
                | [] => [.cut 3]
                | e :: rest₃ =>
                  if ¬ isContinuation e.toNat then .stray 3 :: pieces (e :: rest₃)
                  else
                    .char (Char.ofNat
                      (((l.bits * 64 + c.toNat % 64) * 64 + d.toNat % 64) * 64 + e.toNat % 64)) ::
                      pieces rest₃

/-- The first place where octets are no text: its index, and the number of octets
at fault, or none when the input ends inside a character. -/
structure Fault where
  index : Nat
  length : Option Nat
  deriving Repr, DecidableEq

/-- The wording of a fault. -/
def Fault.message (f : Fault) : String :=
  match f.length with
  | some n => s!"invalid utf-8 sequence of {n} bytes from index {f.index}"
  | none => s!"incomplete utf-8 byte sequence from index {f.index}"

/-- Joins pieces into text, where the first piece stands at octet `index`. -/
def join (index : Nat) : List Piece → Except Fault (List Char)
  | [] => .ok []
  | .char c :: ps => (join (index + c.utf8Size) ps).map (c :: ·)
  | .stray n :: _ => .error ⟨index, some n⟩
  | .cut _ :: _ => .error ⟨index, none⟩

/-- Reads octets as text. -/
def decode (octets : Bytes) : Except Fault (List Char) := join 0 (pieces octets)

/-- Reads octets as text if they are text. -/
def decode? (octets : Bytes) : Option (List Char) := (decode octets).toOption

/-- Reads octets as a string. -/
def decodeString (octets : Bytes) : Except Fault String := (decode octets).map String.ofList

/-- The character that stands for a piece: itself, or U+FFFD for a fault. -/
def Piece.toChar : Piece → Char
  | .char c => c
  | .stray _ => '\uFFFD'
  | .cut _ => '\uFFFD'

/-- Reads any octets as text, with U+FFFD for each fault. -/
def decodeLossy (octets : Bytes) : List Char := (pieces octets).map Piece.toChar

/-- Reads any octets as a string, with U+FFFD for each fault. -/
def lossyString (octets : Bytes) : String := String.ofList (decodeLossy octets)

end RespClient.Utf8

/-!
# UTF-8 with faults

What a byte string that need not be UTF-8 says: where its first fault lies, and what it reads as
when every fault is replaced by U+FFFD. A fault takes as many bytes as could still have begun a
character.
-/

set_option autoImplicit false

namespace WebviewHost.Text

/-- A piece of a byte string: one character, some bytes that cannot begin or continue one, or a
character that the end of the string cuts off. -/
inductive Utf8Piece where
  | char (value : Char)
  | bad (length : Nat)
  | cut
  deriving DecidableEq, Repr

/-- What the first byte of a character asks of the bytes after it: how many there are, and the
range of the next one. -/
inductive Utf8Lead where
  | single
  | double
  | triple (low high : UInt8)
  | quadruple (low high : UInt8)
  | never

/-- The role of a byte at the start of a character. -/
def Utf8Lead.ofByte (byte : UInt8) : Utf8Lead :=
  if byte < 0x80 then .single
  else if byte < 0xc2 then .never
  else if byte < 0xe0 then .double
  else if byte = 0xe0 then .triple 0xa0 0xbf
  else if byte = 0xed then .triple 0x80 0x9f
  else if byte < 0xf0 then .triple 0x80 0xbf
  else if byte = 0xf0 then .quadruple 0x90 0xbf
  else if byte < 0xf4 then .quadruple 0x80 0xbf
  else if byte = 0xf4 then .quadruple 0x80 0x8f
  else .never

def isContinuation (byte : UInt8) : Bool := 0x80 ≤ byte && byte ≤ 0xbf

def continuationBits (byte : UInt8) : Nat := byte.toNat % 64

def utf8Pieces : List UInt8 → List Utf8Piece
  | [] => []
  | a :: rest =>
      match Utf8Lead.ofByte a with
      | .single => .char (Char.ofNat a.toNat) :: utf8Pieces rest
      | .never => .bad 1 :: utf8Pieces rest
      | .double =>
          match rest with
          | [] => [.cut]
          | b :: after =>
              if isContinuation b then
                .char (Char.ofNat (a.toNat % 32 * 64 + continuationBits b)) :: utf8Pieces after
              else .bad 1 :: utf8Pieces (b :: after)
      | .triple low high =>
          match rest with
          | [] => [.cut]
          | b :: after =>
              if low ≤ b && b ≤ high then
                match after with
                | [] => [.cut]
                | c :: after =>
                    if isContinuation c then
                      .char (Char.ofNat ((a.toNat % 16 * 64 + continuationBits b) * 64 +
                        continuationBits c)) :: utf8Pieces after
                    else .bad 2 :: utf8Pieces (c :: after)
              else .bad 1 :: utf8Pieces (b :: after)
      | .quadruple low high =>
          match rest with
          | [] => [.cut]
          | b :: after =>
              if low ≤ b && b ≤ high then
                match after with
                | [] => [.cut]
                | c :: after =>
                    if isContinuation c then
                      match after with
                      | [] => [.cut]
                      | d :: after =>
                          if isContinuation d then
                            .char (Char.ofNat (((a.toNat % 8 * 64 + continuationBits b) * 64 +
                              continuationBits c) * 64 + continuationBits d)) :: utf8Pieces after
                          else .bad 3 :: utf8Pieces (d :: after)
                    else .bad 2 :: utf8Pieces (c :: after)
              else .bad 1 :: utf8Pieces (b :: after)

/-- The first place where a byte string is not UTF-8, and how many bytes are wrong there; no number
if the string ends inside a character. -/
structure Utf8Fault where
  index : Nat
  length : Option Nat
  deriving DecidableEq, Repr

def Utf8Fault.message (fault : Utf8Fault) : String :=
  match fault.length with
  | some length => "invalid utf-8 sequence of " ++ String.ofList (Nat.toDigits 10 length) ++
      " bytes from index " ++ String.ofList (Nat.toDigits 10 fault.index)
  | none => "incomplete utf-8 byte sequence from index " ++
      String.ofList (Nat.toDigits 10 fault.index)

/-- The first fault among pieces that begin at an index. -/
def firstFault? (index : Nat) : List Utf8Piece → Option Utf8Fault
  | [] => none
  | .char value :: rest => firstFault? (index + value.utf8Size) rest
  | .bad length :: _ => some ⟨index, some length⟩
  | .cut :: _ => some ⟨index, none⟩

def decodeUtf8 (bytes : List UInt8) : Except Utf8Fault String :=
  match String.fromUTF8? ⟨bytes.toArray⟩ with
  | some text => .ok text
  | none => .error ((firstFault? 0 (utf8Pieces bytes)).getD ⟨0, none⟩)

/-- The text of a byte string with U+FFFD in place of every fault. -/
def decodeUtf8Lossy (bytes : List UInt8) : String :=
  String.ofList <| (utf8Pieces bytes).map fun
    | .char value => value
    | _ => '\ufffd'

def encodeUtf8 (text : String) : List UInt8 := text.toList.flatMap String.utf8EncodeChar

end WebviewHost.Text

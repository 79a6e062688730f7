import TapeMachine.Text.Quoted

namespace TapeMachine.Text

inductive Utf8Reason where
  | start
  | continuation
  | finish
  deriving DecidableEq, Repr

/-- The first bytes that no character is encoded by, as positions from `first` to `last`. -/
structure Utf8Error where
  first : Nat
  last : Nat
  byte : Nat
  reason : Utf8Reason
  deriving DecidableEq, Repr

def Utf8Reason.message : Utf8Reason → String
  | start => "invalid start byte"
  | continuation => "invalid continuation byte"
  | finish => "unexpected end of data"

def Utf8Error.message (error : Utf8Error) : String :=
  if error.first = error.last then
    s!"'utf-8' codec can't decode byte 0x{String.ofList (hex 2 error.byte)} in position " ++
      s!"{error.first}: {error.reason.message}"
  else
    s!"'utf-8' codec can't decode bytes in position {error.first}-{error.last}: " ++
      error.reason.message

def isTail (byte : Nat) : Bool :=
  0x80 ≤ byte && byte ≤ 0xbf

/-- Which bytes may follow a leading byte: the test of each, none for a byte that leads nothing. -/
def tailsAfter? (byte : Nat) : Option (List (Nat → Bool)) :=
  if byte < 0x80 then some []
  else if 0xc2 ≤ byte ∧ byte ≤ 0xdf then some [isTail]
  else if byte = 0xe0 then some [fun b => 0xa0 ≤ b && b ≤ 0xbf, isTail]
  else if byte = 0xed then some [fun b => 0x80 ≤ b && b ≤ 0x9f, isTail]
  else if 0xe1 ≤ byte ∧ byte ≤ 0xef then some [isTail, isTail]
  else if byte = 0xf0 then some [fun b => 0x90 ≤ b && b ≤ 0xbf, isTail, isTail]
  else if 0xf1 ≤ byte ∧ byte ≤ 0xf3 then some [isTail, isTail, isTail]
  else if byte = 0xf4 then some [fun b => 0x80 ≤ b && b ≤ 0x8f, isTail, isTail]
  else none

/-- How many of the bytes that ought to follow do, and what is wrong with the next. -/
def tailFault? : List (Nat → Bool) → List Nat → Nat × Option Utf8Reason
  | [], _ => (0, none)
  | _, [] => (0, some .finish)
  | test :: tests, byte :: bytes =>
    if test byte then
      let (good, fault) := tailFault? tests bytes
      (good + 1, fault)
    else (0, some .continuation)

/-- The first fault of a text of bytes from position `at` on; `skip` bytes belong to a character
that is already checked. -/
def utf8Fault? (position skip : Nat) : List Nat → Option Utf8Error
  | [] => none
  | byte :: bytes =>
    match skip with
    | skip + 1 => utf8Fault? (position + 1) skip bytes
    | 0 =>
      match tailsAfter? byte with
      | none => some ⟨position, position, byte, .start⟩
      | some tests =>
        match tailFault? tests bytes with
        | (good, some reason) => some ⟨position, position + good, byte, reason⟩
        | (good, none) => utf8Fault? (position + 1) good bytes

/-- The text that bytes encode. -/
def decode (bytes : ByteArray) : Except Utf8Error String :=
  match String.fromUTF8? bytes with
  | some text => .ok text
  | none =>
    .error ((utf8Fault? 0 0 (bytes.toList.map UInt8.toNat)).getD ⟨0, 0, 0, .start⟩)

theorem decode_toUTF8 (text : String) : decode text.toUTF8 = .ok text := by
  have h : String.fromUTF8? text.toUTF8 = some text := by
    simp [String.fromUTF8?, text.isValidUTF8, String.fromUTF8]
  unfold decode
  rw [h]

end TapeMachine.Text

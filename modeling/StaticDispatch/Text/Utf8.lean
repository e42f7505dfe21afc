import StaticDispatch.Text.Hexadecimal

/-!
Contract: bytes to characters.

A character takes one to four bytes. The first byte says how many follow, and it
narrows the second one where a shorter form or no character would result. The
first byte that rules the bytes out is reported with the bytes of its character
that came before it.

Owns: decoding and its faults, and cutting a text at a byte.
Does not own: line ends and byte order marks, which are characters here.
-/

namespace StaticDispatch.Text.Utf8

inductive Cause where
  | invalidStart
  | invalidContinuation
  | unexpectedEnd
deriving DecidableEq, Repr

def Cause.text : Cause → String
  | .invalidStart => "invalid start byte"
  | .invalidContinuation => "invalid continuation byte"
  | .unexpectedEnd => "unexpected end of data"

structure Fault where
  cause : Cause
  first : UInt8
  position : Nat
  count : Nat
deriving DecidableEq, Repr

def Fault.message (fault : Fault) : String :=
  let place :=
    if fault.count = 1 then
      let digits := String.ofList (hexDigits 2 fault.first.toNat)
      s!"byte 0x{digits} in position {fault.position}"
    else
      s!"bytes in position {fault.position}-{fault.position + fault.count - 1}"
  s!"'utf-8' codec can't decode {place}: {fault.cause.text}"

structure Lead where
  /-- How many bytes follow. -/
  following : Nat
  /-- The part of the code that the byte carries. -/
  bits : Nat
  /-- The least and the greatest second byte. -/
  low : Nat
  high : Nat
deriving DecidableEq, Repr

def lead? (byte : Nat) : Option Lead :=
  if byte < 0xc2 then none
  else if byte < 0xe0 then some ⟨1, byte - 0xc0, 0x80, 0xbf⟩
  else if byte = 0xe0 then some ⟨2, 0, 0xa0, 0xbf⟩
  else if byte = 0xed then some ⟨2, 0xd, 0x80, 0x9f⟩
  else if byte < 0xf0 then some ⟨2, byte - 0xe0, 0x80, 0xbf⟩
  else if byte = 0xf0 then some ⟨3, 0, 0x90, 0xbf⟩
  else if byte < 0xf4 then some ⟨3, byte - 0xf0, 0x80, 0xbf⟩
  else if byte = 0xf4 then some ⟨3, 4, 0x80, 0x8f⟩
  else none

inductive Following where
  | code (code : Nat)
  /-- A byte does not fit behind so many that do. -/
  | stuck (cause : Cause) (fitting : Nat)

def follow (low high code fitting : Nat) : Nat → List UInt8 → Following
  | 0, _ => .code code
  | _ + 1, [] => .stuck .unexpectedEnd fitting
  | count + 1, byte :: rest =>
      let number := byte.toNat
      if low ≤ number ∧ number ≤ high then
        follow 0x80 0xbf (code * 64 + (number - 0x80)) (fitting + 1) count rest
      else
        .stuck .invalidContinuation fitting

def decodeFrom (position : Nat) : List UInt8 → Except Fault (List Char)
  | [] => .ok []
  | byte :: rest =>
      if byte.toNat < 0x80 then
        (decodeFrom (position + 1) rest).map (Char.ofNat byte.toNat :: ·)
      else
        match lead? byte.toNat with
        | none => .error ⟨.invalidStart, byte, position, 1⟩
        | some lead =>
            match follow lead.low lead.high lead.bits 0 lead.following rest with
            | .stuck cause fitting => .error ⟨cause, byte, position, fitting + 1⟩
            | .code code =>
                (decodeFrom (position + 1 + lead.following) (rest.drop lead.following)).map
                  (Char.ofNat code :: ·)
termination_by bytes => bytes.length
decreasing_by all_goals (simp only [List.length_drop, List.length_cons]; omega)

def decode (bytes : List UInt8) : Except Fault (List Char) :=
  decodeFrom 0 bytes

/-- The characters of the first bytes of a text. A character that is cut becomes
the replacement character. -/
def clip (limit : Nat) (text : String) : String :=
  let bytes := text.toUTF8.toList.take limit
  match decode bytes with
  | .ok characters => String.ofList characters
  | .error fault =>
      match decode (bytes.take fault.position) with
      | .ok characters => String.ofList (characters ++ ['\ufffd'])
      | .error _ => ""

end StaticDispatch.Text.Utf8

import MountCensus.Text.Quoted

/-!
Strict reading of bytes as text in UTF-8. A fault tells which bytes cannot be read, and why.
-/

set_option autoImplicit false

namespace MountCensus.Text.Utf8

inductive Defect where
  | startByte
  | continuationByte
  | endOfData
deriving DecidableEq, Repr

def Defect.reason : Defect → String
  | .startByte => "invalid start byte"
  | .continuationByte => "invalid continuation byte"
  | .endOfData => "unexpected end of data"

/-- The bytes from `start` up to and not including `stop` are no part of any text. -/
structure Fault where
  defect : Defect
  start : Nat
  stop : Nat
  firstByte : Nat
deriving DecidableEq, Repr

def Fault.message (fault : Fault) : String :=
  let place :=
    if fault.stop = fault.start + 1 then
      "byte 0x" ++ String.ofList (hexDigits 2 fault.firstByte) ++ " in position " ++
        toString fault.start
    else
      "bytes in position " ++ toString fault.start ++ "-" ++ toString (fault.stop - 1)
  "'utf-8' codec can't decode " ++ place ++ ": " ++ fault.defect.reason

/-- What a first byte announces: how many bytes follow, the least and the greatest that may come
next, and the high bits of the character. The bounds shut out overlong forms, surrogates and what
lies beyond the last character. -/
structure Lead where
  following : Nat
  least : Nat
  greatest : Nat
  bits : Nat

def lead? (byte : Nat) : Option Lead :=
  if byte < 0x80 then some ⟨0, 0x80, 0xBF, byte⟩
  else if byte < 0xC2 then none
  else if byte < 0xE0 then some ⟨1, 0x80, 0xBF, byte - 0xC0⟩
  else if byte < 0xF0 then
    some ⟨2, if byte = 0xE0 then 0xA0 else 0x80, if byte = 0xED then 0x9F else 0xBF, byte - 0xE0⟩
  else if byte < 0xF5 then
    some ⟨3, if byte = 0xF0 then 0x90 else 0x80, if byte = 0xF4 then 0x8F else 0xBF, byte - 0xF0⟩
  else none

/-- Reads the bytes that follow a first byte. The error is the number of bytes, the first one
counted, before the one that does not fit, and whether the data ended there. -/
def follow (least greatest : Nat) : (count read bits : Nat) → List Nat → Except (Nat × Bool) Nat
  | 0, _, bits, _ => .ok bits
  | _ + 1, read, _, [] => .error (read, true)
  | count + 1, read, bits, byte :: rest =>
    if least ≤ byte ∧ byte ≤ greatest then
      follow 0x80 0xBF count (read + 1) (bits * 64 + (byte - 0x80)) rest
    else .error (read, false)

/-- The text that starts at the given position of the data. -/
def decodeFrom (position : Nat) (bytes : List Nat) : Except Fault (List Char) :=
  match bytes with
  | [] => .ok []
  | byte :: rest =>
    match lead? byte with
    | none => .error ⟨.startByte, position, position + 1, byte⟩
    | some lead =>
      match follow lead.least lead.greatest lead.following 1 lead.bits rest with
      | .error (read, true) => .error ⟨.endOfData, position, position + read, byte⟩
      | .error (read, false) => .error ⟨.continuationByte, position, position + read, byte⟩
      | .ok code =>
        match decodeFrom (position + 1 + lead.following) (rest.drop lead.following) with
        | .error fault => .error fault
        | .ok text => .ok (Char.ofNat code :: text)
termination_by bytes.length
decreasing_by simp only [List.length_drop, List.length_cons]; omega

def decode (bytes : List Nat) : Except Fault (List Char) :=
  decodeFrom 0 bytes

end MountCensus.Text.Utf8

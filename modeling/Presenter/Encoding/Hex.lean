/-!
# Hex — bytes as lowercase hexadecimal text

Each byte is written as two lowercase digits, high half first (`encode`). Reading (`decode`)
takes the text two characters at a time and reads each pair as a number: two digits of either
case, or a plus sign and one digit. Text of an odd number of bytes, or a pair that is no such
number, is refused. Numbers are written to a fixed width with leading zeros (`ofNat`).
-/

namespace Presenter

namespace Hex

def digit (v : Nat) : Char :=
  if v < 10 then Char.ofNat (48 + v) else Char.ofNat (87 + v)

def value? (c : Char) : Option Nat :=
  if '0' ≤ c ∧ c ≤ '9' then some (c.toNat - 48)
  else if 'a' ≤ c ∧ c ≤ 'f' then some (c.toNat - 87)
  else if 'A' ≤ c ∧ c ≤ 'F' then some (c.toNat - 55)
  else none

def pair (b : UInt8) : List Char :=
  [digit (b.toNat / 16), digit (b.toNat % 16)]

def encode (bytes : ByteArray) : String :=
  bytes.foldl (fun s b => (s.push (digit (b.toNat / 16))).push (digit (b.toNat % 16))) ""

def ofNat (width n : Nat) : String :=
  String.ofList ((List.range width).reverse.map fun i => digit (n / Nat.pow 16 i % 16))

/-- Why a text is not a byte string. -/
inductive DecodeError where
  | oddLength
  | invalidDigit
  deriving DecidableEq, Repr

def pairValue? (a b : Char) : Option Nat :=
  if a = '+' then value? b
  else match value? a, value? b with
    | some x, some y => some (16 * x + y)
    | _, _ => none

/-- Pairs of characters read as bytes, in order. -/
def decodeDigits : List Char → Except DecodeError (List UInt8)
  | [] => .ok []
  | [a] => if (value? a).isSome then .error .oddLength else .error .invalidDigit
  | a :: b :: rest =>
    match pairValue? a b with
    | some v => (decodeDigits rest).map fun r => UInt8.ofNat v :: r
    | none => .error .invalidDigit

def decode (s : String) : Except DecodeError ByteArray :=
  if s.utf8ByteSize % 2 = 1 then .error .oddLength
  else (decodeDigits s.toList).map List.toByteArray

theorem digit_value? {v : Nat} (h : v < 16) : value? (digit v) = some v := by
  rcases v with _ | _ | _ | _ | _ | _ | _ | _ | _ | _ | _ | _ | _ | _ | _ | _ | v
  all_goals first | rfl | omega

end Hex

end Presenter

import Presenter.Encoding.Hex
/-!
# Digest — FNV-1a over bytes, and the short form of large byte stores

`Fnv.hash` is the 64-bit FNV-1a hash: start at the offset basis, and for each byte xor it in and
multiply by the prime, modulo `2^64`. A byte store is shown in full as hex up to `storeLimit`
bytes, and beyond that as `#<length>:<hash>` with the hash in sixteen hex digits (`storeText`).
-/

namespace Presenter

namespace Fnv

def basis : UInt64 := 0xcbf29ce484222325

def prime : UInt64 := 0x100000001b3

def step (h : UInt64) (b : UInt8) : UInt64 := (h ^^^ b.toUInt64) * prime

def extend (h : UInt64) (bytes : ByteArray) : UInt64 := bytes.foldl step h

def hash (bytes : ByteArray) : UInt64 := extend basis bytes

def int32Bytes (x : Int) : List UInt8 :=
  let u := (x % Int.pow 2 32).toNat
  [UInt8.ofNat u, UInt8.ofNat (u / Nat.pow 2 8), UInt8.ofNat (u / Nat.pow 2 16), UInt8.ofNat (u / Nat.pow 2 24)]

def extendWord (h : UInt64) (x : Int) : UInt64 :=
  let u := (x % Int.pow 2 32).toNat
  step (step (step (step h (UInt8.ofNat u)) (UInt8.ofNat (u / Nat.pow 2 8))) (UInt8.ofNat (u / Nat.pow 2 16)))
    (UInt8.ofNat (u / Nat.pow 2 24))

theorem extendWord_eq (h : UInt64) (x : Int) :
    extendWord h x = (int32Bytes x).foldl step h := rfl

end Fnv

def storeLimit : Nat := 512

def digestText (count : Nat) (h : UInt64) : String :=
  "#" ++ toString count ++ ":" ++ Hex.ofNat 16 h.toNat

def storeText (bytes : ByteArray) : String :=
  if bytes.size ≤ storeLimit then Hex.encode bytes else digestText bytes.size (Fnv.hash bytes)

end Presenter

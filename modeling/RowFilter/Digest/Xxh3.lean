import RowFilter.Digest.Bytes

/-!
# XXH3 of 64 bits

The fast hash XXH3 with seed zero and its default secret. Inputs of up to 16, up to 128 and up to
240 bytes have mixing schemes of their own; longer ones are accumulated in stripes of 64 bytes over
eight lanes.
-/

namespace RowFilter.Xxh3

/-- The default secret. -/
def secret : Array UInt8 :=
  #[0xb8, 0xfe, 0x6c, 0x39, 0x23, 0xa4, 0x4b, 0xbe, 0x7c, 0x01, 0x81, 0x2c, 0xf7, 0x21, 0xad, 0x1c,
    0xde, 0xd4, 0x6d, 0xe9, 0x83, 0x90, 0x97, 0xdb, 0x72, 0x40, 0xa4, 0xa4, 0xb7, 0xb3, 0x67, 0x1f,
    0xcb, 0x79, 0xe6, 0x4e, 0xcc, 0xc0, 0xe5, 0x78, 0x82, 0x5a, 0xd0, 0x7d, 0xcc, 0xff, 0x72, 0x21,
    0xb8, 0x08, 0x46, 0x74, 0xf7, 0x43, 0x24, 0x8e, 0xe0, 0x35, 0x90, 0xe6, 0x81, 0x3a, 0x26, 0x4c,
    0x3c, 0x28, 0x52, 0xbb, 0x91, 0xc3, 0x00, 0xcb, 0x88, 0xd0, 0x65, 0x8b, 0x1b, 0x53, 0x2e, 0xa3,
    0x71, 0x64, 0x48, 0x97, 0xa2, 0x0d, 0xf9, 0x4e, 0x38, 0x19, 0xef, 0x46, 0xa9, 0xde, 0xac, 0xd8,
    0xa8, 0xfa, 0x76, 0x3f, 0xe3, 0x9c, 0x34, 0x3f, 0xf9, 0xdc, 0xbb, 0xc7, 0xc7, 0x0b, 0x4f, 0x1d,
    0x8a, 0x51, 0xe0, 0x4b, 0xcd, 0xb4, 0x59, 0x31, 0xc8, 0x9f, 0x7e, 0xc9, 0xd9, 0x78, 0x73, 0x64,
    0xea, 0xc5, 0xac, 0x83, 0x34, 0xd3, 0xeb, 0xc3, 0xc5, 0x81, 0xa0, 0xff, 0xfa, 0x13, 0x63, 0xeb,
    0x17, 0x0d, 0xdd, 0x51, 0xb7, 0xf0, 0xda, 0x49, 0xd3, 0x16, 0x55, 0x26, 0x29, 0xd4, 0x68, 0x9e,
    0x2b, 0x16, 0xbe, 0x58, 0x7d, 0x47, 0xa1, 0xfc, 0x8f, 0xf8, 0xb8, 0xd1, 0x7a, 0xd0, 0x31, 0xce,
    0x45, 0xcb, 0x3a, 0x8f, 0x95, 0x16, 0x04, 0x28, 0xaf, 0xd7, 0xfb, 0xca, 0xbb, 0x4b, 0x40, 0x7e]

/-- First prime of 32 bits. -/
def prime32a : UInt64 := 0x9e3779b1

/-- Second prime of 32 bits. -/
def prime32b : UInt64 := 0x85ebca77

/-- Third prime of 32 bits. -/
def prime32c : UInt64 := 0xc2b2ae3d

/-- First prime of 64 bits. -/
def prime64a : UInt64 := 0x9e3779b185ebca87

/-- Second prime of 64 bits. -/
def prime64b : UInt64 := 0xc2b2ae3d27d4eb4f

/-- Third prime of 64 bits. -/
def prime64c : UInt64 := 0x165667b19e3779f9

/-- Fourth prime of 64 bits. -/
def prime64d : UInt64 := 0x85ebca77c2b2ae63

/-- Fifth prime of 64 bits. -/
def prime64e : UInt64 := 0x27d4eb2f165667c5

/-- Multiplier of the final mixing. -/
def mixer : UInt64 := 0x165667919e3779f9

/-- Multiplier of the final mixing of short inputs. -/
def shortMixer : UInt64 := 0x9fb21c651e98df25

/-- Read `count` bytes from a position as a little-endian number; bytes past the end are zero. -/
def read (count : Nat) (data : Array UInt8) (start : Nat) : UInt64 :=
  .ofNat (ofLittleEndian ((List.range count).map fun i => data.getD (start + i) 0))

/-- Read 64 bits. -/
def read64 (data : Array UInt8) (start : Nat) : UInt64 := read 8 data start

/-- Read 32 bits. -/
def read32 (data : Array UInt8) (start : Nat) : UInt64 := read 4 data start

/-- Rotate a word to the left. -/
def rotateLeft (x n : UInt64) : UInt64 := (x <<< n) ||| (x >>> (64 - n))

/-- A word with its bytes in reverse order. -/
def swapBytes (x : UInt64) : UInt64 := .ofNat (ofLittleEndian (bigEndian 8 x.toNat))

/-- The two halves of a product of 128 bits, combined. -/
def foldProduct (x y : UInt64) : UInt64 :=
  let p := x.toNat * y.toNat
  .ofNat p ^^^ .ofNat (p / UInt64.size)

/-- Final mixing. -/
def avalanche (x : UInt64) : UInt64 :=
  let x := (x ^^^ (x >>> 37)) * mixer
  x ^^^ (x >>> 32)

/-- Final mixing of inputs of up to three bytes. -/
def avalancheTiny (x : UInt64) : UInt64 :=
  let x := (x ^^^ (x >>> 33)) * prime64b
  let x := (x ^^^ (x >>> 29)) * prime64c
  x ^^^ (x >>> 32)

/-- Final mixing of inputs of four to eight bytes. -/
def avalancheShort (x length : UInt64) : UInt64 :=
  let x := (x ^^^ rotateLeft x 49 ^^^ rotateLeft x 24) * shortMixer
  let x := (x ^^^ ((x >>> 35) + length)) * shortMixer
  x ^^^ (x >>> 28)

/-- Mix sixteen bytes of the input with sixteen bytes of the secret. -/
def mix16 (data : Array UInt8) (start secretAt : Nat) : UInt64 :=
  foldProduct (read64 data start ^^^ read64 secret secretAt)
    (read64 data (start + 8) ^^^ read64 secret (secretAt + 8))

/-- Hash of up to sixteen bytes. -/
def hashUpTo16 (data : Array UInt8) : UInt64 :=
  let n := data.size
  let length : UInt64 := .ofNat n
  if n = 0 then avalancheTiny (read64 secret 56 ^^^ read64 secret 64)
  else if n ≤ 3 then
    let first := read 1 data 0
    let middle := read 1 data (n / 2)
    let last := read 1 data (n - 1)
    let combined := (first <<< 16) ||| (middle <<< 24) ||| last ||| (length <<< 8)
    avalancheTiny (combined ^^^ (read32 secret 0 ^^^ read32 secret 4))
  else if n ≤ 8 then
    let input := read32 data (n - 4) + (read32 data 0 <<< 32)
    avalancheShort (input ^^^ (read64 secret 8 ^^^ read64 secret 16)) length
  else
    let low := read64 data 0 ^^^ (read64 secret 24 ^^^ read64 secret 32)
    let high := read64 data (n - 8) ^^^ (read64 secret 40 ^^^ read64 secret 48)
    avalanche (length + swapBytes low + high + foldProduct low high)

/-- Hash of 17 to 128 bytes: pairs of sixteen bytes from both ends. -/
def hashUpTo128 (data : Array UInt8) : UInt64 :=
  let n := data.size
  let pairs := (n - 1) / 32 + 1
  avalanche <| (List.range pairs).foldl
    (fun (acc : UInt64) i =>
      acc + mix16 data (16 * i) (32 * i) + mix16 data (n - 16 * (i + 1)) (32 * i + 16))
    (UInt64.ofNat n * prime64a)

/-- Hash of 129 to 240 bytes: eight times sixteen bytes, mixed, then the rest. -/
def hashUpTo240 (data : Array UInt8) : UInt64 :=
  let n := data.size
  let first := (List.range 8).foldl (fun (acc : UInt64) i => acc + mix16 data (16 * i) (16 * i))
    (UInt64.ofNat n * prime64a)
  let rest := (List.range (n / 16 - 8)).foldl
    (fun (acc : UInt64) i => acc + mix16 data (16 * (i + 8)) (16 * i + 3)) (mix16 data (n - 16) 119)
  avalanche (avalanche first + rest)

/-- The eight lanes before the first stripe. -/
def initialLanes : List UInt64 :=
  [prime32c, prime64a, prime64b, prime64c, prime64d, prime32b, prime64e, prime32a]

/-- Add a stripe of 64 bytes to the lanes: each lane takes a product of its own word with the secret
and the plain word of its neighbour. -/
def addStripe (data : Array UInt8) (start secretAt : Nat) (lanes : List UInt64) : List UInt64 :=
  lanes.mapIdx fun i (lane : UInt64) =>
    let key : UInt64 := read64 data (start + 8 * i) ^^^ read64 secret (secretAt + 8 * i)
    let low : UInt64 := key &&& 0xffffffff
    let high : UInt64 := key >>> 32
    let neighbour := if i % 2 = 0 then i + 1 else i - 1
    lane + read64 data (start + 8 * neighbour) + low * high

/-- Mix the lanes after a whole block. -/
def scramble (lanes : List UInt64) : List UInt64 :=
  lanes.mapIdx fun i (lane : UInt64) =>
    (lane ^^^ (lane >>> 47) ^^^ read64 secret (128 + 8 * i)) * prime32a

/-- Add `count` stripes from a position to the lanes. -/
def addStripes (data : Array UInt8) (start count : Nat) (lanes : List UInt64) : List UInt64 :=
  (List.range count).foldl (fun lanes i => addStripe data (start + 64 * i) (8 * i) lanes) lanes

/-- Hash of more than 240 bytes: blocks of sixteen stripes, the rest, and the last 64 bytes. -/
def hashLong (data : Array UInt8) : UInt64 :=
  let n := data.size
  let blocks := (n - 1) / 1024
  let lanes := (List.range blocks).foldl
    (fun lanes i => scramble (addStripes data (1024 * i) 16 lanes)) initialLanes
  let lanes := addStripes data (1024 * blocks) ((n - 1 - 1024 * blocks) / 64) lanes
  let lanes := addStripe data (n - 64) 121 lanes
  avalanche <| (List.range 4).foldl
    (fun (acc : UInt64) i =>
      acc + foldProduct (lanes.getD (2 * i) 0 ^^^ read64 secret (11 + 16 * i))
        (lanes.getD (2 * i + 1) 0 ^^^ read64 secret (11 + 16 * i + 8)))
    (UInt64.ofNat n * prime64a)

/-- Hash of a sequence of bytes. -/
def hash (bytes : List UInt8) : UInt64 :=
  let data := bytes.toArray
  if data.size ≤ 16 then hashUpTo16 data
  else if data.size ≤ 128 then hashUpTo128 data
  else if data.size ≤ 240 then hashUpTo240 data
  else hashLong data

end RowFilter.Xxh3

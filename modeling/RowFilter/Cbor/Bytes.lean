import RowFilter.Cbor.Item
import RowFilter.Digest.Bytes

/-!
# Bytes of data items

`Item.render` writes an item in its shortest form, with definite lengths. `Item.read` reads any form
of the format: lengths of any width, indefinite lengths, tags, and floats of three widths. Reading
stops where the bytes fail to go on; the item then has a broken part there.
-/

namespace RowFilter

namespace Item

/-! ### Writing -/

/-- Head of an item: its major type and an argument in the fewest bytes. -/
def head (major argument : Nat) : List UInt8 :=
  let first (info : Nat) : UInt8 := .ofNat (32 * major + info)
  if argument < 24 then [first argument]
  else if argument < 0x100 then first 24 :: bigEndian 1 argument
  else if argument < 0x10000 then first 25 :: bigEndian 2 argument
  else if argument < 0x100000000 then first 26 :: bigEndian 4 argument
  else first 27 :: bigEndian 8 argument

mutual

/-- Bytes of an item. -/
def render : Item → List UInt8
  | unsigned n => head 0 n
  | negative n => head 1 n
  | bytes b => head 2 b.length ++ b
  | text s => head 3 s.utf8ByteSize ++ s.toUTF8.toList
  | array items => head 4 items.length ++ renderAll items
  | entry key value => head 5 1 ++ key.render ++ value.render
  | map content => head 5 (content.length / 2) ++ renderAll content
  | tagged inner => head 6 0 ++ inner.render
  | bool b => [if b then 0xf5 else 0xf4]
  | null => [0xf6]
  | undefined => [0xf7]
  | half x => 0xf9 :: bigEndian 2 x.toBits
  | single x => 0xfa :: bigEndian 4 x.toBits
  | double x => 0xfb :: bigEndian 8 x.toBits
  | broken => [0xff]

/-- Bytes of items. -/
def renderAll : List Item → List UInt8
  | [] => []
  | item :: items => item.render ++ renderAll items

end

/-! ### Reading -/

/-- Exactly `count` bytes from the front, and the rest. -/
def take? (count : Nat) (bs : List UInt8) : Option (List UInt8 × List UInt8) :=
  let front := bs.take count
  if front.length = count then some (front, bs.drop count) else none

/-- A number of `count` bytes from the front, and the rest. -/
def number? (count : Nat) (bs : List UInt8) : Option (Nat × List UInt8) :=
  (take? count bs).map fun r => (ofBigEndian r.1, r.2)

/-- Argument of a head byte with the given additional information, and the rest. -/
def argument? (info : Nat) (bs : List UInt8) : Option (Nat × List UInt8) :=
  if info < 24 then some (info, bs)
  else
    match info with
    | 24 => number? 1 bs
    | 25 => number? 2 bs
    | 26 => number? 4 bs
    | 27 => number? 8 bs
    | _ => none

/-- A string whose length is the argument of its head byte, and the rest. -/
def string? (info : Nat) (bs : List UInt8) : Option (List UInt8 × List UInt8) := do
  let (length, bs) ← argument? info bs
  take? length bs

/-- The joined chunks of a string of indefinite length, up to the break, and the rest. Every chunk
is a string of the same major type and of definite length. -/
def chunks? (major : Nat) : (fuel : Nat) → (soFar : List UInt8) → List UInt8 →
    Option (List UInt8 × List UInt8)
  | 0, _, _ => none
  | _, _, [] => none
  | fuel + 1, soFar, b :: bs =>
    if b = 0xff then some (soFar, bs)
    else if b.toNat / 32 = major then
      match string? (b.toNat % 32) bs with
      | some (chunk, bs) => chunks? major fuel (soFar ++ chunk) bs
      | none => none
    else none

/-- A string of a major type, of definite or indefinite length, and the rest. -/
def anyString? (major info : Nat) (bs : List UInt8) : Option (List UInt8 × List UInt8) :=
  if info = 31 then chunks? major (bs.length + 1) [] bs else string? info bs

/-- The text of bytes in UTF-8, if they are such. -/
def utf8? (bs : List UInt8) : Option String := String.fromUTF8? (ByteArray.mk bs.toArray)

/-- An item that reading found or not, with the rest of the bytes if it was found. -/
def found {α : Type} (toItem : α → Item) : Option (α × List UInt8) → Item × Option (List UInt8)
  | some (a, rest) => (toItem a, some rest)
  | none => (broken, none)

/-- An item of major type seven: a truth value, a null or a float. -/
def simple (info : Nat) (bs : List UInt8) : Item × Option (List UInt8) :=
  match info with
  | 20 => (bool false, some bs)
  | 21 => (bool true, some bs)
  | 22 => (null, some bs)
  | 23 => (undefined, some bs)
  | 25 => found (fun n => half (.ofBits n)) (number? 2 bs)
  | 26 => found (fun n => single (.ofBits n)) (number? 4 bs)
  | 27 => found (fun n => double (.ofBits n)) (number? 8 bs)
  | _ => (broken, none)

/-- The map of its content, or the entry of one pair if the head byte says that there is one. -/
def ofPairs (info : Nat) (content : List Item) : Item :=
  match info, content with
  | 1, [key, value] => entry key value
  | 1, _ => broken
  | _, content => map content

mutual

/-- Read one item. `depth` bounds how many arrays, maps and tags may still be entered. -/
def readOne : (fuel depth : Nat) → List UInt8 → Item × Option (List UInt8)
  | 0, _, _ => (broken, none)
  | _, _, [] => (broken, none)
  | fuel + 1, depth, b :: bs =>
    let major := b.toNat / 32
    let info := b.toNat % 32
    match major with
    | 0 => found unsigned (argument? info bs)
    | 1 => found negative (argument? info bs)
    | 2 => found bytes (anyString? 2 info bs)
    | 3 =>
      match anyString? 3 info bs with
      | none => (broken, none)
      | some (s, rest) =>
        match utf8? s with
        | none => (broken, none)
        | some t => (text t, some rest)
    | 4 =>
      match depth with
      | 0 => (broken, none)
      | depth + 1 =>
        if info = 31 then
          let (items, rest) := readToBreak fuel depth false true [] bs
          (array items, rest)
        else
          match argument? info bs with
          | none => (broken, none)
          | some (count, bs) =>
            let (items, rest) := readMany fuel depth count [] bs
            (array items, rest)
    | 5 =>
      match depth with
      | 0 => (broken, none)
      | depth + 1 =>
        if info = 31 then
          let (content, rest) := readToBreak fuel depth true true [] bs
          (map content, rest)
        else
          match argument? info bs with
          | none => (broken, none)
          | some (count, bs) =>
            let (content, rest) := readMany fuel depth (2 * count) [] bs
            (ofPairs info content, rest)
    | 6 =>
      match depth with
      | 0 => (broken, none)
      | depth + 1 =>
        match argument? info bs with
        | none => (broken, none)
        | some (_, bs) =>
          let (inner, rest) := readOne fuel depth bs
          (tagged inner, rest)
    | _ => simple info bs

/-- Read `count` items after those read so far, which come newest first. -/
def readMany : (fuel depth count : Nat) → (soFar : List Item) → List UInt8 →
    List Item × Option (List UInt8)
  | 0, _, _, soFar, _ => ((broken :: soFar).reverse, none)
  | _, _, 0, soFar, bs => (soFar.reverse, some bs)
  | fuel + 1, depth, count + 1, soFar, bs =>
    match readOne fuel depth bs with
    | (item, none) => ((item :: soFar).reverse, none)
    | (item, some rest) => readMany fuel depth count (item :: soFar) rest

/-- Read items up to the break, after those read so far, which come newest first. A break may stand
only where `closable` says so; in a map that is before a key. -/
def readToBreak : (fuel depth : Nat) → (paired closable : Bool) → (soFar : List Item) →
    List UInt8 → List Item × Option (List UInt8)
  | 0, _, _, _, soFar, _ => ((broken :: soFar).reverse, none)
  | fuel + 1, depth, paired, closable, soFar, bs =>
    if closable && bs.head? = some 0xff then (soFar.reverse, some (bs.drop 1))
    else
      match readOne fuel depth bs with
      | (item, none) => ((item :: soFar).reverse, none)
      | (item, some rest) =>
        readToBreak fuel depth paired (!paired || !closable) (item :: soFar) rest

end

/-- How many arrays, maps and tags may nest. -/
def maxDepth : Nat := 127

/-- Read one item from the front of bytes; the rest is missing if reading failed. -/
def read (bs : List UInt8) : Item × Option (List UInt8) :=
  readOne (2 * bs.length + 2) maxDepth bs

end Item

end RowFilter

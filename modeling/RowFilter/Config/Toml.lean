/-!
# Configuration files

The part of the TOML format that a configuration can use: top-level assignments of strings and
integers to plain or quoted keys, blank lines and comments. Any other text, and any other kind of
value, is refused as a whole.
-/

namespace RowFilter.Toml

/-- An assigned value. -/
inductive Scalar where
  | text (s : List Char)
  | integer (n : Int)
deriving DecidableEq, Repr

/-- Drop spaces and tabs from the front. -/
def skipBlanks (cs : List Char) : List Char :=
  cs.dropWhile fun c => c = ' ' || c = '\t'

/-- The character may stand in a comment and unescaped in a string. -/
def isPlain (c : Char) : Bool := c = '\t' || (0x20 ≤ c.toNat && c.toNat != 0x7f)

/-- Drop a line break from the front. -/
def newline? : List Char → Option (List Char)
  | '\n' :: cs => some cs
  | '\r' :: '\n' :: cs => some cs
  | _ => none

/-- Drop what may stand after an assignment, up to the end of its line. -/
def endOfLine? (cs : List Char) : Option (List Char) :=
  let cs := match skipBlanks cs with
    | '#' :: cs => cs.dropWhile isPlain
    | cs => cs
  if cs.isEmpty then some [] else newline? cs

/-! ### Integers -/

/-- Value of a digit in bases up to sixteen. -/
def digit? (base : Nat) (c : Char) : Option Nat :=
  let n :=
    if '0' ≤ c ∧ c ≤ '9' then c.toNat - '0'.toNat
    else if 'a' ≤ c ∧ c ≤ 'f' then c.toNat - 'a'.toNat + 10
    else if 'A' ≤ c ∧ c ≤ 'F' then c.toNat - 'A'.toNat + 10
    else base
  if n < base then some n else none

/-- Number of digits in which single underscores may separate digits. -/
def digits? (base : Nat) : List Char → (soFar : Nat) → (afterDigit : Bool) → Option Nat
  | [], n, afterDigit => if afterDigit then some n else none
  | c :: cs, n, afterDigit =>
    if c = '_' then if afterDigit then digits? base cs n false else none
    else
      match digit? base c with
      | some d => digits? base cs (base * n + d) true
      | none => none

/-- Number of decimal digits without a leading zero. -/
def decimal? (cs : List Char) : Option Nat :=
  match cs with
  | '0' :: _ :: _ => none
  | cs => digits? 10 cs 0 false

/-- Integer of the characters of a token. -/
def integer? : List Char → Option Int
  | '0' :: 'x' :: cs => (digits? 16 cs 0 false).map Int.ofNat
  | '0' :: 'o' :: cs => (digits? 8 cs 0 false).map Int.ofNat
  | '0' :: 'b' :: cs => (digits? 2 cs 0 false).map Int.ofNat
  | '-' :: cs => (decimal? cs).map fun n => -(n : Int)
  | '+' :: cs => (decimal? cs).map Int.ofNat
  | cs => (decimal? cs).map Int.ofNat

/-! ### Strings -/

/-- Character of a code of exactly `count` hexadecimal digits at the front. -/
def code? (count : Nat) (cs : List Char) : Option (Char × List Char) := do
  let front := cs.take count
  guard (front.length = count)
  let ds ← front.mapM (digit? 16)
  let n := ds.foldl (fun n d => 16 * n + d) 0
  guard (n < 0xd800 ∨ (0xe000 ≤ n ∧ n < 0x110000))
  return (Char.ofNat n, cs.drop count)

/-- Character of an escape, after its backslash. -/
def escape? : List Char → Option (Char × List Char)
  | 'b' :: cs => some ('\x08', cs)
  | 't' :: cs => some ('\t', cs)
  | 'n' :: cs => some ('\n', cs)
  | 'f' :: cs => some ('\x0c', cs)
  | 'r' :: cs => some ('\r', cs)
  | 'e' :: cs => some ('\x1b', cs)
  | '"' :: cs => some ('"', cs)
  | '\\' :: cs => some ('\\', cs)
  | 'x' :: cs => code? 2 cs
  | 'u' :: cs => code? 4 cs
  | 'U' :: cs => code? 8 cs
  | _ => none

/-- Content of a string on one line, after its opening quote; what was read so far comes newest
first. Escapes count if the quote is a double one. -/
def line? (quote : Char) : (fuel : Nat) → (soFar : List Char) → List Char →
    Option (List Char × List Char)
  | 0, _, _ => none
  | _, _, [] => none
  | fuel + 1, soFar, c :: cs =>
    if c = quote then some (soFar.reverse, cs)
    else if c = '\\' ∧ quote = '"' then
      match escape? cs with
      | some (e, cs) => line? quote fuel (e :: soFar) cs
      | none => none
    else if isPlain c then line? quote fuel (c :: soFar) cs
    else none

/-- Drop blanks and line breaks from the front. -/
def skipLines : List Char → List Char
  | '\r' :: '\n' :: cs => skipLines cs
  | c :: cs => if c = ' ' || c = '\t' || c = '\n' then skipLines cs else c :: cs
  | [] => []

/-- Drop the white space after a backslash at the end of a line. -/
def continuation? (cs : List Char) : Option (List Char) :=
  (newline? (skipBlanks cs)).map skipLines

/-- Content of a string on several lines, after its opening quotes; what was read so far comes
newest first. A line break is kept as it stands, and a carriage return belongs to a line break. Up
to two quotes may stand before the closing three. -/
def block? (quote : Char) : (fuel : Nat) → (soFar : List Char) → List Char →
    Option (List Char × List Char)
  | 0, _, _ => none
  | _, _, [] => none
  | fuel + 1, soFar, c :: cs =>
    if c = quote then
      let run := ((c :: cs).takeWhile (· = quote)).length
      if run < 3 then block? quote fuel (c :: soFar) cs
      else if run ≤ 5 then
        some ((List.replicate (run - 3) quote ++ soFar).reverse, (c :: cs).drop run)
      else none
    else if c = '\\' ∧ quote = '"' then
      match continuation? cs with
      | some cs => block? quote fuel soFar cs
      | none =>
        match escape? cs with
        | some (e, cs) => block? quote fuel (e :: soFar) cs
        | none => none
    else if isPlain c || c = '\n' || (c = '\r' && cs.head? = some '\n') then
      block? quote fuel (c :: soFar) cs
    else none

/-- Content of a string on several lines, less a line break right after the opening quotes. -/
def openedBlock? (quote : Char) (cs : List Char) : Option (List Char × List Char) :=
  let cs := (newline? cs).getD cs
  block? quote (cs.length + 1) [] cs

/-! ### Assignments -/

/-- A string value from the front. -/
def string? : List Char → Option (List Char × List Char)
  | '"' :: '"' :: '"' :: cs => openedBlock? '"' cs
  | '\'' :: '\'' :: '\'' :: cs => openedBlock? '\'' cs
  | '"' :: cs => line? '"' (cs.length + 1) [] cs
  | '\'' :: cs => line? '\'' (cs.length + 1) [] cs
  | _ => none

/-- A value from the front. -/
def scalar? (cs : List Char) : Option (Scalar × List Char) :=
  match string? cs with
  | some (s, rest) => some (.text s, rest)
  | none =>
    let token := cs.takeWhile fun c => c.isAlphanum || c = '_' || c = '+' || c = '-'
    (integer? token).map fun n => (.integer n, cs.drop token.length)

/-- A key from the front. -/
def key? (cs : List Char) : Option (List Char × List Char) :=
  match cs with
  | '"' :: rest => line? '"' (rest.length + 1) [] rest
  | '\'' :: rest => line? '\'' (rest.length + 1) [] rest
  | cs =>
    let token := cs.takeWhile fun c => c.isAlphanum || c = '_' || c = '-'
    if token.isEmpty then none else some (token, cs.drop token.length)

/-- An assignment from the front, up to the end of its line. -/
def assignment? (cs : List Char) : Option ((String × Scalar) × List Char) := do
  let (key, cs) ← key? cs
  match skipBlanks cs with
  | '=' :: cs =>
    let (value, cs) ← scalar? (skipBlanks cs)
    let cs ← endOfLine? cs
    return ((String.ofList key, value), cs)
  | _ => none

/-- The assignments of all lines, after those read so far, which come newest first. -/
def lines? : (fuel : Nat) → (soFar : List (String × Scalar)) → List Char →
    Option (List (String × Scalar))
  | 0, _, _ => none
  | fuel + 1, soFar, cs =>
    match skipBlanks cs with
    | [] => some soFar.reverse
    | cs =>
      match endOfLine? cs with
      | some cs => lines? fuel soFar cs
      | none =>
        match assignment? cs with
        | some (a, cs) => lines? fuel (a :: soFar) cs
        | none => none

/-- The assignments of a document, less a byte order mark at its start. -/
def assignments? (source : String) : Option (List (String × Scalar)) :=
  let cs := match source.toList with
    | '\ufeff' :: cs => cs
    | cs => cs
  lines? (cs.length + 1) [] cs

end RowFilter.Toml

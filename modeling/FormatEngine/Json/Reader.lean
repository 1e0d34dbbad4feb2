import FormatEngine.Json
import FormatEngine.Bytes
import FormatEngine.Binary64.Decimal
import FormatEngine.Binary64.Shortest
import FormatEngine.Text.Escapes
/-!
# Reading JSON

A streaming reader over the characters of a text. It keeps the byte offset it has reached, so
that an error can say where it happened, and the nesting it may still enter (127 levels).

Numbers follow one rule. An integer is kept as an integer when it fits 64 bits (a non-negative
one below `2^64`, a negative one not below `-2^63`); `-0` is the float `-0.0`. Any other number
keeps its first digits as a 64-bit significand (the digits past it only move the exponent),
converts the significand to binary64, and scales it by one multiplication or division by the
binary64 nearest to `10^|e|`; exponents past 308 divide by `1e308` first. A result that overflows
is an error, and so is a positive exponent past 308 with a nonzero significand.

Errors carry the offset they are reported at: after the last character read (`failHere`),
after the first byte of the one just read (`failOn`), or after the first byte of the one the
reader was looking at (`failPeek`). An error raised about a value's type has no
offset until the value's frame gives it the offset it has reached (`fixPosition`).
-/
namespace FormatEngine.Json

/-- Why a JSON text was refused. -/
inductive ErrorCode where
  | eofWhileParsingList
  | eofWhileParsingObject
  | eofWhileParsingString
  | eofWhileParsingValue
  | expectedColon
  | expectedListCommaOrEnd
  | expectedObjectCommaOrEnd
  | expectedSomeIdent
  | expectedSomeValue
  | invalidEscape
  | invalidNumber
  | numberOutOfRange
  | invalidUnicodeCodePoint
  | controlCharacterWhileParsingString
  | keyMustBeAString
  | loneLeadingSurrogateInHexEscape
  | trailingComma
  | trailingCharacters
  | unexpectedEndOfHexEscape
  | recursionLimitExceeded
  /-- A value of the wrong shape for what was being read. -/
  | data (text : String)
deriving DecidableEq, Inhabited

def ErrorCode.text : ErrorCode → String
  | .eofWhileParsingList => "EOF while parsing a list"
  | .eofWhileParsingObject => "EOF while parsing an object"
  | .eofWhileParsingString => "EOF while parsing a string"
  | .eofWhileParsingValue => "EOF while parsing a value"
  | .expectedColon => "expected `:`"
  | .expectedListCommaOrEnd => "expected `,` or `]`"
  | .expectedObjectCommaOrEnd => "expected `,` or `\x7d`"
  | .expectedSomeIdent => "expected ident"
  | .expectedSomeValue => "expected value"
  | .invalidEscape => "invalid escape"
  | .invalidNumber => "invalid number"
  | .numberOutOfRange => "number out of range"
  | .invalidUnicodeCodePoint => "invalid unicode code point"
  | .controlCharacterWhileParsingString =>
    "control character (\\u0000-\\u001F) found while parsing a string"
  | .keyMustBeAString => "key must be a string"
  | .loneLeadingSurrogateInHexEscape => "lone leading surrogate in hex escape"
  | .trailingComma => "trailing comma"
  | .trailingCharacters => "trailing characters"
  | .unexpectedEndOfHexEscape => "unexpected end of hex escape"
  | .recursionLimitExceeded => "recursion limit exceeded"
  | .data t => t

/-- A refused text: the cause and the byte offset it is reported at, once known. -/
structure ReadError where
  code : ErrorCode
  index : Option Nat
deriving Inhabited

/-- The line and column of a byte offset: lines count from 1, columns are the bytes since the
line began. -/
def lineColumn (text : String) (index : Nat) : Nat × Nat :=
  let before := (Bytes.ofString text).take index
  let line := 1 + before.count 10
  let lastLine := (before.reverse.takeWhile (· != 10)).length
  (line, lastLine)

/-- A refusal placed in its text: the message, and the line and column it is reported at
(line 0 when it has no place). -/
structure PlacedError where
  message : String
  line : Nat
  column : Nat
deriving DecidableEq, Inhabited

/-- Places a refusal in the text it was raised on. -/
def ReadError.place (e : ReadError) (text : String) : PlacedError :=
  let (l, c) := match e.index with
    | some i => lineColumn text i
    | none => (0, 0)
  ⟨e.code.text, l, c⟩

/-- The message of a placed refusal, with its place when it has one. -/
def PlacedError.render (e : PlacedError) : String :=
  if e.line = 0 then e.message
  else e.message ++ " at line " ++ toString e.line ++ " column " ++ toString e.column

def PlacedError.debug (e : PlacedError) : String :=
  "Error(" ++ Text.debugQuote e.message ++ ", line: " ++ toString e.line ++ ", column: "
    ++ toString e.column ++ ")"

/-- Where a reader stands: the characters left, the bytes consumed, the nesting still allowed,
and a bound on the characters of the whole text, which bounds every loop. -/
structure Input where
  rest : List Char
  index : Nat
  depth : Nat
  bound : Nat

/-- A reader: it may refuse, and it keeps where it stopped either way. -/
abbrev Reader := ExceptT ReadError (StateM Input)

def peek : Reader (Option Char) := return (← get).rest.head?

def eat : Reader Unit :=
  modify fun s => match s.rest with
    | c :: r => { s with rest := r, index := s.index + c.utf8Size }
    | [] => s

def next : Reader (Option Char) := do
  let c ← peek
  eat
  return c

/-- Refuses, reporting after the last character read. -/
def failHere {α : Type} (code : ErrorCode) : Reader α := do
  throw ⟨code, some (← get).index⟩

/-- Refuses about a character just read, reporting after its first byte: the text is read a
byte at a time, and a character of several bytes is refused as soon as its first is seen. -/
def failOn {α : Type} (c : Char) (code : ErrorCode) : Reader α := do
  throw ⟨code, some ((← get).index + 1 - c.utf8Size)⟩

/-- Refuses, reporting after the first byte of the character the reader is looking at. -/
def failPeek {α : Type} (code : ErrorCode) : Reader α := do
  let s ← get
  throw ⟨code, some (if s.rest.isEmpty then s.index else s.index + 1)⟩

/-- Gives an error without an offset the offset the reader has reached. -/
def fixPosition (e : ReadError) : Reader ReadError := do
  match e.index with
  | some _ => return e
  | none => return { e with index := some (← get).index }

def isBlank (c : Char) : Bool := c == ' ' || c == '\n' || c == '\t' || c == '\r'

/-- Drops blanks, counting their bytes. -/
def dropBlanks : List Char → Nat → List Char × Nat
  | c :: r, i => if isBlank c then dropBlanks r (i + 1) else (c :: r, i)
  | [], i => ([], i)

/-- Skips blanks and looks at the next character. -/
def skipBlanks : Reader (Option Char) := do
  let s ← get
  let (r, i) := dropBlanks s.rest s.index
  set { s with rest := r, index := i }
  return r.head?

/-- Reads the rest of a literal name whose first letter was consumed. -/
def ident : List Char → Reader Unit
  | [] => return ()
  | c :: cs => do
    match ← next with
    | none => failHere .eofWhileParsingValue
    | some d => if d = c then ident cs else failOn d .expectedSomeIdent

/-! ## Numbers -/

def wordMax : Nat := Nat.pow 2 64 - 1

/-- Whether appending digit `d` to `v` would pass `max`. -/
def overflows (v d max : Nat) : Bool := max / 10 ≤ v && (max / 10 < v || max % 10 < d)

/-- The binary64 nearest `10^k`, for `k ≤ 308`. -/
def powerOfTen (k : Nat) : Binary64 := Binary64.pow10 k

/-- A significand and a decimal exponent as binary64: the significand rounded, then scaled by
one rounded product or quotient, with `1e308` divisions first for exponents past 308. -/
def scale (positive : Bool) (sig : Nat) (e : Int) : Except ErrorCode Binary64 :=
  let f := Binary64.ofNat sig
  let sign := fun (x : Binary64) => if positive then x else x.neg
  let rec go : Nat → Binary64 → Int → Except ErrorCode Binary64
    | 0, f, _ => .ok (sign f)
    | fuel + 1, f, e =>
      if e.natAbs ≤ 308 then
        if 0 ≤ e then
          let g := f.mul (powerOfTen e.toNat)
          match g.classify with
          | .infinite _ => .error .numberOutOfRange
          | _ => .ok (sign g)
        else .ok (sign (f.div (powerOfTen e.natAbs)))
      else if f.classify == .finite false 0 (-1074) then .ok (sign f)
      else if 0 ≤ e then .error .numberOutOfRange
      else go fuel (f.div (powerOfTen 308)) (e + 308)
  go 8 f e

/-- Consumes digits while `p` holds, returning how many. -/
def skipDigits : Nat → Reader Nat
  | 0 => return 0
  | fuel + 1 => do
    match ← peek with
    | some c => if c.isDigit then do eat; return (← skipDigits fuel) + 1 else return 0
    | none => return 0

/-- A float from its parts, refused where the magnitude is out of range. -/
def fromParts (positive : Bool) (sig : Nat) (e : Int) : Reader JsonNumber :=
  match scale positive sig e with
  | .ok x => return .float x
  | .error c => failHere c

/-- The largest 32-bit signed value, which bounds an exponent. -/
def expMax : Nat := Nat.pow 2 31 - 1

/-- Reads an exponent after `e`, adding it to `start`. -/
def exponent (fuel : Nat) (positive : Bool) (sig : Nat) (start : Int) : Reader JsonNumber := do
  eat
  let up ← match ← peek with
    | some '+' => do eat; pure true
    | some '-' => do eat; pure false
    | _ => pure true
  let first ← match ← next with
    | none => failHere .eofWhileParsingValue
    | some c => if c.isDigit then pure (c.toNat - 48) else failOn c .invalidNumber
  let rec digits : Nat → Nat → Reader (Option Nat)
    | 0, v => return some v
    | fuel + 1, v => do
      match ← peek with
      | some c =>
        if c.isDigit then do
          eat
          let d := c.toNat - 48
          if overflows v d expMax then return none else digits fuel (v * 10 + d)
        else return some v
      | none => return some v
  match ← digits fuel first with
  | some v =>
    let e := if up then start + v else start - v
    let e := max (-((Nat.pow 2 31 : Nat) : Int)) (min (((Nat.pow 2 31 : Nat) : Int) - 1) e)
    fromParts positive sig e
  | none =>
    if sig ≠ 0 && up then failHere .numberOutOfRange else
    let _ ← skipDigits fuel
    return .float (Binary64.zero !positive)

/-- Reads digits after a `.`. -/
def decimal (fuel : Nat) (positive : Bool) (sig : Nat) (before : Int) : Reader JsonNumber := do
  eat
  let rec digits : Nat → Nat → Int → Reader (Nat × Int × Bool)
    | 0, v, n => return (v, n, false)
    | fuel + 1, v, n => do
      match ← peek with
      | some c =>
        if c.isDigit then
          let d := c.toNat - 48
          if overflows v d wordMax then return (v, n, true)
          else do eat; digits fuel (v * 10 + d) (n - 1)
        else return (v, n, false)
      | none => return (v, n, false)
  let (sig, after, overflowed) ← digits fuel sig 0
  if overflowed then
    let _ ← skipDigits fuel
    match ← peek with
    | some 'e' | some 'E' => exponent fuel positive sig (before + after)
    | _ => fromParts positive sig (before + after)
  else
  if after = 0 then
    match ← peek with
    | some _ => failPeek .invalidNumber
    | none => failPeek .eofWhileParsingValue
  else
  match ← peek with
  | some 'e' | some 'E' => exponent fuel positive sig (before + after)
  | _ => fromParts positive sig (before + after)

/-- What follows an integer's digits: a fraction, an exponent, or the end of the number. -/
def numberTail (fuel : Nat) (positive : Bool) (sig : Nat) : Reader JsonNumber := do
  match ← peek with
  | some '.' => decimal fuel positive sig 0
  | some 'e' | some 'E' => exponent fuel positive sig 0
  | _ =>
    if positive then return .natural sig
    else if sig = 0 then return .float (Binary64.zero true)
    else if sig ≤ Nat.pow 2 63 then return .negative (-(sig : Int))
    else return .float (Binary64.ofNat sig).neg

/-- Reads a number after its sign (`positive` is false when a `-` was consumed). -/
def readNumber (fuel : Nat) (positive : Bool) : Reader JsonNumber := do
  match ← next with
  | none => failHere .eofWhileParsingValue
  | some '0' =>
    match ← peek with
    | some c => if c.isDigit then failPeek .invalidNumber else numberTail fuel positive 0
    | none => numberTail fuel positive 0
  | some c =>
    if c.isDigit then
      let rec digits : Nat → Nat → Reader JsonNumber
        | 0, v => numberTail 0 positive v
        | fuel' + 1, v => do
          match ← peek with
          | some c =>
            if c.isDigit then
              let d := c.toNat - 48
              if overflows v d wordMax then do
                let extra ← skipDigits fuel
                match ← peek with
                | some '.' => decimal fuel positive v extra
                | some 'e' | some 'E' => exponent fuel positive v extra
                | _ => fromParts positive v extra
              else do eat; digits fuel' (v * 10 + d)
            else numberTail fuel positive v
          | none => numberTail fuel positive v
      digits fuel (c.toNat - 48)
    else failOn c .invalidNumber

/-! ## Strings -/

def hex4 (cs : List Char) : Option Nat :=
  cs.foldl (fun acc c => acc.bind fun v => (Bytes.hexValue? c).map (v * 16 + ·)) (some 0)

/-- Reads the four bytes of a `\u` escape: fewer than four bytes left is the end of the text,
and four that are not all hex digits are refused after them. -/
def hexEscape : Reader Nat := do
  let s ← get
  let four := s.rest.take 4
  let bytes := four.foldl (fun n (c : Char) => n + c.utf8Size) 0
  if bytes < 4 then
    set { s with rest := [], index := s.index + bytes }
    failHere .eofWhileParsingString
  else
    set { s with rest := s.rest.drop 4, index := s.index + 4 }
    match hex4 four with
    | some v => return v
    | none => failHere .invalidEscape

/-- Reads the rest of a `\u` escape; `strict` refuses unpaired surrogates. -/
def unicodeEscape (strict : Bool) : Reader (Option Char) := do
  let n ← hexEscape
  if 0xDC00 ≤ n ∧ n ≤ 0xDFFF then
    if strict then failHere .loneLeadingSurrogateInHexEscape else return none
  else if n < 0xD800 ∨ 0xDBFF < n then return some (Char.ofNat n)
  else
    match ← peek with
    | none => failHere .eofWhileParsingString
    | some '\\' =>
      eat
      match ← peek with
      | none => failHere .eofWhileParsingString
      | some 'u' =>
        eat
        let n2 ← hexEscape
        if n2 < 0xDC00 ∨ 0xDFFF < n2 then
          if strict then failHere .loneLeadingSurrogateInHexEscape else return none
        else return some (Char.ofNat (((n - 0xD800) <<< 10 ||| (n2 - 0xDC00)) + 0x10000))
      | some _ => if strict then failPeek .unexpectedEndOfHexEscape else return none
    | some _ => if strict then failPeek .unexpectedEndOfHexEscape else return none

/-- Reads the rest of a string whose opening quote was consumed. -/
def stringBody (strict : Bool) : Nat → String → Reader String
  | 0, acc => return acc
  | fuel + 1, acc => do
    match ← next with
    | none => failHere .eofWhileParsingString
    | some '"' => return acc
    | some '\\' =>
      match ← next with
      | none => failHere .eofWhileParsingString
      | some '"' => stringBody strict fuel (acc.push '"')
      | some '\\' => stringBody strict fuel (acc.push '\\')
      | some '/' => stringBody strict fuel (acc.push '/')
      | some 'b' => stringBody strict fuel (acc.push (Char.ofNat 8))
      | some 'f' => stringBody strict fuel (acc.push (Char.ofNat 12))
      | some 'n' => stringBody strict fuel (acc.push '\n')
      | some 'r' => stringBody strict fuel (acc.push '\r')
      | some 't' => stringBody strict fuel (acc.push '\t')
      | some 'u' =>
        match ← unicodeEscape strict with
        | some c => stringBody strict fuel (acc.push c)
        | none => stringBody strict fuel acc
      | some c => failOn c .invalidEscape
    | some c =>
      if c.toNat < 32 then failHere .controlCharacterWhileParsingString
      else stringBody strict fuel (acc.push c)

/-- The fuel a loop gets: one step per character of the text is always enough. -/
def fuelFor (s : Input) : Nat := s.bound

/-- Reads a string whose opening quote is next. -/
def readString : Reader String := do
  eat
  stringBody true (fuelFor (← get)) ""

/-! ## Nesting -/

/-- Enters one level of nesting, refused past the limit. -/
def enter : Reader Unit := do
  let s ← get
  if s.depth ≤ 1 then failPeek .recursionLimitExceeded
  else set { s with depth := s.depth - 1 }

def leave : Reader Unit := modify fun s => { s with depth := s.depth + 1 }

/-- The separator before the next item of an array: `none` at the closing bracket. -/
def nextItem (first : Bool) : Reader Bool := do
  let peek ← match ← skipBlanks with
    | some ']' => return false
    | some ',' =>
      if first then pure (some ',') else do eat; skipBlanks
    | some c => if first then pure (some c) else failPeek .expectedListCommaOrEnd
    | none => failPeek .eofWhileParsingList
  match peek with
  | some ']' => failPeek .trailingComma
  | some _ => return true
  | none => failPeek .eofWhileParsingValue

/-- The separator before the next member of an object: `false` at the closing brace; the key's
quote is next when it gives `true`. -/
def nextMember (first : Bool) : Reader Bool := do
  let peek ← match ← skipBlanks with
    | some '}' => return false
    | some ',' =>
      if first then pure (some ',') else do eat; skipBlanks
    | some c => if first then pure (some c) else failPeek .expectedObjectCommaOrEnd
    | none => failPeek .eofWhileParsingObject
  match peek with
  | some '"' => return true
  | some '}' => failPeek .trailingComma
  | some _ => failPeek .keyMustBeAString
  | none => failPeek .eofWhileParsingValue

def colon : Reader Unit := do
  match ← skipBlanks with
  | some ':' => eat
  | some _ => failPeek .expectedColon
  | none => failPeek .eofWhileParsingObject

def endArray : Reader Unit := do
  match ← skipBlanks with
  | some ']' => eat
  | some ',' =>
    eat
    match ← skipBlanks with
    | some ']' => failPeek .trailingComma
    | _ => failPeek .trailingCharacters
  | some _ => failPeek .trailingCharacters
  | none => failPeek .eofWhileParsingList

def endObject : Reader Unit := do
  match ← skipBlanks with
  | some '}' => eat
  | some ',' => failPeek .trailingComma
  | some _ => failPeek .trailingCharacters
  | none => failPeek .eofWhileParsingObject

/-! ## Values -/

mutual
def value : Nat → Reader Json
  | 0 => failHere .recursionLimitExceeded
  | fuel + 1 => do
    match ← skipBlanks with
    | none => failPeek .eofWhileParsingValue
    | some 'n' => do eat; ident ['u', 'l', 'l']; return .null
    | some 't' => do eat; ident ['r', 'u', 'e']; return .bool true
    | some 'f' => do eat; ident ['a', 'l', 's', 'e']; return .bool false
    | some '-' => do eat; return .number (← readNumber fuel false)
    | some '"' => return .string (← readString)
    | some '[' => do
      enter
      eat
      let xs ← items fuel true []
      endArray
      leave
      return .array xs
    | some '{' => do
      enter
      eat
      let ms ← members fuel true []
      endObject
      leave
      return .object ms
    | some c =>
      if c.isDigit then return .number (← readNumber fuel true) else failPeek .expectedSomeValue

def items : Nat → Bool → List Json → Reader (List Json)
  | 0, _, acc => return acc.reverse
  | fuel + 1, first, acc => do
    if ← nextItem first then
      let x ← value fuel
      items fuel false (x :: acc)
    else return acc.reverse

/-- Reads the members of an object into a map. -/
def members : Nat → Bool → List (String × Json) → Reader (List (String × Json))
  | 0, _, acc => return acc
  | fuel + 1, first, acc => do
    if ← nextMember first then
      let k ← readString
      colon
      let v ← value fuel
      members fuel false (insert k v acc)
    else return acc
end

/-- Refuses anything but blanks after the value. -/
def finish : Reader Unit := do
  match ← skipBlanks with
  | none => return ()
  | some _ => failPeek .trailingCharacters

/-- Runs a reader over a whole text. -/
def run {α : Type} (r : Reader α) (text : String) : Except ReadError α :=
  let cs := text.toList
  let s : Input := ⟨cs, 0, 128, cs.length + 1⟩
  ((do let a ← r; finish; return a : Reader α).run.run s).1

/-- Reads a text as one JSON value. -/
def parse (text : String) : Except ReadError Json :=
  run (do value (fuelFor (← get))) text

end FormatEngine.Json

import FormatEngine.Json.Reader
/-!
# Reading typed values from JSON

A typed reader reads a value of one shape straight from the text, as a derived decoder does,
and refuses anything else with the text a derived decoder gives:

* a value of another type is `invalid type: <what it is>, expected <what was wanted>`, and the
  description reads as much of the value as it needs (the whole of a string or number, only the
  opening bracket of an array or object);
* a value of the right type outside the target's range is `invalid value: ...`;
* a struct refuses a key it has already seen, and at its end every required field it has not
  seen; an unknown key's value is skipped, checked only for its syntax and without a nesting
  limit;
* a struct may also be written as an array of its fields in order.

An error about a value has no offset of its own: it is placed where the reader stands once the
innermost frame that places errors is done with it, which for brackets and braces is after the
closing one has been read.
-/
namespace FormatEngine.Json

/-- What a value of the wrong type turned out to be. -/
inductive Unexpected where
  | null
  | bool (b : Bool)
  | unsigned (n : Nat)
  | signed (n : Int)
  | float (x : Binary64)
  | str (s : String)
  | seq
  | map
  | unitVariant

/-- How a refusal describes a value. -/
def Unexpected.text : Unexpected → String
  | .null => "null"
  | .bool b => "boolean `" ++ toString b ++ "`"
  | .unsigned n => "integer `" ++ toString n ++ "`"
  | .signed n => "integer `" ++ toString n ++ "`"
  | .float x => "floating point `" ++ Binary64.shortestText Binary64.Layout.json x ++ "`"
  | .str s => "string " ++ Text.debugQuote s
  | .seq => "sequence"
  | .map => "map"
  | .unitVariant => "unit variant"

end FormatEngine.Json

namespace FormatEngine

/-- How a number describes itself in a refusal. -/
def JsonNumber.unexpected : JsonNumber → Json.Unexpected
  | .natural n => .unsigned n
  | .negative n => .signed n
  | .float x => .float x

end FormatEngine

namespace FormatEngine.Json.Decode

/-! ## Refusals -/

/-- A refusal about a value, not yet placed. -/
def custom (msg : String) : ReadError := ⟨.data msg, none⟩

/-- A value of another type than the one wanted. -/
def invalidType (u : Unexpected) (exp : String) : ReadError :=
  custom ("invalid type: " ++ u.text ++ ", expected " ++ exp)

/-- A value of the wanted type that the target cannot hold. -/
def invalidValue (u : Unexpected) (exp : String) : ReadError :=
  custom ("invalid value: " ++ u.text ++ ", expected " ++ exp)

/-- A struct written as an array with too few fields. -/
def invalidLength (n : Nat) (exp : String) : ReadError :=
  custom ("invalid length " ++ toString n ++ ", expected " ++ exp)

def missingField (name : String) : ReadError := custom ("missing field `" ++ name ++ "`")

def duplicateField (name : String) : ReadError := custom ("duplicate field `" ++ name ++ "`")

def ticked (name : String) : String := "`" ++ name ++ "`"

/-- The names a refusal offers instead. -/
def oneOf : List String → String
  | [] => ""
  | [a] => ticked a
  | [a, b] => ticked a ++ " or " ++ ticked b
  | names => "one of " ++ ", ".intercalate (names.map ticked)

/-- A variant name that is not one of `names`. -/
def unknownVariant (v : String) (names : List String) : ReadError :=
  if names.isEmpty then custom ("unknown variant " ++ ticked v ++ ", there are no variants")
  else custom ("unknown variant " ++ ticked v ++ ", expected " ++ oneOf names)

/-! ## Placing refusals -/

/-- Runs a reader and keeps its refusal as a value; where the reader stopped is kept either
way. -/
def attempt {α : Type} (r : Reader α) : Reader (Except ReadError α) :=
  tryCatch (Except.ok <$> r) fun e => pure (.error e)

/-- Refuses, placing an unplaced refusal where the reader stands. -/
def throwPlaced {α : Type} (e : ReadError) : Reader α := do throw (← fixPosition e)

/-- Takes a decoder's answer about a value just read. -/
def accept {α : Type} : Except ReadError α → Reader α
  | .ok a => pure a
  | .error e => throwPlaced e

/-- The refusal of a value that is not of the wanted type: it reads as much of the value as its
description needs and is placed after that. -/
def peekInvalidType (exp : String) : Reader ReadError := do
  let r ← attempt (show Reader ReadError from do
    match ← peek with
    | some 'n' => do eat; ident ['u', 'l', 'l']; return invalidType .null exp
    | some 't' => do eat; ident ['r', 'u', 'e']; return invalidType (.bool true) exp
    | some 'f' => do eat; ident ['a', 'l', 's', 'e']; return invalidType (.bool false) exp
    | some '-' => do
      eat
      let n ← readNumber (fuelFor (← get)) false
      return invalidType n.unexpected exp
    | some '"' => return invalidType (.str (← readString)) exp
    | some '[' => return invalidType .seq exp
    | some '{' => return invalidType .map exp
    | some c =>
      if c.isDigit then do
        let n ← readNumber (fuelFor (← get)) true
        return invalidType n.unexpected exp
      else failPeek .expectedSomeValue
    | none => failPeek .expectedSomeValue)
  match r with
  | .ok e => fixPosition e
  | .error e => return e

/-! ## Skipping values -/

/-- Skips the rest of a string whose opening quote was consumed, checking its escapes. -/
def skipString : Nat → Reader Unit
  | 0 => return ()
  | fuel + 1 => do
    match ← peek with
    | none => failHere .eofWhileParsingString
    | some '"' => eat
    | some '\\' =>
      eat
      match ← next with
      | none => failHere .eofWhileParsingString
      | some 'u' => do let _ ← hexEscape; skipString fuel
      | some c =>
        if c = '"' ∨ c = '\\' ∨ c = '/' ∨ c = 'b' ∨ c = 'f' ∨ c = 'n' ∨ c = 'r' ∨ c = 't' then
          skipString fuel
        else failOn c .invalidEscape
    | some c =>
      if c.toNat < 32 then failHere .controlCharacterWhileParsingString
      else do eat; skipString fuel

def skipExponent (fuel : Nat) : Reader Unit := do
  eat
  match ← peek with
  | some '+' | some '-' => eat
  | _ => pure ()
  match ← next with
  | some c =>
    if c.isDigit then do let _ ← skipDigits fuel; return ()
    else failOn c .invalidNumber
  | none => failHere .invalidNumber

def skipFraction (fuel : Nat) : Reader Unit := do
  eat
  if (← skipDigits fuel) = 0 then failPeek .invalidNumber
  match ← peek with
  | some 'e' | some 'E' => skipExponent fuel
  | _ => pure ()

/-- Skips a number after its sign, checking only its syntax. -/
def skipNumber (fuel : Nat) : Reader Unit := do
  match ← next with
  | some '0' =>
    match ← peek with
    | some c => if c.isDigit then failPeek .invalidNumber
    | none => pure ()
  | some c =>
    if c.isDigit then do let _ ← skipDigits fuel
    else failOn c .invalidNumber
  | none => failHere .invalidNumber
  match ← peek with
  | some '.' => skipFraction fuel
  | some 'e' | some 'E' => skipExponent fuel
  | _ => pure ()

/-- Closes the frames a skipped value ends: gives the frame to go on in and the frames around
it, or `none` once the outermost one is closed. A comma is accepted only after a value. -/
def skipClose : Nat → Bool → Char → List Char → Reader (Option (Char × List Char))
  | 0, _, frame, around => return some (frame, around)
  | fuel + 1, comma, frame, around => do
    match ← skipBlanks with
    | none => failPeek (if frame = '[' then .eofWhileParsingList else .eofWhileParsingObject)
    | some c =>
      if c = ',' ∧ comma then do eat; return some (frame, around)
      else if (c = ']' ∧ frame = '[') ∨ (c = '}' ∧ frame = '{') then do
        eat
        match around with
        | [] => return none
        | f :: rest => skipClose fuel true f rest
      else if comma then
        failPeek (if frame = '[' then .expectedListCommaOrEnd else .expectedObjectCommaOrEnd)
      else return some (frame, around)

/-- Skips values inside the given frames (innermost first) until the outermost is closed. -/
def skipIn : Nat → List Char → Reader Unit
  | 0, _ => return ()
  | fuel + 1, frames => do
    let opened ← match ← skipBlanks with
      | none => failPeek .eofWhileParsingValue
      | some 'n' => do eat; ident ['u', 'l', 'l']; pure none
      | some 't' => do eat; ident ['r', 'u', 'e']; pure none
      | some 'f' => do eat; ident ['a', 'l', 's', 'e']; pure none
      | some '-' => do eat; skipNumber fuel; pure none
      | some '"' => do eat; skipString fuel; pure none
      | some '[' => do eat; pure (some '[')
      | some '{' => do eat; pure (some '{')
      | some c =>
        if c.isDigit then do skipNumber fuel; pure none
        else failPeek .expectedSomeValue
    let next ← match opened, frames with
      | some f, _ => skipClose fuel false f frames
      | none, f :: rest => skipClose fuel true f rest
      | none, [] => pure none
    match next with
    | none => return ()
    | some (f, around) =>
      if f = '{' then
        match ← skipBlanks with
        | some '"' => eat
        | some _ => failPeek .keyMustBeAString
        | none => failPeek .eofWhileParsingObject
        skipString fuel
        match ← skipBlanks with
        | some ':' => eat
        | some _ => failPeek .expectedColon
        | none => failPeek .eofWhileParsingObject
      skipIn fuel (f :: around)

def skipValue : Reader Unit := do skipIn (fuelFor (← get)) []

/-! ## Typed readers -/

/-- Reads a string and hands it to `decode`; `exp` names what was wanted. -/
def stringWith {α : Type} (exp : String) (decode : String → Except ReadError α) : Reader α := do
  match ← skipBlanks with
  | none => failPeek .eofWhileParsingValue
  | some '"' => accept (decode (← readString))
  | some _ => throw (← peekInvalidType exp)

def string : Reader String := stringWith "a string" .ok

/-- Reads a number and hands it to `decode`; `exp` names what was wanted. -/
def numberWith {α : Type} (exp : String) (decode : JsonNumber → Except ReadError α) :
    Reader α := do
  match ← skipBlanks with
  | none => failPeek .eofWhileParsingValue
  | some '-' => do
    eat
    accept (decode (← readNumber (fuelFor (← get)) false))
  | some c =>
    if c.isDigit then accept (decode (← readNumber (fuelFor (← get)) true))
    else throw (← peekInvalidType exp)

def int32 : Reader Int32 := numberWith "i32" fun
  | .natural n => if n < Nat.pow 2 31 then .ok (Int32.ofNat n) else .error (invalidValue (.unsigned n) "i32")
  | .negative n => if -((Nat.pow 2 31 : Nat) : Int) ≤ n then .ok (Int32.ofInt n) else .error (invalidValue (.signed n) "i32")
  | .float x => .error (invalidType (.float x) "i32")

def uint32 : Reader UInt32 := numberWith "u32" fun
  | .natural n => if n < Nat.pow 2 32 then .ok n.toUInt32 else .error (invalidValue (.unsigned n) "u32")
  | .negative n => .error (invalidValue (.signed n) "u32")
  | .float x => .error (invalidType (.float x) "u32")

def size : Reader Nat := numberWith "usize" fun
  | .natural n => .ok n
  | .negative n => .error (invalidValue (.signed n) "usize")
  | .float x => .error (invalidType (.float x) "usize")

/-- Reads a binary64 value; an integer is rounded to the nearest one. -/
def float : Reader Binary64 := numberWith "f64" fun
  | .natural n => .ok (Binary64.ofNat n)
  | .negative n => .ok (Binary64.ofInt n)
  | .float x => .ok x

def option {α : Type} (r : Reader α) : Reader (Option α) := do
  match ← skipBlanks with
  | some 'n' => do eat; ident ['u', 'l', 'l']; return none
  | _ => some <$> r

/-- Reads inside brackets or braces: enters one level, runs `body` after the opening
character and then always reads the closing one. The body's refusal wins over the closing
one's, and either is placed where the reader stopped. -/
def framed {α : Type} (body : Reader α) (close : Reader Unit) : Reader α := do
  enter
  eat
  let r ← attempt body
  leave
  let c ← attempt close
  match r, c with
  | .ok a, .ok () => return a
  | .error e, _ => throwPlaced e
  | .ok _, .error e => throwPlaced e

/-- The items of an array, each read by `item`. -/
def items {α : Type} (item : Reader α) : Nat → Bool → List α → Reader (List α)
  | 0, _, acc => return acc.reverse
  | fuel + 1, first, acc => do
    if ← nextItem first then items item fuel false ((← item) :: acc)
    else return acc.reverse

/-- Reads an array whose items are read by `item`. -/
def seq {α : Type} (item : Reader α) : Reader (List α) := do
  match ← skipBlanks with
  | none => failPeek .eofWhileParsingValue
  | some '[' => framed (do items item (fuelFor (← get)) true []) endArray
  | some _ => throw (← peekInvalidType "a sequence")

/-- The next item of a struct written as an array, or `none` at its end. -/
def element {α : Type} (first : Bool) (item : Reader α) : Reader (Option α) := do
  if ← nextItem first then some <$> item else return none

/-- A required field of a struct written as an array: `index` fields came before it. -/
def required {α : Type} (exp : String) (index : Nat) (item : Reader α) : Reader α := do
  match ← element (index = 0) item with
  | some a => return a
  | none => throw (invalidLength index exp)

/-- The members of a struct written as an object. `field key s` is what a known key does; an
unknown key's value is skipped. -/
def members {σ : Type} (field : String → σ → Option (Reader σ)) : Nat → Bool → σ → Reader σ
  | 0, _, s => return s
  | fuel + 1, first, s => do
    if ← nextMember first then
      let k ← readString
      match field k s with
      | some r => do let s ← r; members field fuel false s
      | none => do colon; skipValue; members field fuel false s
    else return s

/-- A known field: refused when it was seen before, else its value is read after the colon. -/
def fieldValue {β : Type} (name : String) (seen : Bool) (r : Reader β) : Reader β := do
  if seen then throw (duplicateField name)
  colon
  r

/-- Reads a struct, written as an array (`fromSeq`) or as an object (`fromMap`). -/
def struct {α : Type} (exp : String) (fromSeq : Reader α) (fromMap : Reader α) : Reader α := do
  match ← skipBlanks with
  | none => failPeek .eofWhileParsingValue
  | some '[' => framed fromSeq endArray
  | some '{' => framed fromMap endObject
  | some _ => throw (← peekInvalidType exp)

/-- Reads a value tagged by one of `names`, written `{"name": value}`; `body` reads the value
of a known name. Inside the braces the name is read as an object's key is, so anything but a
string there is refused as a key, save the closing brace, which leaves the value missing. A
bare name is refused, since every variant carries a value. -/
def tagged {α : Type} (names : List String) (body : String → Reader α) : Reader α := do
  let name := stringWith "variant identifier" fun v =>
    if names.contains v then .ok v else .error (unknownVariant v names)
  let key : Reader String := do
    match ← skipBlanks with
    | some '"' => name
    | some '}' => failPeek .expectedSomeValue
    | some _ => failPeek .keyMustBeAString
    | none => failPeek .eofWhileParsingObject
  match ← skipBlanks with
  | some '{' =>
    enter
    eat
    let r ← attempt (do let v ← key; colon; body v)
    leave
    match r with
    | .error e => throw e
    | .ok a =>
      match ← skipBlanks with
      | some '}' => do eat; return a
      | some _ => failHere .expectedSomeValue
      | none => failHere .eofWhileParsingObject
  | some '"' => do
    let _ ← name
    throw (invalidType .unitVariant "newtype variant")
  | some _ => failPeek .expectedSomeValue
  | none => failPeek .eofWhileParsingValue

end FormatEngine.Json.Decode

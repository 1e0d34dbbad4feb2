import FormatEngine.Argument
import FormatEngine.Binary64.Decimal
import FormatEngine.Text.Integer
/-!
# Fixture arguments

A fixture argument is a typed value as a test case writes it: an `int`, a `uint`, a `double`, a
`str`, a `char` (which formats as the `int` of its code point) or a `ptr`. On the command line
an argument is written `kind:value`: the kind is matched without regard to ASCII case and may
be abbreviated to its conversion letter, and the value is everything after the first colon.
Unsigned values and addresses may have white space around them, underscores between digits and
a `0x` prefix for hex; the other kinds are read strictly.
-/
namespace FormatEngine

/-- A typed argument of a fixture case. -/
inductive FixtureArg where
  | int (v : Int32)
  | uint (v : UInt32)
  | double (x : Binary64)
  | str (s : String)
  | char (c : Char)
  | ptr (p : UInt64)
deriving DecidableEq, Inhabited

/-- Why a command-line argument was refused. -/
structure BadArg where
  raw : String
  reason : String
deriving DecidableEq, Inhabited

def BadArg.message (e : BadArg) : String := s!"bad argument '{e.raw}': {e.reason}"

namespace FixtureArg

/-- The formatting argument a fixture argument stands for. -/
def toArg : FixtureArg → Arg
  | .int v => .int v
  | .uint v => .uint v
  | .double x => .double x
  | .str s => Arg.ofString s
  | .char c => Arg.ofChar c
  | .ptr p => .ptr p

/-- An unsigned 64-bit value: trimmed, underscores dropped, hex after `0x` or `0X`. -/
def parseU64? (s : String) : Option Nat :=
  let cs := (Space.trimChars s.toList).filter (· != '_')
  match cs with
  | '0' :: 'x' :: hex | '0' :: 'X' :: hex => IntegerText.unsigned? 16 (Nat.pow 2 64) hex
  | _ => IntegerText.unsigned? 10 (Nat.pow 2 64) cs

/-- Splits at the first colon. -/
def splitKind : List Char → Option (List Char × List Char)
  | [] => none
  | ':' :: rest => some ([], rest)
  | c :: rest => (splitKind rest).map fun (k, v) => (c :: k, v)

def ofKind (kind : List Char) (value : List Char) : Except String FixtureArg :=
  let text := String.ofList value
  match kind.map Char.toLower with
  | ['i', 'n', 't'] | ['d'] =>
    match IntegerText.signed? (Nat.pow 2 31) value with
    | some v => .ok (.int (Int32.ofInt v))
    | none => .error "not an i32"
  | ['u', 'i', 'n', 't'] | ['u'] =>
    match parseU64? text with
    | some v => if v < Nat.pow 2 32 then .ok (.uint v.toUInt32) else .error "not a u32"
    | none => .error "not a u32"
  | ['d', 'o', 'u', 'b', 'l', 'e'] | ['f'] =>
    match Binary64.ofText? text with
    | some x => .ok (.double x)
    | none => .error "not an f64"
  | ['s', 't', 'r'] | ['s'] => .ok (.str text)
  | ['c', 'h', 'a', 'r'] | ['c'] =>
    match value with
    | [c] => .ok (.char c)
    | _ => .error "expected exactly one character"
  | ['p', 't', 'r'] | ['p'] =>
    match parseU64? text with
    | some v => .ok (.ptr v.toUInt64)
    | none => .error "not an address"
  | _ => .error "unknown kind (int|uint|double|str|char|ptr)"

/-- Reads the command-line form `kind:value`. -/
def parse (raw : String) : Except BadArg FixtureArg :=
  match splitKind raw.toList with
  | none => .error ⟨raw, "expected kind:value"⟩
  | some (k, v) =>
    match ofKind k v with
    | .ok a => .ok a
    | .error reason => .error ⟨raw, reason⟩

end FixtureArg
end FormatEngine

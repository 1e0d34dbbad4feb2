import FormatEngine.Bytes
import FormatEngine.Binary64
/-!
# Arguments

A formatting call takes a list of typed arguments. Each has a kind, and each directive that
takes an argument names the kind it expects; `ArgKind.Payload` is what an argument of that kind
carries, so `Arg.as?` reads the payload of an argument of the expected kind and refuses every
other. Characters and bytes are promoted to `int`.
-/
namespace FormatEngine

inductive ArgKind where
  | int
  | uint
  | double
  | str
  | ptr
deriving DecidableEq, Inhabited

/-- The C type a kind stands for, as error messages name it. -/
def ArgKind.name : ArgKind → String
  | .int => "int"
  | .uint => "unsigned int"
  | .double => "double"
  | .str => "char *"
  | .ptr => "void *"

def ArgKind.Payload : ArgKind → Type
  | .int => Int32
  | .uint => UInt32
  | .double => Binary64
  | .str => Bytes
  | .ptr => UInt64

inductive Arg where
  | int (v : Int32)
  | uint (v : UInt32)
  | double (v : Binary64)
  | str (b : Bytes)
  | ptr (p : UInt64)
deriving DecidableEq, Inhabited

namespace Arg

def kind : Arg → ArgKind
  | .int _ => .int
  | .uint _ => .uint
  | .double _ => .double
  | .str _ => .str
  | .ptr _ => .ptr

/-- The payload of an argument of kind `k`, and `none` for an argument of another kind. -/
def as? : Arg → (k : ArgKind) → Option k.Payload
  | .int v, .int => some v
  | .uint v, .uint => some v
  | .double v, .double => some v
  | .str b, .str => some b
  | .ptr p, .ptr => some p
  | _, _ => none

/-- A character is promoted to an `int` holding its code point. -/
def ofChar (c : Char) : Arg := .int (Int32.ofNat c.toNat)

/-- A byte is promoted to an `int`. -/
def ofByte (b : UInt8) : Arg := .int (Int32.ofNat b.toNat)

/-- A string argument holds its UTF-8 bytes. -/
def ofString (s : String) : Arg := .str (Bytes.ofString s)

theorem as?_isSome_iff (a : Arg) (k : ArgKind) : (a.as? k).isSome ↔ a.kind = k := by
  cases a <;> cases k <;> simp [as?, kind, Option.isSome]

end Arg
end FormatEngine

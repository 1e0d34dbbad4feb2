import FormatEngine.Printf
import FormatEngine.Binary64.Decimal
/-!
# The demonstration program

Nine lines, one per conversion and one for a literal percent sign, formatted in order by one
engine over an arena of the default capacity, so their scratch slices add up in the one arena.
The pointer line prints the address of a static byte; the address is a parameter.
-/
namespace FormatEngine.Demo

/-- The demonstration lines: each template with its arguments. -/
def lines (addr : UInt64) : List (Bytes × List Arg) :=
  [ (Bytes.ofString "String: %s\n", [Arg.ofString "Hell oWorld"]),
    (Bytes.ofString "Integer: %d\n", [.int 12345]),
    (Bytes.ofString "Unsigned: %u\n", [.uint 54321]),
    (Bytes.ofString "Hex: %x\n", [.uint 255]),
    (Bytes.ofString "Octal: %o\n", [.uint 255]),
    (Bytes.ofString "Float: %f\n", [.double (Binary64.ofDecimal false 123456 (-3))]),
    (Bytes.ofString "Char: %c\n", [Arg.ofChar 'A']),
    (Bytes.ofString "Pointer: %p\n", [.ptr addr]),
    (Bytes.ofString "Literal Percent: %%\n", []) ]

/-- Formats the lines in order into one sink, stopping at the first error; the count is the
bytes of all the lines. -/
def run (addr : UInt64) (c : FormatConfig) (s : Sink) : Delivery × Except FmtError Nat :=
  let step := fun (acc : Engine × Delivery × Except FmtError Nat) (line : Bytes × List Arg) =>
    match acc with
    | (e, d, .ok n) =>
      let (e, o) := e.fprintf s d line.1 line.2
      (e, o.delivery, o.result.map (n + ·))
    | stopped => stopped
  let (_, d, r) := (lines addr).foldl step (Engine.new (Arena.new Arena.defaultCapacity) c, .empty, .ok 0)
  (d, r)

end FormatEngine.Demo

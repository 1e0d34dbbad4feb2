import FormatEngine.Printf
import FormatEngine.Binary64.Decimal
/-!
# Benchmark workloads

The templates the benchmarks format, each with its arguments, and a stream of signed samples
from a 32-bit xorshift generator (shifts 13, 17, 5) seeded with `0x9e3779b9`, each sample the
state read as a signed word.
-/
namespace FormatEngine.Bench

structure Workload where
  name : String
  template : Bytes
  args : List Arg

def workloads : List Workload :=
  [ ⟨"literal", Bytes.ofString "the quick brown fox jumps over the lazy dog\n", []⟩,
    ⟨"integer", Bytes.ofString "Integer: %d\n", [.int 12345]⟩,
    ⟨"mixed", Bytes.ofString "%s=%d u=%u x=%x o=%o c=%c p=%p %%\n",
      [Arg.ofString "key", .int (-98765), .uint 4000000000, .uint 0xdeadbeef, .uint 0o755,
        Arg.ofChar 'z', .ptr 0x7fff1234]⟩,
    ⟨"float", Bytes.ofString "Float: %f\n", [.double (Binary64.ofDecimal false 123456 (-3))]⟩,
    ⟨"padded", Bytes.ofString "[%-12s|%012d|%08x]\n",
      [Arg.ofString "left", .int (-42), .uint 255]⟩ ]

def xorshift (s : UInt32) : UInt32 :=
  let s := s ^^^ (s <<< 13)
  let s := s ^^^ (s >>> 17)
  s ^^^ (s <<< 5)

/-- The first `count` samples after the seed. -/
def signedSamples (count : Nat) : List Int32 :=
  let rec go : Nat → UInt32 → List Int32
    | 0, _ => []
    | n + 1, s => let s := xorshift s; s.toInt32 :: go n s
  go count 0x9e3779b9

end FormatEngine.Bench

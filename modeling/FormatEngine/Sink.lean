import FormatEngine.Template
/-!
# Sinks

Where the writes of a formatting call go. Every sink takes bytes in order; a fill is delivered as
writes of at most 32 bytes each. An unbounded sink (a growable buffer, a reference to one, or a
writer that never fails) takes every write. A writer that can fail is judged write by write: its
acceptance test sees the bytes it holds and the length of the write, and a write it refuses ends
the call with an io error carrying the writer's message. A limited sink is such a writer, which
refuses a write that would take its total past its limit, saying `sink full`.
-/
namespace FormatEngine

/-- A destination for the bytes of a formatting call. -/
inductive Sink where
  /-- Takes every write. -/
  | unbounded
  /-- Takes a write of `len` bytes after `total` exactly when `accepts total len`, and refuses
  any other with an io error that says `message`. -/
  | refusing (accepts : Nat → Nat → Bool) (message : String)
deriving Inhabited

/-- What a sink received: the bytes it holds and each write it took. -/
structure Delivery where
  bytes : Bytes
  writes : List Bytes
deriving Inhabited

def Delivery.empty : Delivery := ⟨[], []⟩

namespace Sink

/-- The size of each write a fill is delivered in. -/
def chunk : Nat := 32

/-- A fill of `n` copies of `c` as writes of at most `chunk` bytes, `fuel` writes at most. -/
def fillChunksAux (c : UInt8) : Nat → Nat → List Bytes
  | 0, _ => []
  | fuel + 1, n =>
    if n = 0 then [] else List.replicate (min n chunk) c :: fillChunksAux c fuel (n - min n chunk)

/-- A fill of `n` copies of `c` as writes of `chunk` bytes and a shorter last one. -/
def fillChunks (c : UInt8) (n : Nat) : List Bytes := fillChunksAux c n n

/-- The byte writes a write is delivered as. -/
def chunks : Write → List Bytes
  | .bytes b => [b]
  | .fill c n => fillChunks c n

/-- A writer with room for `limit` bytes: it refuses a write that would take its total past the
limit. -/
def limited (limit : Nat) : Sink :=
  .refusing (fun total len => decide (total + len ≤ limit)) "sink full"

/-- Whether the sink takes a write of `len` bytes after `total` bytes. -/
def accepts : Sink → Nat → Nat → Bool
  | .unbounded, _, _ => true
  | .refusing f _, total, len => f total len

/-- What the sink's error says when it refuses a write. -/
def message : Sink → String
  | .unbounded => ""
  | .refusing _ m => m

/-- Delivers byte writes in order, stopping at the first refused one. -/
def deliver (s : Sink) : List Bytes → Delivery → Delivery × Option FmtError
  | [], d => (d, none)
  | w :: ws, d =>
    if s.accepts d.bytes.length w.length then
      deliver s ws ⟨d.bytes ++ w, d.writes ++ [w]⟩
    else (d, some (.io s.message))

/-- Runs a plan after what the sink already holds: its writes are delivered in order, and the
call ends with the first refused write, or else with the plan's own error, or else with the
count of bytes this call wrote. -/
def run (s : Sink) (p : Plan) (d : Delivery) : Delivery × Except FmtError Nat :=
  match s.deliver (p.writes.flatMap chunks) d with
  | (d', some e) => (d', .error e)
  | (d', none) =>
    match p.stop with
    | some e => (d', .error e)
    | none => (d', .ok (d'.bytes.length - d.bytes.length))

end Sink
end FormatEngine

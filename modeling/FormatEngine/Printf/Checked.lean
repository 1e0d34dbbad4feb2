import FormatEngine.Printf
import FormatEngine.Scratch.Checked
/-!
# A formatting call with every access checked

`fprintf?` is a formatting call run step by step. It takes the scratch slice out of the arena's
storage, cuts the template at its first NUL, and loops: it finds the next `%`, writes the run
before it, reads the directive after it byte by byte, takes the directive's argument, converts it
in the scratch slice with the converters of `Scratch.Checked`, and writes the field, then goes on
after the directive. Writes go to the sink as they are made, a fill in
chunks of 32, and the first one the sink refuses ends the call.

Every slice of the template, of a string argument, of the storage and of a fill's chunk is
checked, and so is every store into the scratch slice and every subtraction that could go below
zero: one out of range gives `none`, the call's panic. The main loop runs on fuel of one round
per `%` of the template and one more, and gives `none` when the fuel runs out, so a call that
gives `some` ended within that many rounds. `FormatEngine.Proofs.Totality` shows that
every call gives `some`, and what `fprintf` gives.
-/
namespace FormatEngine

/-- The bytes `[lo, hi)` of `xs`; refused unless `lo ≤ hi ≤ |xs|`. -/
def Bytes.slice? (xs : Bytes) (lo hi : Nat) : Option Bytes :=
  if lo ≤ hi ∧ hi ≤ xs.length then some ((xs.drop lo).take (hi - lo)) else none

namespace Arena

/-- The room left, a subtraction refused if the offset were past the capacity. -/
def remaining? (a : Arena) : Option Nat :=
  if a.offset ≤ a.capacity then some (a.capacity - a.offset) else none

/-- Takes `size` bytes from the arena and hands out those bytes of its storage: they may hold
what earlier calls left there. The slice of the storage is checked. -/
def allocate? (a : Arena) (storage : Array UInt8) (size : Nat) :
    Option (Except FmtError (Array UInt8 × Arena)) :=
  match a.remaining?, a.alloc size with
  | none, _ => none
  | some _, .error e => some (.error e)
  | some _, .ok ((lo, hi), a') =>
    if hi ≤ storage.size then some (.ok (storage.extract lo hi, a')) else none

end Arena

namespace Sink

/-- One write: the sink takes the bytes, or refuses them with its error and takes nothing. -/
def writeBytes (s : Sink) (d : Delivery) (b : Bytes) : Except FmtError Delivery :=
  if s.accepts d.bytes.length b.length then .ok ⟨d.bytes ++ b, d.writes ++ [b]⟩
  else .error (.io s.message)

/-- A fill of `left` more copies of `c`: each write is a slice of a chunk of 32 copies, until
none is left or the sink refuses one. Gives what the sink then holds, and its error if it
refused. -/
def writeRepeated? (s : Sink) (c : UInt8) :
    Nat → Delivery → Nat → Option (Delivery × Option FmtError)
  | 0, _, _ => none
  | fuel + 1, d, left =>
    if left = 0 then some (d, none) else do
      let w ← Bytes.slice? (List.replicate chunk c) 0 (min left chunk)
      match s.writeBytes d w with
      | .error e => some (d, some e)
      | .ok d => writeRepeated? s c fuel d (left - min left chunk)

end Sink

/-- What a call has handed its sink so far: the sink's delivery, and the count of bytes the call
wrote. -/
structure Counted where
  delivery : Delivery
  written : Nat

namespace Counted

def write (o : Counted) (s : Sink) (b : Bytes) : Counted × Option FmtError :=
  if b = [] then (o, none) else
  match s.writeBytes o.delivery b with
  | .ok d => (⟨d, o.written + b.length⟩, none)
  | .error e => (o, some e)

/-- Writes `n` copies of `c`, skipping an empty fill. A fill the sink refuses part of the way
leaves what it took in the sink. -/
def fill? (o : Counted) (s : Sink) (c : UInt8) (n : Nat) : Option (Counted × Option FmtError) :=
  if n = 0 then some (o, none) else
  (s.writeRepeated? c (n + 1) o.delivery n).map fun
    | (d, none) => (⟨d, o.written + n⟩, none)
    | (d, some e) => (⟨d, o.written⟩, some e)

end Counted

/-- Makes the writes in order, stopping at the first the sink refuses. -/
def perform? (s : Sink) : List Write → Counted → Option (Counted × Option FmtError)
  | [], o => some (o, none)
  | .bytes b :: ws, o =>
    match o.write s b with
    | (o, none) => perform? s ws o
    | r => some r
  | .fill c n :: ws, o => do
    match ← o.fill? s c n with
    | (o, none) => perform? s ws o
    | r => some r

namespace Directive

/-- The width loop: while the byte at `pos` is a digit, adds its value, a subtraction of 48
refused below zero, to ten times the width so far, caps it at `maxWidth` and moves on. Gives
where the digits end and the width. -/
def scanWidth? (r : Bytes) : Nat → Nat → Nat → Option (Nat × Nat)
  | 0, _, _ => none
  | fuel + 1, pos, w =>
    match r[pos]? with
    | some b =>
      if isDigit b then
        if 48 ≤ b.toNat then scanWidth? r fuel (pos + 1) (min maxWidth (w * 10 + (b.toNat - 48)))
        else none
      else some (pos, w)
    | none => some (pos, w)

/-- Reads a directive from the bytes after a `%` one index at a time: a
`-` at the first byte, a `0` at the next, the width loop, and the conversion byte where the
digits end, if the bytes go on that far. -/
def scan? (r : Bytes) : Option (Option (Directive × Nat)) := do
  let left := r[0]? == some 45
  let pos := if left then 1 else 0
  let zero := r[pos]? == some 48
  let pos := if zero then pos + 1 else pos
  let (pos, width) ← scanWidth? r (r.length + 1) pos 0
  pure (r[pos]?.map fun c => (⟨Conversion.ofByte c, left, zero, width⟩, pos + 1))

end Directive

namespace Template

/-- The field of a converter's text, read from the start of the buffer it leaves, or its lack
of room as the call's error. -/
def fieldOf (o : Scratch.Outcome) (cur : Cursor) (f : Bytes → List Write) :
    Except FmtError (List Write × Array UInt8 × Cursor) :=
  match o with
  | (_, .error e) => .error (.ofOverflow e)
  | (a, .ok len) => .ok (f (Scratch.textAt a 0 len), a, cur)

/-- One directive up to its writes: takes its argument, converts it in the scratch slice with
every access checked, and gives the field's writes, the slice and the cursor after it. -/
def convert? (c : FormatConfig) (scratch : Array UInt8) (d : Directive) (cur : Cursor) :
    Option (Except FmtError (List Write × Array UInt8 × Cursor)) :=
  let pads := c.width.pads
  match d.conversion with
  | .percent => some (.ok ([.bytes [37]], scratch, cur))
  | .unknown b => some (.ok ([.bytes [37, b]], scratch, cur))
  | .str =>
    match cur.next .str with
    | .error e => some (.error e)
    | .ok (s, cur) =>
      (Bytes.slice? s 0 (Bytes.strlen s)).map fun text => .ok (Field.writes pads d [] text, scratch, cur)
  | .char =>
    match cur.next .int with
    | .error e => some (.error e)
    | .ok (v, cur) => some (.ok (Field.writes pads d [] [UInt8.ofNat (v.toInt % 256).toNat], scratch, cur))
  | .signed =>
    match cur.next .int with
    | .error e => some (.error e)
    | .ok (v, cur) => (Scratch.itoa? scratch 0 v).map (fieldOf · cur (Field.signedWrites pads d))
  | .unsigned =>
    match cur.next .uint with
    | .error e => some (.error e)
    | .ok (v, cur) => (Scratch.utoa? scratch 0 v).map (fieldOf · cur (Field.writes pads d []))
  | .hex upper =>
    match cur.next .uint with
    | .error e => some (.error e)
    | .ok (v, cur) =>
      (Scratch.itoh? scratch 0 upper v.toUInt64).map (fieldOf · cur (Field.writes pads d []))
  | .octal =>
    match cur.next .uint with
    | .error e => some (.error e)
    | .ok (v, cur) => (Scratch.itoo? scratch 0 v).map (fieldOf · cur (Field.writes pads d []))
  | .float =>
    match cur.next .double with
    | .error e => some (.error e)
    | .ok (x, cur) =>
      (Scratch.ftoa? scratch x c.precision c.floatStyle).map
        (fieldOf · cur (Field.signedWrites pads d))
  | .pointer =>
    match cur.next .ptr with
    | .error e => some (.error e)
    | .ok (p, cur) => (Scratch.itoh? scratch 0 false p).map (fieldOf · cur (Field.writes pads d [48, 120]))

/-- The main loop over the template's text `t` from `pos`: writes the run up to the next `%`, or
to the end; writes a `%` that ends the text alone; otherwise reads the directive after it,
converts and writes its field, and goes on after the directive. -/
def walk? (c : FormatConfig) (s : Sink) (t : Bytes) :
    Nat → Nat → Array UInt8 → Cursor → Counted → Option (Counted × Option FmtError)
  | 0, _, _, _, _ => none
  | fuel + 1, pos, scratch, cur, o =>
    if pos < t.length then do
      let rest ← Bytes.slice? t pos t.length
      let runEnd := match rest.findIdx? (· == 37) with
        | some i => pos + i
        | none => t.length
      let run ← Bytes.slice? t pos runEnd
      match o.write s run with
      | (o, some e) => some (o, some e)
      | (o, none) =>
        if runEnd = t.length then some (o, none) else do
        let after ← Bytes.slice? t (runEnd + 1) t.length
        match ← Directive.scan? after with
        | none => some (o.write s [37])
        | some (d, consumed) =>
          match ← convert? c scratch d cur with
          | .error e => some (o, some e)
          | .ok (ws, scratch, cur) =>
            match ← perform? s ws o with
            | (o, some e) => some (o, some e)
            | (o, none) => walk? c s t fuel (runEnd + 1 + consumed) scratch cur o
    else some (o, none)

end Template

/-- A formatting call run step by step, with every access checked, into a sink that
already holds `d`. `storage` is the arena's storage, from which the scratch slice is cut. -/
def fprintf? (a : Arena) (storage : Array UInt8) (c : FormatConfig) (s : Sink) (d : Delivery)
    (t : Bytes) (args : List Arg) : Option Outcome := do
  match ← a.allocate? storage c.scratchSize with
  | .error e => some ⟨a, d, .error e⟩
  | .ok (scratch, a') =>
    let text ← Bytes.slice? t 0 (Bytes.strlen t)
    let (o, stop) ← Template.walk? c s text (text.count 37 + 1) 0 scratch (Cursor.start args) ⟨d, 0⟩
    some ⟨a', o.delivery, match stop with
      | some e => .error e
      | none => .ok o.written⟩

end FormatEngine

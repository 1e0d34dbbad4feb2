import FormatEngine.Printf
/-!
# Arena runs

One arena serves requests for bytes, resets and formatting calls in any order. A formatting
call acts on the arena exactly as a request for its scratch size does, whatever the call later
returns (`FormatCall.arena_eq`), so every run is a run of requests and resets.

Along every run the ranges handed out since the last reset lie end to end from `0` up to the
offset (`Tiling`): one step keeps this (`ArenaOp.exec_tiling`), hence every run does
(`ArenaOp.run_tiling`), and the ranges are pairwise disjoint and cover `[0, offset)`. With a
fixed scratch size `s` and no other requests, the `k`-th call after a reset gets its scratch
exactly when `k * s` fits in the capacity.
-/
namespace FormatEngine

namespace Arena

/-- The arena after a request for `size` bytes, granted or not. -/
def after (a : Arena) (size : Nat) : Arena :=
  match a.alloc size with
  | .ok (_, a') => a'
  | .error _ => a

/-- The range a request for `size` bytes hands out, if it is granted. -/
def granted (a : Arena) (size : Nat) : Option (Nat × Nat) :=
  match a.alloc size with
  | .ok (r, _) => some r
  | .error _ => none

theorem alloc_of_le {a : Arena} {size : Nat} (h : size ≤ a.remaining) :
    a.alloc size = .ok ((a.offset, a.offset + size), a.after size) := by
  unfold after alloc
  rw [dif_pos (show size ≤ a.capacity - a.offset from h)]

theorem alloc_of_lt {a : Arena} {size : Nat} (h : a.remaining < size) :
    a.alloc size = .error (.arenaExhausted size a.remaining) := by
  unfold alloc
  rw [dif_neg (show ¬size ≤ a.capacity - a.offset from Nat.not_le_of_lt h)]

theorem after_of_le {a : Arena} {size : Nat} (h : size ≤ a.remaining) :
    (a.after size).capacity = a.capacity ∧ (a.after size).offset = a.offset + size := by
  have hr := alloc_of_le h
  exact ((alloc_eq_ok_iff a size _).1 hr).2.2

theorem after_of_lt {a : Arena} {size : Nat} (h : a.remaining < size) : a.after size = a := by
  unfold after
  rw [alloc_of_lt h]

@[simp] theorem capacity_after (a : Arena) (size : Nat) : (a.after size).capacity = a.capacity := by
  by_cases h : size ≤ a.remaining
  · exact (after_of_le h).1
  · rw [after_of_lt (Nat.lt_of_not_le h)]

theorem granted_of_le {a : Arena} {size : Nat} (h : size ≤ a.remaining) :
    a.granted size = some (a.offset, a.offset + size) := by
  unfold granted
  rw [alloc_of_le h]

theorem granted_of_lt {a : Arena} {size : Nat} (h : a.remaining < size) : a.granted size = none := by
  unfold granted
  rw [alloc_of_lt h]

@[simp] theorem capacity_reset (a : Arena) : a.reset.capacity = a.capacity := rfl

@[simp] theorem offset_reset (a : Arena) : a.reset.offset = 0 := rfl

end Arena

/-! ## Formatting calls -/

/-- A formatting call on a shared arena: into a sink, or into a fresh buffer. -/
inductive FormatCall where
  | fprintf (c : FormatConfig) (s : Sink) (d : Delivery) (t : Bytes) (args : List Arg)
  | sprintf (c : FormatConfig) (t : Bytes) (args : List Arg)

namespace FormatCall

def config : FormatCall → FormatConfig
  | fprintf c .. => c
  | sprintf c .. => c

def arena : FormatCall → Arena → Arena
  | fprintf c s d t args, a => (FormatEngine.fprintf a c s d t args).arena
  | sprintf c t args, a => (FormatEngine.sprintf a c t args).1

end FormatCall

/-- The scratch slice is taken before anything else: the arena after a call is the arena after
a request for the scratch size, whatever the sink, the template or the arguments. -/
theorem fprintf_arena (a : Arena) (c : FormatConfig) (s : Sink) (d : Delivery) (t : Bytes)
    (args : List Arg) : (fprintf a c s d t args).arena = a.after c.scratchSize := by
  unfold fprintf Arena.after
  cases a.alloc c.scratchSize with
  | error e => rfl
  | ok r => rfl

theorem sprintf_arena (a : Arena) (c : FormatConfig) (t : Bytes) (args : List Arg) :
    (sprintf a c t args).1 = a.after c.scratchSize :=
  fprintf_arena a c .unbounded .empty t args

theorem FormatCall.arena_eq (call : FormatCall) (a : Arena) :
    call.arena a = a.after call.config.scratchSize := by
  cases call with
  | fprintf c s d t args => exact fprintf_arena a c s d t args
  | sprintf c t args => exact sprintf_arena a c t args

/-- An engine's calls take their scratch from the engine's arena as the plain calls do. -/
theorem Engine.fprintf_arena (e : Engine) (s : Sink) (d : Delivery) (t : Bytes) (args : List Arg) :
    (e.fprintf s d t args).1.arena = e.arena.after e.config.scratchSize :=
  FormatEngine.fprintf_arena e.arena e.config s d t args

theorem Engine.sprintf_arena (e : Engine) (t : Bytes) (args : List Arg) :
    (e.sprintf t args).1.arena = e.arena.after e.config.scratchSize :=
  FormatEngine.sprintf_arena e.arena e.config t args

/-! ## Runs -/

/-- An operation on an arena: a request for `size` bytes (as a range or as a slice), a reset,
or a formatting call. -/
inductive ArenaOp where
  | alloc (size : Nat)
  | reset
  | format (call : FormatCall)

/-- An arena with the ranges handed out since its last reset, the latest first. -/
structure ArenaState where
  arena : Arena
  ranges : List (Nat × Nat)

namespace ArenaOp

/-- One operation. A formatting call records the range its scratch request is handed. -/
def exec : ArenaOp → ArenaState → ArenaState
  | alloc size, ⟨a, rs⟩ => ⟨a.after size, (a.granted size).toList ++ rs⟩
  | reset, ⟨a, _⟩ => ⟨a.reset, []⟩
  | format call, ⟨a, rs⟩ =>
    ⟨call.arena a, (a.granted call.config.scratchSize).toList ++ rs⟩

def run (st : ArenaState) (ops : List ArenaOp) : ArenaState :=
  ops.foldl (fun st op => op.exec st) st

@[simp] theorem run_nil (st : ArenaState) : run st [] = st := rfl

@[simp] theorem run_cons (st : ArenaState) (op : ArenaOp) (ops : List ArenaOp) :
    run st (op :: ops) = run (op.exec st) ops := rfl

/-- A formatting call is the request for its scratch size. -/
theorem exec_format (call : FormatCall) (st : ArenaState) :
    (format call).exec st = (alloc call.config.scratchSize).exec st := by
  obtain ⟨a, rs⟩ := st
  simp only [exec, FormatCall.arena_eq]

theorem capacity_exec (op : ArenaOp) (st : ArenaState) :
    (op.exec st).arena.capacity = st.arena.capacity := by
  cases op with
  | alloc size => simp [exec]
  | reset => simp [exec]
  | format call => rw [exec_format]; simp [exec]

theorem capacity_run (st : ArenaState) (ops : List ArenaOp) :
    (run st ops).arena.capacity = st.arena.capacity := by
  induction ops generalizing st with
  | nil => rfl
  | cons op ops ih => rw [run_cons, ih, capacity_exec]

end ArenaOp

/-- The requests called on a shared arena under its lock run one after another. -/
theorem sprintfAll_arena (a : Arena) (c : FormatConfig) (reqs : List (Bytes × List Arg))
    (rs : List (Nat × Nat)) :
    (sprintfAll a c reqs).1 =
      (ArenaOp.run ⟨a, rs⟩ (reqs.map fun q => .format (.sprintf c q.1 q.2))).arena := by
  induction reqs generalizing a rs with
  | nil => rfl
  | cons q reqs ih =>
    obtain ⟨t, args⟩ := q
    rw [List.map_cons, ArenaOp.run_cons, ← ih]
    rfl

/-! ## Ranges laid end to end -/

/-- Ranges laid end to end from `0` up to `n`, the latest first. -/
inductive Tiling : List (Nat × Nat) → Nat → Prop
  | nil : Tiling [] 0
  | grant {rs : List (Nat × Nat)} {n : Nat} (size : Nat) :
      Tiling rs n → Tiling ((n, n + size) :: rs) (n + size)

namespace Tiling

variable {rs : List (Nat × Nat)} {n : Nat}

theorem le_of_mem (h : Tiling rs n) {r : Nat × Nat} (hr : r ∈ rs) : r.1 ≤ r.2 ∧ r.2 ≤ n := by
  induction h with
  | nil => cases hr
  | grant size _ ih =>
    rcases List.mem_cons.1 hr with rfl | hr
    · exact ⟨Nat.le_add_right _ _, Nat.le_refl _⟩
    · have := ih hr
      omega

/-- Every range ends before any later one starts. -/
theorem pairwise (h : Tiling rs n) : rs.Pairwise fun r r' => r'.2 ≤ r.1 := by
  induction h with
  | nil => exact .nil
  | grant size h ih => exact List.pairwise_cons.2 ⟨fun r' hr' => (h.le_of_mem hr').2, ih⟩

theorem pairwise_disjoint (h : Tiling rs n) :
    rs.Pairwise fun r r' => ∀ x, r.1 ≤ x → x < r.2 → ¬(r'.1 ≤ x ∧ x < r'.2) :=
  h.pairwise.imp fun hle x hx _ hx' => by omega

/-- The ranges cover `[0, n)` and nothing else. -/
theorem lt_iff (h : Tiling rs n) (x : Nat) : x < n ↔ ∃ r ∈ rs, r.1 ≤ x ∧ x < r.2 := by
  induction h with
  | nil => simp
  | @grant rs n size h ih =>
    simp only [List.mem_cons, exists_eq_or_imp, ← ih]
    omega

/-- A request extends the tiling by the range it is handed, if any. -/
theorem after (a : Arena) (size : Nat) (h : Tiling rs a.offset) :
    Tiling ((a.granted size).toList ++ rs) (a.after size).offset := by
  by_cases hs : size ≤ a.remaining
  · rw [Arena.granted_of_le hs, (Arena.after_of_le hs).2]
    exact .grant size h
  · rw [Arena.granted_of_lt (Nat.lt_of_not_le hs), Arena.after_of_lt (Nat.lt_of_not_le hs)]
    exact h

end Tiling

namespace ArenaOp

/-- One step keeps the ranges since the last reset laid end to end up to the offset. -/
theorem exec_tiling (op : ArenaOp) {st : ArenaState} (h : Tiling st.ranges st.arena.offset) :
    Tiling (op.exec st).ranges (op.exec st).arena.offset := by
  obtain ⟨a, rs⟩ := st
  cases op with
  | alloc size => exact Tiling.after a size h
  | reset => exact .nil
  | format call =>
    rw [exec_format]
    exact Tiling.after a _ h

theorem run_tiling (ops : List ArenaOp) {st : ArenaState} (h : Tiling st.ranges st.arena.offset) :
    Tiling (run st ops).ranges (run st ops).arena.offset := by
  induction ops generalizing st with
  | nil => exact h
  | cons op ops ih => exact ih (exec_tiling op h)

end ArenaOp

/-! ## Calls of one scratch size -/

namespace Arena

variable {a : Arena} {s j : Nat}

/-- After `j` requests of `s` bytes from offset `0`, the offset is `s` times the number of them
granted, which is `j` until the capacity runs out. -/
def CountedOffset (a : Arena) (s j : Nat) : Prop := a.offset = s * min j (a.capacity / s)

theorem le_remaining_iff (h : a.CountedOffset s j) : s ≤ a.remaining ↔ (j + 1) * s ≤ a.capacity := by
  unfold CountedOffset at h
  unfold remaining
  rcases Nat.eq_zero_or_pos s with rfl | hs
  · simp
  have hle : s * (a.capacity / s) ≤ a.capacity := Nat.mul_div_le a.capacity s
  have hlt : a.capacity < s * (a.capacity / s) + s := Nat.lt_mul_div_succ a.capacity hs
  have hsucc : (j + 1) * s = s * j + s := by rw [Nat.succ_mul, Nat.mul_comm]
  by_cases hj : j < a.capacity / s
  · rw [Nat.min_eq_left (Nat.le_of_lt hj)] at h
    omega
  · -- every request so far was granted that fit, and what is left is less than `s`
    rw [Nat.min_eq_right (Nat.le_of_not_lt hj)] at h
    have hq : s * (a.capacity / s) + s ≤ (j + 1) * s := by
      rw [hsucc]
      exact Nat.add_le_add_right (Nat.mul_le_mul_left s (Nat.le_of_not_lt hj)) s
    omega

theorem countedOffset_after (h : a.CountedOffset s j) : (a.after s).CountedOffset s (j + 1) := by
  unfold CountedOffset
  rw [capacity_after]
  by_cases hs : s ≤ a.remaining
  · have hj := (le_remaining_iff h).1 hs
    rcases Nat.eq_zero_or_pos s with rfl | hpos
    · simp [(after_of_le hs).2, h.trans (Nat.zero_mul _)]
    have hq : j + 1 ≤ a.capacity / s := (Nat.le_div_iff_mul_le hpos).2 hj
    unfold CountedOffset at h
    rw [(after_of_le hs).2, h, Nat.min_eq_left (by omega), Nat.min_eq_left hq, Nat.mul_succ]
  · have hj : ¬ (j + 1) * s ≤ a.capacity := fun hj => hs ((le_remaining_iff h).2 hj)
    rw [after_of_lt (Nat.lt_of_not_le hs)]
    unfold CountedOffset at h
    rcases Nat.eq_zero_or_pos s with rfl | hpos
    · simp at hj
    have hq : ¬ j + 1 ≤ a.capacity / s := fun hq => hj ((Nat.le_div_iff_mul_le hpos).1 hq)
    rw [h, Nat.min_eq_right (by omega), Nat.min_eq_right (by omega)]

end Arena

namespace ArenaOp

theorem run_calls_countedOffset {s j : Nat} (calls : List FormatCall)
    (hs : ∀ call ∈ calls, call.config.scratchSize = s) {st : ArenaState}
    (h : st.arena.CountedOffset s j) :
    (run st (calls.map format)).arena.CountedOffset s (j + calls.length) := by
  induction calls generalizing st j with
  | nil => exact h
  | cons call calls ih =>
    obtain ⟨a, rs⟩ := st
    have hcall := hs call (List.mem_cons_self ..)
    have hnext : ((alloc s).exec ⟨a, rs⟩).arena.CountedOffset s (j + 1) :=
      Arena.countedOffset_after h
    rw [List.map_cons, run_cons, exec_format, hcall, List.length_cons,
      show j + (calls.length + 1) = j + 1 + calls.length by omega]
    exact ih (fun c hc => hs c (List.mem_cons_of_mem _ hc)) hnext

end ArenaOp

/-! ## Whole runs -/

/-- Along every run of requests, resets and formatting calls on an arena of capacity `C`, the
capacity stays `C`, and the ranges handed out since the last reset are pairwise disjoint and
cover exactly `[0, offset)`, with `offset ≤ C`. A request is granted exactly when it fits the
room left, and is then handed the next range; otherwise it fails with the room asked for and
the room left and changes nothing. A reset gives all the room back. A formatting call acts on
the arena as the request for its scratch size, whatever it later returns, and so do an engine's
calls; calls under a shared arena's lock make one run. After a reset, calls
of one scratch size `s` and nothing else: the offset is `s` times the number of calls granted,
and the `k`-th call is granted its scratch exactly when `k * s ≤ C`. -/
theorem arena_runs_tile (C : Nat) :
    (∀ ops : List ArenaOp,
      let st := ArenaOp.run ⟨Arena.new C, []⟩ ops
      st.arena.capacity = C ∧ st.arena.offset ≤ C ∧
        st.ranges.Pairwise (fun r r' => ∀ x, r.1 ≤ x → x < r.2 → ¬(r'.1 ≤ x ∧ x < r'.2)) ∧
        ∀ x, x < st.arena.offset ↔ ∃ r ∈ st.ranges, r.1 ≤ x ∧ x < r.2) ∧
    (∀ (a : Arena) (size : Nat), a.capacity = C →
      (size ≤ C - a.offset →
        a.alloc size = .ok ((a.offset, a.offset + size), a.after size) ∧
          (a.after size).offset = a.offset + size) ∧
      (C - a.offset < size →
        a.alloc size = .error (.arenaExhausted size (C - a.offset)) ∧ a.after size = a) ∧
      a.reset.capacity = C ∧ a.reset.offset = 0) ∧
    (∀ (a : Arena) (call : FormatCall), call.arena a = a.after call.config.scratchSize) ∧
    (∀ (e : Engine) (s : Sink) (d : Delivery) (t : Bytes) (args : List Arg),
      (e.fprintf s d t args).1.arena = e.arena.after e.config.scratchSize ∧
        (e.sprintf t args).1.arena = e.arena.after e.config.scratchSize ∧
        e.resetArena.arena.offset = 0) ∧
    (∀ (a : Arena) (c : FormatConfig) (reqs : List (Bytes × List Arg)),
      (sprintfAll a c reqs).1 =
        (ArenaOp.run ⟨a, []⟩ (reqs.map fun q => .format (.sprintf c q.1 q.2))).arena) ∧
    (∀ (st : ArenaState) (calls : List FormatCall) (s : Nat), st.arena.capacity = C →
      (∀ call ∈ calls, call.config.scratchSize = s) →
      let a := (ArenaOp.run st (.reset :: calls.map .format)).arena
      a.offset = s * min calls.length (C / s) ∧
        (s ≤ a.remaining ↔ (calls.length + 1) * s ≤ C)) := by
  refine ⟨fun ops => ?_, fun a size hC => ?_, fun a call => FormatCall.arena_eq call a,
    fun e s d t args => ⟨Engine.fprintf_arena e s d t args, Engine.sprintf_arena e t args, rfl⟩,
    fun a c reqs => sprintfAll_arena a c reqs [], fun st calls s hC hs => ?_⟩
  · -- the run from a fresh arena starts from the empty tiling
    have ht : Tiling (ArenaOp.run ⟨Arena.new C, []⟩ ops).ranges
        (ArenaOp.run ⟨Arena.new C, []⟩ ops).arena.offset := ArenaOp.run_tiling ops .nil
    have hcap : (ArenaOp.run ⟨Arena.new C, []⟩ ops).arena.capacity = C :=
      ArenaOp.capacity_run _ ops
    have hle := (ArenaOp.run ⟨Arena.new C, []⟩ ops).arena.offset_le
    rw [hcap] at hle
    exact ⟨hcap, hle, ht.pairwise_disjoint, ht.lt_iff⟩
  · subst hC
    exact ⟨fun h => ⟨Arena.alloc_of_le h, (Arena.after_of_le h).2⟩,
      fun h => ⟨Arena.alloc_of_lt h, Arena.after_of_lt h⟩, rfl, rfl⟩
  · -- after the reset no call has been made, and the offset is `0`
    have h0 : (ArenaOp.reset.exec st).arena.CountedOffset s 0 := by
      simp [ArenaOp.exec, Arena.CountedOffset]
    have hrun := ArenaOp.run_calls_countedOffset calls hs h0
    rw [Nat.zero_add] at hrun
    have hcap : (ArenaOp.run st (.reset :: calls.map .format)).arena.capacity = C :=
      (ArenaOp.capacity_run _ _).trans hC
    refine ⟨?_, ?_⟩
    · rw [← hcap]
      exact hrun
    · rw [← hcap]
      exact Arena.le_remaining_iff hrun

/-- The default arena holds the scratch of ten calls with the default configuration, and the
eleventh call after a reset finds no room. -/
theorem eleventh_default_call_exhausts_arena :
    let a := (ArenaOp.run ⟨Arena.new Arena.defaultCapacity, []⟩
      (.reset :: (List.replicate 10 (FormatCall.sprintf {} [] [])).map .format)).arena
    a.offset = 1000 ∧ ¬ ({} : FormatConfig).scratchSize ≤ a.remaining := by
  have h := (arena_runs_tile Arena.defaultCapacity).2.2.2.2.2 ⟨Arena.new Arena.defaultCapacity, []⟩
    (List.replicate 10 (FormatCall.sprintf {} [] [])) 100 rfl
    (fun call hc => by rw [List.eq_of_mem_replicate hc]; rfl)
  simp only [List.length_replicate] at h
  exact ⟨h.1, fun hs => absurd (h.2.1 hs) (by decide)⟩

end FormatEngine

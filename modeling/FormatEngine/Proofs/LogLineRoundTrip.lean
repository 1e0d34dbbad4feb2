import Mathlib
import FormatEngine.Log.Validate
import FormatEngine.Proofs.MemberMaps
/-!
# A log line read back

An entry's line is the compact form of an object whose members are its fields in a fixed order,
the absent optional ones left out. A validator reads the line as a map, so it sees the fields in
key order (`sortMembers_fields`); it checks the schema on the map and takes the members into a
partial entry one by one.

`Readable` gathers what an entry needs for this to succeed: a trace id with `::`, the case and
outcome of a case result, a byte count of 64 bits, and details that the reader gives back as
they are. Main statement: `line_toJsonl`, the line of a readable entry validates under any line
number and decodes to the entry, with one change: details that are `null` come back as no
details (`null_details_read_back_as_absent`), where details nested 127 levels deep are refused.
-/
namespace FormatEngine

theorem LogLevel.ofName?_name (l : LogLevel) : LogLevel.ofName? l.name = some l := by
  cases l <;> rfl

theorem CaseOutcome.ofName?_name (o : CaseOutcome) : CaseOutcome.ofName? o.name = some o := by
  cases o <;> rfl

namespace Json

/-! ## Optional members -/

theorem optionalMembers_eq_filterMap (l : List (String × Option Json)) :
    LogEntry.optionalMembers l = l.filterMap fun p => p.2.map (p.1, ·) := by
  induction l with
  | nil => rfl
  | cons p l ih =>
    obtain ⟨k, _ | v⟩ := p
    · simpa [LogEntry.optionalMembers] using ih
    · simpa [LogEntry.optionalMembers] using ih

/-- The present members of a list of optional ones, when its keys increase, form a map, and a
key of it is looked up to what the list gives it: its value, or nothing when it is absent. -/
theorem get?_optionalMembers {l : List (String × Option Json)} (hl : l.Pairwise (·.1 < ·.1))
    {k : String} {o : Option Json} (hk : (k, o) ∈ l) :
    (Json.object (LogEntry.optionalMembers l)).get? k = o := by
  have hs : KeysSorted (LogEntry.optionalMembers l) := by
    rw [optionalMembers_eq_filterMap]
    refine hl.filterMap _ ?_
    intro a b hab a' ha' b' hb'
    obtain ⟨_, -, rfl⟩ := Option.map_eq_some_iff.1 ha'
    obtain ⟨_, -, rfl⟩ := Option.map_eq_some_iff.1 hb'
    exact hab
  cases o with
  | some v =>
    refine get?_of_mem hs ?_
    rw [optionalMembers_eq_filterMap, List.mem_filterMap]
    exact ⟨_, hk, rfl⟩
  | none =>
    refine get?_of_not_mem fun hmem => ?_
    -- a present member under `k` would be a second entry of the list with the key `k`
    obtain ⟨⟨k', v⟩, hv, hk'⟩ := List.mem_map.1 hmem
    simp only at hk'
    subst hk'
    rw [optionalMembers_eq_filterMap, List.mem_filterMap] at hv
    obtain ⟨⟨k'', o'⟩, ho', hsome⟩ := hv
    obtain ⟨v', rfl, hkv⟩ := Option.map_eq_some_iff.1 hsome
    simp only [Prod.mk.injEq] at hkv
    obtain ⟨rfl, rfl⟩ := hkv
    have hnodup : (l.map Prod.fst).Nodup := (List.pairwise_map.2 hl).imp ne_of_lt
    have := List.inj_on_of_nodup_map hnodup hk ho' rfl
    simp at this

theorem any_optionalMembers {l : List (String × Option Json)} (hl : l.Pairwise (·.1 < ·.1))
    {k : String} {o : Option Json} (hk : (k, o) ∈ l) :
    (LogEntry.optionalMembers l).any (·.1 == k) = o.isSome := by
  have hget := get?_optionalMembers hl hk
  cases o with
  | some v =>
    simp only [get?, Option.map_eq_some_iff] at hget
    obtain ⟨p, hp, -⟩ := hget
    simp only [Option.isSome_some, List.any_eq_true]
    exact ⟨p, List.mem_of_find?_eq_some hp, by simpa using List.find?_some hp⟩
  | none =>
    simp only [get?, Option.map_eq_none_iff, List.find?_eq_none] at hget
    simp only [Option.isSome_none, List.any_eq_false]
    exact fun p hp => by simpa using hget p hp

/-! ## Members a reader keeps -/

theorem exactMembers_of_forall {ms : List (String × Json)} (h : ∀ p ∈ ms, p.2.exact) :
    exactMembers ms = true := by
  induction ms with
  | nil => rfl
  | cons p ms ih =>
    obtain ⟨k, v⟩ := p
    simp only [exactMembers, Bool.and_eq_true]
    exact ⟨h _ List.mem_cons_self, ih fun q hq => h q (List.mem_cons_of_mem _ hq)⟩

theorem depthMembers_lt {ms : List (String × Json)} {n : Nat} (hn : 0 < n)
    (h : ∀ p ∈ ms, p.2.depth < n) : depthMembers ms < n := by
  induction ms with
  | nil => exact hn
  | cons p ms ih =>
    obtain ⟨k, v⟩ := p
    simp only [depthMembers, max_lt_iff]
    exact ⟨h _ List.mem_cons_self, ih fun q hq => h q (List.mem_cons_of_mem _ hq)⟩

theorem depth_iterate_array (n : Nat) : ((fun j => Json.array [j])^[n] .null).depth = n := by
  induction n with
  | zero => rfl
  | succ n ih => simp [Function.iterate_succ_apply', depth, depthItems, ih]

end Json
namespace LogEntry
open Json

/-! ## The fields of a line -/

/-- The entry's fields under their keys, in the order its line writes them, an absent optional
field as `none`. -/
def fields (e : LogEntry) : List (String × Option Json) :=
  [("timestamp", some (.string e.timestamp)), ("trace_id", some (.string e.traceId)),
   ("level", some (.string e.level.name)), ("event", some (.string e.event)),
   ("case", e.case.map .string), ("template", e.template.map .string),
   ("outcome", e.outcome.map fun o => .string o.name), ("bytes", e.bytes.map Json.nat),
   ("error", e.error.map .string), ("details", e.details)]

theorem toJson_eq_fields (e : LogEntry) : e.toJson = .object (optionalMembers e.fields) := rfl

/-- The same fields in key order. -/
def sortedFields (e : LogEntry) : List (String × Option Json) :=
  [("bytes", e.bytes.map Json.nat), ("case", e.case.map .string), ("details", e.details),
   ("error", e.error.map .string), ("event", some (.string e.event)),
   ("level", some (.string e.level.name)), ("outcome", e.outcome.map fun o => .string o.name),
   ("template", e.template.map .string), ("timestamp", some (.string e.timestamp)),
   ("trace_id", some (.string e.traceId))]

theorem fields_perm (e : LogEntry) : e.fields.Perm e.sortedFields := by
  -- the fields by position: the key order is a fixed rearrangement of the positions
  have hidx : [0, 1, 2, 3, 4, 5, 6, 7, 8, 9].Perm [7, 4, 9, 8, 3, 2, 6, 5, 0, 1] := by decide
  exact hidx.map fun i => e.fields.getD i ("", none)

theorem pairwise_sortedFields (e : LogEntry) : e.sortedFields.Pairwise (·.1 < ·.1) := by
  have hkeys : (["bytes", "case", "details", "error", "event", "level", "outcome", "template",
      "timestamp", "trace_id"] : List String).Pairwise (· < ·) := by decide
  exact List.pairwise_map.1 hkeys

theorem sortMembers_fields (e : LogEntry) :
    sortMembers (optionalMembers e.fields) = optionalMembers e.sortedFields := by
  refine sortMembers_eq_of_perm ?_ ?_
  · rw [optionalMembers_eq_filterMap, optionalMembers_eq_filterMap]
    exact (fields_perm e).filterMap _
  · rw [optionalMembers_eq_filterMap]
    refine (pairwise_sortedFields e).filterMap _ ?_
    intro a b hab a' ha' b' hb'
    obtain ⟨_, -, rfl⟩ := Option.map_eq_some_iff.1 ha'
    obtain ⟨_, -, rfl⟩ := Option.map_eq_some_iff.1 hb'
    exact hab

/-! ## Reading and checking the line -/

/-- Each value of an entry's line is a string, the byte count, or the details. -/
theorem value_of_mem_fields {e : LogEntry} {k : String} {o : Option Json} (h : (k, o) ∈ e.fields)
    {v : Json} (hv : o = some v) :
    (∃ s, v = .string s) ∨ (∃ n ∈ e.bytes, v = Json.nat n) ∨ v ∈ e.details := by
  simp only [fields, List.mem_cons, Prod.mk.injEq, List.not_mem_nil, or_false] at h
  rcases h with ⟨-, rfl⟩ | ⟨-, rfl⟩ | ⟨-, rfl⟩ | ⟨-, rfl⟩ | ⟨-, rfl⟩ | ⟨-, rfl⟩ | ⟨-, rfl⟩ |
    ⟨-, rfl⟩ | ⟨-, rfl⟩ | ⟨-, rfl⟩
  · exact .inl ⟨_, (Option.some.inj hv).symm⟩
  · exact .inl ⟨_, (Option.some.inj hv).symm⟩
  · exact .inl ⟨_, (Option.some.inj hv).symm⟩
  · exact .inl ⟨_, (Option.some.inj hv).symm⟩
  all_goals try rw [Option.map_eq_some_iff] at hv
  · obtain ⟨s, -, rfl⟩ := hv
    exact .inl ⟨s, rfl⟩
  · obtain ⟨s, -, rfl⟩ := hv
    exact .inl ⟨s, rfl⟩
  · obtain ⟨o, -, rfl⟩ := hv
    exact .inl ⟨o.name, rfl⟩
  · obtain ⟨n, hn, rfl⟩ := hv
    exact .inr (.inl ⟨n, hn, rfl⟩)
  · obtain ⟨s, -, rfl⟩ := hv
    exact .inl ⟨s, rfl⟩
  · exact .inr (.inr hv)

/-- What an entry needs for its line to validate: a trace id of the form
`<run id>::<sequence>`, the case and outcome that a case result names, a byte count of 64 bits,
and details that a reader gives back as they are: integers of 64 bits and no floats, objects as
maps, and nesting within the reader's limit, which the entry's own object counts once. -/
structure Readable (e : LogEntry) : Prop where
  traceId : LogValidation.hasSeparator e.traceId.toList = true
  caseResult : e.event = eventCaseResult → e.case.isSome ∧ e.outcome.isSome
  bytes : ∀ n ∈ e.bytes, n < 2 ^ 64
  detailsExact : ∀ d ∈ e.details, d.exact
  detailsMap : ∀ d ∈ e.details, d.normalize = d
  detailsDepth : ∀ d ∈ e.details, d.depth < 127

/-- Every value of a readable entry's line is one a reader keeps as it is. -/
theorem kept_of_mem_fields {e : LogEntry} (h : Readable e) :
    ∀ p ∈ optionalMembers e.fields, p.2.exact ∧ p.2.normalize = p.2 ∧ p.2.depth < 127 := by
  rintro ⟨k, v⟩ hp
  rw [optionalMembers_eq_filterMap, List.mem_filterMap] at hp
  obtain ⟨⟨k', o⟩, hmem, hkv⟩ := hp
  obtain ⟨v', ho, hkv⟩ := Option.map_eq_some_iff.1 hkv
  cases hkv
  rcases value_of_mem_fields hmem ho with ⟨s, rfl⟩ | ⟨n, hn, rfl⟩ | hd
  · simp [exact, Json.normalize, depth]
  · have hlt := h.bytes n hn
    simp [Json.nat, exact, JsonNumber.exact, Json.normalize, depth]
    omega
  · exact ⟨h.detailsExact v hd, h.detailsMap v hd, h.detailsDepth v hd⟩

theorem exact_toJson {e : LogEntry} (h : Readable e) : e.toJson.exact :=
  exactMembers_of_forall fun p hp => (kept_of_mem_fields h p hp).1

/-- The line of a readable entry reads back as the map of its fields. -/
theorem parse_toJsonl {e : LogEntry} (h : Readable e) :
    Json.parse e.toJsonl = .ok (.object (optionalMembers e.sortedFields)) := by
  have hdepth : e.toJson.depth < 128 := by
    have := depthMembers_lt (by norm_num) fun p hp => (kept_of_mem_fields h p hp).2.2
    simp only [toJson_eq_fields, depth]
    omega
  rw [toJsonl, parse_compact (exact_toJson h) hdepth, toJson_eq_fields, Json.normalize,
    normalizeMembers_of_forall fun p hp => (kept_of_mem_fields h p hp).2.1, sortMembers_fields]

theorem get?_sortedFields (e : LogEntry) (k : String) (o : Option Json)
    (hk : (k, o) ∈ e.sortedFields) : (Json.object (optionalMembers e.sortedFields)).get? k = o :=
  get?_optionalMembers (pairwise_sortedFields e) hk

theorem any_sortedFields (e : LogEntry) (k : String) (o : Option Json)
    (hk : (k, o) ∈ e.sortedFields) : (optionalMembers e.sortedFields).any (·.1 == k) = o.isSome :=
  any_optionalMembers (pairwise_sortedFields e) hk

/-- The map of a readable entry breaks no rule of the schema. -/
theorem schemaErrors_sortedFields {e : LogEntry} (h : Readable e) (n : Nat) :
    LogValidation.schemaErrors n (.object (optionalMembers e.sortedFields))
      (optionalMembers e.sortedFields) = [] := by
  have hts := any_sortedFields e "timestamp" (some (.string e.timestamp)) (by simp [sortedFields])
  have htr := any_sortedFields e "trace_id" (some (.string e.traceId)) (by simp [sortedFields])
  have hlv := any_sortedFields e "level" (some (.string e.level.name)) (by simp [sortedFields])
  have hev := any_sortedFields e "event" (some (.string e.event)) (by simp [sortedFields])
  have hca := any_sortedFields e "case" (e.case.map .string) (by simp [sortedFields])
  have hoc :=
    any_sortedFields e "outcome" (e.outcome.map fun o => .string o.name) (by simp [sortedFields])
  have hlevel := get?_sortedFields e "level" (some (.string e.level.name)) (by simp [sortedFields])
  have houtcome := get?_sortedFields e "outcome" (e.outcome.map fun o => .string o.name)
    (by simp [sortedFields])
  have hevent := get?_sortedFields e "event" (some (.string e.event)) (by simp [sortedFields])
  have htrace := get?_sortedFields e "trace_id" (some (.string e.traceId)) (by simp [sortedFields])
  -- what is left are the outcome's name and the fields a case result needs
  simp [LogValidation.schemaErrors, LogValidation.requiredFields, List.filter_cons, hts, htr, hlv,
    hev, hca, hoc, hlevel, houtcome, hevent, htrace, Json.str?, LogLevel.ofName?_name, h.traceId]
  refine ⟨?_, fun hevt => ?_⟩
  · -- an outcome is written by its name, which names it back
    cases e.outcome <;> simp [Json.str?, CaseOutcome.ofName?_name]
  · obtain ⟨hc, ho⟩ := h.caseResult hevt
    simp [Option.isSome_iff_ne_none.1 hc, Option.isSome_iff_ne_none.1 ho]

/-! ## Taking the members into an entry -/

theorem foldlM_optionalMembers_cons {β : Type} (f : β → String × Json → Except String β) (p : β)
    (k : String) (o : Option Json) (l : List (String × Option Json)) :
    (optionalMembers ((k, o) :: l)).foldlM f p =
      (o.elim (pure p) fun v => f p (k, v)) >>= fun p => (optionalMembers l).foldlM f p := by
  cases o <;> rfl

theorem take_bytes (p : Partial) (o : Option Nat) (hp : p.bytes = none) :
    (o.map Json.nat).elim (pure p) (fun v => takeMember p ("bytes", v)) =
      pure { p with bytes := o } := by
  cases o with
  | none => cases p; cases hp; rfl
  | some n => rfl

theorem take_case (p : Partial) (o : Option String) (hp : p.case = none) :
    (o.map .string).elim (pure p) (fun v => takeMember p ("case", v)) =
      pure { p with case := o } := by
  cases o with
  | none => cases p; cases hp; rfl
  | some s => rfl

theorem take_template (p : Partial) (o : Option String) (hp : p.template = none) :
    (o.map .string).elim (pure p) (fun v => takeMember p ("template", v)) =
      pure { p with template := o } := by
  cases o with
  | none => cases p; cases hp; rfl
  | some s => rfl

theorem take_error (p : Partial) (o : Option String) (hp : p.error = none) :
    (o.map .string).elim (pure p) (fun v => takeMember p ("error", v)) =
      pure { p with error := o } := by
  cases o with
  | none => cases p; cases hp; rfl
  | some s => rfl

theorem take_outcome (p : Partial) (o : Option CaseOutcome) (hp : p.outcome = none) :
    (o.map fun o => .string o.name).elim (pure p) (fun v => takeMember p ("outcome", v)) =
      pure { p with outcome := o } := by
  cases o with
  | none => cases p; cases hp; rfl
  | some o => cases o <;> rfl

/-- Details as a validator takes them: `null` is no details. -/
def readDetails (o : Option Json) : Option Json :=
  o.bind fun d => match d with
    | .null => none
    | d => some d

theorem readDetails_of_ne_null {o : Option Json} (h : ∀ d ∈ o, d ≠ .null) : readDetails o = o := by
  cases o with
  | none => rfl
  | some d =>
    have hd := h d rfl
    cases d <;> first | exact absurd rfl hd | rfl

theorem take_details (p : Partial) (o : Option Json) (hp : p.details = none) :
    o.elim (pure p) (fun v => takeMember p ("details", v)) =
      pure { p with details := readDetails o } := by
  cases o with
  | none => cases p; cases hp; rfl
  | some d => cases d <;> rfl

theorem take_timestamp (p : Partial) (s : String) :
    (some (Json.string s)).elim (pure p) (fun v => takeMember p ("timestamp", v)) =
      pure { p with timestamp := some s } := rfl

theorem take_traceId (p : Partial) (s : String) :
    (some (Json.string s)).elim (pure p) (fun v => takeMember p ("trace_id", v)) =
      pure { p with traceId := some s } := rfl

theorem take_event (p : Partial) (s : String) :
    (some (Json.string s)).elim (pure p) (fun v => takeMember p ("event", v)) =
      pure { p with event := some s } := rfl

theorem take_level (p : Partial) (l : LogLevel) :
    (some (Json.string l.name)).elim (pure p) (fun v => takeMember p ("level", v)) =
      pure { p with level := some l } := by
  cases l <;> rfl

/-- The map of an entry decodes to the entry, its details as a validator takes them. -/
theorem ofJson?_sortedFields (e : LogEntry) :
    ofJson? (.object (optionalMembers e.sortedFields)) =
      .ok { e with details := readDetails e.details } := by
  simp only [ofJson?, sortedFields, foldlM_optionalMembers_cons]
  simp only [take_bytes, take_case, take_details, take_error, take_event, take_level,
    take_outcome, take_template, take_timestamp, take_traceId, pure_bind]
  rfl

/-- The line of a readable entry validates, whatever its number, and decodes to the entry with
its details as a validator takes them. -/
theorem line_toJsonl {e : LogEntry} (h : Readable e) (n : Nat) :
    LogValidation.line e.toJsonl n = .ok { e with details := readDetails e.details } := by
  unfold LogValidation.line
  rw [parse_toJsonl h]
  simp only [schemaErrors_sortedFields h n, ofJson?_sortedFields]

/-- Details that are `null` are written into the line, but read back as no details; and details
nested 127 levels deep make the line unreadable: the reader's limit of 128 levels counts the
entry's own object, so it refuses the innermost level with a recursion-limit error. -/
theorem null_details_read_back_as_absent :
    (LogValidation.line ((LogEntry.new "2026-01-01T00:00:00.000Z" "run::001" .info "note").withDetails
        .null).toJsonl 1 = .ok (LogEntry.new "2026-01-01T00:00:00.000Z" "run::001" .info "note") ∧
      ((LogEntry.new "2026-01-01T00:00:00.000Z" "run::001" .info "note").withDetails .null).details ≠
        (LogEntry.new "2026-01-01T00:00:00.000Z" "run::001" .info "note").details) ∧
    (((fun j => Json.array [j])^[127] .null).depth = 127 ∧
      LogValidation.line ((LogEntry.new "2026-01-01T00:00:00.000Z" "run::001" .info "note").withDetails
        ((fun j => Json.array [j])^[127] .null)).toJsonl 1 =
        .error [⟨1, "<json>", "invalid JSON: recursion limit exceeded at line 1 column 229"⟩]) := by
  have h : Readable ((LogEntry.new "2026-01-01T00:00:00.000Z" "run::001" .info "note").withDetails
      .null) :=
    { traceId := by decide
      caseResult := by decide
      bytes := by simp [withDetails, LogEntry.new]
      detailsExact := by simp [withDetails, exact]
      detailsMap := by simp [withDetails, Json.normalize]
      detailsDepth := by simp [withDetails, depth] }
  -- the reader runs over the whole line: the kernel evaluates it once
  have hdeep : (match LogValidation.line ((LogEntry.new "2026-01-01T00:00:00.000Z" "run::001" .info
      "note").withDetails ((fun j => Json.array [j])^[127] .null)).toJsonl 1 with
        | .error es => es
        | .ok _ => []) =
      [⟨1, "<json>", "invalid JSON: recursion limit exceeded at line 1 column 229"⟩] := by
    decide +kernel
  refine ⟨⟨?_, by simp [withDetails, LogEntry.new]⟩, Json.depth_iterate_array 127, ?_⟩
  · rw [line_toJsonl h 1]
    rfl
  · revert hdeep
    generalize LogValidation.line _ 1 = r
    cases r <;> simp

end LogEntry
end FormatEngine

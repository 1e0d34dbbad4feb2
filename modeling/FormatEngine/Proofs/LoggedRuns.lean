import Mathlib
import FormatEngine.Log.Run
import FormatEngine.Proofs.LogLineRoundTrip
/-!
# Logged runs write valid logs

A logged run writes one line per case and then its summary. The emitter numbers the entries as it
writes them (`stamp`), and a file is its lines each ended by a line feed. Checking the file splits
it at its line feeds (`splitOn_join`, read character by character through the position-based
splitting), trims each line, skips blank ones, and validates the rest.

Main statement: `logged_run_writes_valid_log`. An entry that a validator reads back (`Readable`)
and whose details are not `null` reads back from its line as itself; and a logged run on a fresh
emitter writes one line per case in order and then its summary, with trace ids numbered from
one, lines that each read back as their entry, a summary that counts the verdicts, and a file that
validates with every line counted and no violation.
-/
namespace FormatEngine.LogValidation

/-! ## A file split at its line feeds -/

/-- Splitting at a one-character separator reads the text character by character: `l` is what
was split off already, `m` the part being collected, `r` the rest. -/
theorem splitOnAux_newline (r : List Char) : ∀ (l m : List Char) (acc : List String),
    String.splitOnAux (String.ofList (l ++ m ++ r)) "\n" ⟨String.utf8Len l⟩
        ⟨String.utf8Len l + String.utf8Len m⟩ 0 acc =
      acc.reverse ++ (List.splitOnPPrepend (· == '\n') r m.reverse).map String.ofList := by
  induction r with
  | nil =>
    intro l m acc
    rw [String.splitOnAux]
    simp only [List.append_nil, String.atEnd_iff, String.rawEndPos_ofList, String.utf8Len_append,
      String.Pos.Raw.mk_le_mk, le_refl, if_true]
    have := String.extract_of_valid l m []
    simp at this
    simp [this]
  | cons c r ih =>
    intro l m acc
    rw [String.splitOnAux]
    have hget : String.Pos.Raw.get (String.ofList (l ++ m ++ c :: r))
        ⟨String.utf8Len l + String.utf8Len m⟩ = c := by
      simpa using String.get_of_valid (l ++ m) (c :: r)
    have hnext : String.Pos.Raw.next (String.ofList (l ++ m ++ c :: r))
        ⟨String.utf8Len l + String.utf8Len m⟩ =
          ⟨String.utf8Len l + String.utf8Len m + c.utf8Size⟩ := by
      simpa using String.next_of_valid (l ++ m) c r
    have hsep : String.Pos.Raw.get "\n" 0 = '\n' := by decide
    have hsep1 : String.Pos.Raw.next "\n" 0 = ⟨1⟩ := by decide
    have hend : "\n".rawEndPos ≤ ⟨1⟩ := by decide
    have hextract := String.extract_of_valid l m (c :: r)
    simp only [String.atEnd_iff, String.rawEndPos_ofList, String.utf8Len_append,
      String.utf8Len_cons, String.Pos.Raw.mk_le_mk, hget, hnext, hsep, hsep1, hend, if_true,
      String.Pos.Raw.unoffsetBy]
    rw [if_neg (by have := c.utf8Size_pos; omega)]
    by_cases hc : c = '\n'
    · -- a line feed closes the part collected so far
      subst hc
      have h1 : '\n'.utf8Size = 1 := rfl
      simp only [beq_self_eq_true, if_true, h1, Nat.add_sub_cancel, hextract]
      simpa [-String.ofList_append, Nat.add_assoc, List.splitOnPPrepend_cons_eq_if, h1] using
        ih (l ++ m ++ ['\n']) [] (String.ofList m :: acc)
    · have h0 : (0 : String.Pos.Raw).byteIdx = 0 := rfl
      simp only [beq_iff_eq, hc, if_false, h0, Nat.sub_zero, hnext]
      simpa [-String.ofList_append, List.splitOnPPrepend_cons_eq_if, hc, Nat.add_assoc] using
        ih l (m ++ [c]) acc

theorem splitOn_newline (s : String) :
    s.splitOn "\n" = (s.toList.splitOn '\n').map String.ofList := by
  simpa [String.splitOn, List.splitOn_eq_splitOnP] using splitOnAux_newline s.toList [] [] []

theorem splitOn_join (ls : List String) (h : ∀ l ∈ ls, '\n' ∉ l.toList) :
    (String.join (ls.map (· ++ "\n"))).splitOn "\n" = ls ++ [""] := by
  rw [splitOn_newline]
  induction ls with
  | nil => simp
  | cons l ls ih =>
    have hl := h l List.mem_cons_self
    have := ih fun l' hl' => h l' (List.mem_cons_of_mem _ hl')
    simp only [List.map_cons, String.join_cons, String.toList_append] at this ⊢
    rw [show l.toList ++ "\n".toList ++ (String.join (ls.map (· ++ "\n"))).toList =
      l.toList ++ '\n' :: (String.join (ls.map (· ++ "\n"))).toList by simp,
      List.splitOn_append_cons_self_of_not_mem hl, List.map_cons, this, String.ofList_toList]
    rfl

theorem lines_join (ls : List String) (h : ∀ l ∈ ls, '\n' ∉ l.toList) :
    lines (String.join (ls.map (· ++ "\n"))) = ls ∨
      lines (String.join (ls.map (· ++ "\n"))) = ls ++ [""] := by
  unfold lines
  rw [splitOn_join ls h]
  split
  · exact .inl List.dropLast_concat
  · exact .inr rfl

/-! ## Checking a file line by line -/

/-- A step that counts each of some lines and adds no violation, run over them numbered from
`k`, counts them all. -/
theorem foldl_zipIdx_count {f : Nat × List LogValidationError → String × Nat →
      Nat × List LogValidationError} {ls : List String}
    (hf : ∀ l ∈ ls, ∀ acc n, f acc (l, n) = (acc.1 + 1, acc.2)) :
    ∀ (k : Nat) (acc : Nat × List LogValidationError),
      (ls.zipIdx k).foldl f acc = (acc.1 + ls.length, acc.2) := by
  induction ls with
  | nil => simp
  | cons l ls ih =>
    intro k acc
    rw [List.zipIdx_cons, List.foldl_cons, hf l List.mem_cons_self,
      ih (fun l' hl' => hf l' (List.mem_cons_of_mem _ hl')) (k + 1)]
    simp only [List.length_cons, Prod.mk.injEq, and_true]
    omega

theorem foldl_zipIdx_blank {f : Nat × List LogValidationError → String × Nat →
      Nat × List LogValidationError} (hf : ∀ acc n, f acc ("", n) = acc) (ls : List String)
    (k : Nat) (acc : Nat × List LogValidationError) :
    ((ls ++ [""]).zipIdx k).foldl f acc = (ls.zipIdx k).foldl f acc := by
  rw [List.zipIdx_append, List.foldl_append]
  exact hf _ _

/-- A file of lines, each ended by a line feed, each its own trimmed form, not blank and valid
under any number, reports every line and no violation. -/
theorem file_join {ls : List String}
    (hls : ∀ l ∈ ls, '\n' ∉ l.toList ∧ Space.trim l = l ∧ l.isEmpty = false ∧
      ∀ n, ∃ e, line l n = .ok e) :
    file (String.join (ls.map (· ++ "\n"))) = (ls.length, []) := by
  unfold file
  dsimp only
  -- whether or not the empty part after the last line feed is kept, it is blank
  rcases lines_join ls (fun l hl => (hls l hl).1) with h | h <;> rw [h]
  on_goal 2 => rw [foldl_zipIdx_blank (fun acc n => rfl)]
  all_goals
    refine (foldl_zipIdx_count ?_ 1 (0, [])).trans (by simp)
    intro l hl acc n
    obtain ⟨-, htrim, hne, hline⟩ := hls l hl
    obtain ⟨e, he⟩ := hline n
    simp only [htrim, hne, he, Bool.false_eq_true, if_false]

/-! ## Lines of entries -/

theorem hasSeparator_append (l r : List Char) : hasSeparator (l ++ ':' :: ':' :: r) = true := by
  induction l with
  | nil => rfl
  | cons c l ih =>
    rw [List.cons_append, hasSeparator.eq_def]
    split
    · rfl
    · rename_i rest hrest
      cases hrest
      exact ih
    · simp at *

theorem trimChars_of_ends {c d : Char} (cs : List Char) (hc : Space.isWhite c = false)
    (hd : Space.isWhite d = false) : Space.trimChars (c :: (cs ++ [d])) = c :: (cs ++ [d]) := by
  have hrev : (c :: (cs ++ [d])).reverse = d :: (c :: cs).reverse := by simp
  simp only [Space.trimChars, List.dropWhile_cons_of_neg (by simpa using hc), hrev,
    List.dropWhile_cons_of_neg (by simpa using hd), List.reverse_cons]
  simp

/-- The line of an entry is its own trimmed form, and not blank. -/
theorem toJsonl_trim (e : LogEntry) :
    Space.trim e.toJsonl = e.toJsonl ∧ e.toJsonl.isEmpty = false := by
  have hc : e.toJsonl.toList =
      '{' :: (Json.memberChars true (LogEntry.optionalMembers e.fields) ++ ['}']) := by
    rw [LogEntry.toJsonl, Json.toList_compact, LogEntry.toJson_eq_fields]
    rfl
  refine ⟨?_, String.isEmpty_eq_false_iff.2 fun h => by simp [h] at hc⟩
  rw [Space.trim, hc, trimChars_of_ends _ (by decide) (by decide), ← hc, String.ofList_toList]

/-- The line of a readable entry is one line of the file. -/
theorem newline_not_mem_toJsonl {e : LogEntry} (h : e.Readable) : '\n' ∉ e.toJsonl.toList := by
  rw [LogEntry.toJsonl, Json.toList_compact]
  exact Json.newline_not_mem_chars _ (LogEntry.exact_toJson h)

end FormatEngine.LogValidation

namespace FormatEngine.LogEmitter

/-! ## Numbering entries -/

/-- Entries numbered on from `n`: the `i`-th gets the trace id of number `n + i + 1`. -/
def stamp (runId : String) : Nat → List LogEntry → List LogEntry
  | _, [] => []
  | n, e :: es => { e with traceId := traceIdOf runId (n + 1) } :: stamp runId (n + 1) es

theorem stamp_append (runId : String) (es es' : List LogEntry) :
    ∀ n, stamp runId n (es ++ es') = stamp runId n es ++ stamp runId (n + es.length) es' := by
  induction es with
  | nil => simp [stamp]
  | cons e es ih =>
    intro n
    simp only [List.cons_append, stamp, ih (n + 1), List.length_cons, List.cons.injEq, true_and]
    rw [Nat.add_assoc, Nat.add_comm 1]

theorem length_stamp (runId : String) :
    ∀ n (es : List LogEntry), (stamp runId n es).length = es.length
  | _, [] => rfl
  | n, _ :: es => by simp [stamp, length_stamp runId (n + 1) es]

theorem map_traceId_stamp (runId : String) : ∀ n (es : List LogEntry),
    (stamp runId n es).map (·.traceId) = (List.range' (n + 1) es.length).map (traceIdOf runId)
  | _, [] => rfl
  | n, e :: es => by
    simp only [stamp, List.map_cons, List.length_cons, List.range'_succ,
      map_traceId_stamp runId (n + 1) es]

theorem map_case_stamp (runId : String) : ∀ n (es : List LogEntry),
    (stamp runId n es).map (·.case) = es.map (·.case)
  | _, [] => rfl
  | n, e :: es => by simp [stamp, map_case_stamp runId (n + 1) es]

theorem map_event_stamp (runId : String) : ∀ n (es : List LogEntry),
    (stamp runId n es).map (·.event) = es.map (·.event)
  | _, [] => rfl
  | n, e :: es => by simp [stamp, map_event_stamp runId (n + 1) es]

theorem mem_stamp {runId : String} {e : LogEntry} :
    ∀ {n} {es : List LogEntry}, e ∈ stamp runId n es →
      ∃ e' ∈ es, ∃ k, e = { e' with traceId := traceIdOf runId k }
  | _, [], h => by simp [stamp] at h
  | n, e' :: es, h => by
    rcases List.mem_cons.1 h with rfl | h
    · exact ⟨e', List.mem_cons_self, n + 1, rfl⟩
    · obtain ⟨e'', he'', k, rfl⟩ := mem_stamp h
      exact ⟨e'', List.mem_cons_of_mem _ he'', k, rfl⟩

/-! ## Emitting entries -/

theorem emitEntry_blank (m : LogEmitter) {e : LogEntry} (he : e.traceId = "") :
    (m.emitEntry e).1 =
      ⟨m.runId, m.seq + 1,
        m.lines ++ [{ e with traceId := traceIdOf m.runId (m.seq + 1) }.toJsonl]⟩ := by
  simp [emitEntry, he]

/-- An emitter writes entries without trace ids numbered on from its count. -/
theorem foldl_emitEntry (es : List LogEntry) (hes : ∀ e ∈ es, e.traceId = "") :
    ∀ m : LogEmitter, es.foldl (fun m e => (m.emitEntry e).1) m =
      ⟨m.runId, m.seq + es.length, m.lines ++ (stamp m.runId m.seq es).map LogEntry.toJsonl⟩ := by
  induction es with
  | nil => intro m; simp [stamp]
  | cons e es ih =>
    intro m
    rw [List.foldl_cons, emitEntry_blank m (hes e List.mem_cons_self),
      ih fun e' he' => hes e' (List.mem_cons_of_mem _ he')]
    simp only [stamp, List.map_cons, List.length_cons, List.append_assoc, List.singleton_append,
      LogEmitter.mk.injEq, true_and, and_true]
    omega

end FormatEngine.LogEmitter

namespace FormatEngine.Runner
open LogEmitter

/-! ## The entries of a logged run -/

/-- The details of a failing case: what was expected, what came, and their difference. -/
theorem caseEntry_eq (timestamp : String) (r : VerificationResult) :
    caseEntry timestamp r =
      ⟨timestamp, "", if r.passed then .info else .error, eventCaseResult, some r.caseName,
        some r.template, some (CaseOutcome.ofPassed r.passed), r.bytes, r.error,
        if r.passed then none
        else some (.object (Json.sortMembers [("expected", .string r.expected),
          ("actual", .string r.actual), ("diff", Json.optString r.diff)]))⟩ := by
  unfold caseEntry
  cases r.bytes <;> cases r.error <;> cases r.passed <;> rfl

/-- A logged run on a fresh emitter writes the entries of its cases and then its summary,
numbered from one, each with its own reading of the clock. -/
theorem runLogged_new (campaign : String) (clock : Clock) (runId : String) (s : FixtureSet) :
    runLogged campaign clock s (LogEmitter.new runId) =
      (⟨runId, (run s).length + 1, (stamp runId 0 (((run s).mapIdx fun k r => caseEntry (clock.read k) r) ++
        [summaryEntry (clock.read (run s).length) campaign s (run s)])).map LogEntry.toJsonl⟩, run s) := by
  have hcases : ∀ e ∈ (run s).mapIdx (fun k r => caseEntry (clock.read k) r), e.traceId = "" := by
    intro e he
    obtain ⟨k, hk, rfl⟩ := List.mem_mapIdx.1 he
    rw [caseEntry_eq]
  unfold runLogged
  simp only
  rw [foldl_emitEntry _ hcases, emitEntry_blank _ rfl]
  simp [LogEmitter.new, stamp_append, stamp]

/-! ## The entries are readable -/

theorem hasSeparator_traceIdOf (runId : String) (n : Nat) :
    LogValidation.hasSeparator (traceIdOf runId n).toList = true := by
  simpa [traceIdOf] using LogValidation.hasSeparator_append runId.toList (padded n).toList

/-- An object of values with nothing nested in them, as a map, is read back as it is. -/
theorem flat_object (ms : List (String × Json))
    (h : ∀ p ∈ ms, p.2.exact ∧ p.2.normalize = p.2 ∧ p.2.depth = 0) :
    (Json.object (Json.sortMembers ms)).exact ∧
      (Json.object (Json.sortMembers ms)).normalize = .object (Json.sortMembers ms) ∧
      (Json.object (Json.sortMembers ms)).depth < 127 := by
  have h' : ∀ p ∈ Json.sortMembers ms, p.2.exact ∧ p.2.normalize = p.2 ∧ p.2.depth = 0 :=
    fun p hp => h p (Json.mem_of_mem_sortMembers hp)
  refine ⟨Json.exactMembers_of_forall fun p hp => (h' p hp).1,
    Json.normalize_object (Json.keysSorted_sortMembers ms) fun p hp => (h' p hp).2.1, ?_⟩
  have := Json.depthMembers_lt (n := 1) (by norm_num) fun p hp => by rw [(h' p hp).2.2]; norm_num
  simp only [Json.depth]
  omega

theorem string_flat (s : String) :
    (Json.string s).exact ∧ (Json.string s).normalize = .string s ∧ (Json.string s).depth = 0 := by
  simp [Json.exact, Json.normalize, Json.depth]

theorem nat_flat {n : Nat} (h : n < 2 ^ 64) :
    (Json.nat n).exact ∧ (Json.nat n).normalize = Json.nat n ∧ (Json.nat n).depth = 0 := by
  simp only [Json.nat, Json.exact, JsonNumber.exact, Json.normalize, Json.depth, and_true]
  exact decide_eq_true h

/-- Each case entry, whatever its trace id, is readable, and its details are not `null`. -/
theorem readable_caseEntry (timestamp : String) {r : VerificationResult}
    (hb : ∀ n ∈ r.bytes, n < 2 ^ 64) (runId : String) (k : Nat) :
    LogEntry.Readable { caseEntry timestamp r with traceId := traceIdOf runId k } ∧
      ∀ d ∈ (caseEntry timestamp r).details, d ≠ .null := by
  have hflat := flat_object [("expected", .string r.expected),
      ("actual", .string r.actual), ("diff", Json.optString r.diff)] (by
    intro p hp
    simp only [List.mem_cons, List.not_mem_nil, or_false] at hp
    rcases hp with rfl | rfl | rfl
    · exact string_flat _
    · exact string_flat _
    · cases r.diff
      · simp [Json.optString, Json.exact, Json.normalize, Json.depth]
      · exact string_flat _)
  rw [caseEntry_eq]
  refine ⟨⟨hasSeparator_traceIdOf runId k, fun _ => ⟨rfl, rfl⟩, hb, ?_, ?_, ?_⟩, ?_⟩ <;>
    cases r.passed <;> simp [hflat]

/-- The summary entry, whatever its trace id, is readable, and its details are not `null`. -/
theorem readable_summaryEntry (timestamp campaign : String) (s : FixtureSet)
    {rs : List VerificationResult} (hsize : rs.length < 2 ^ 64) (runId : String) (k : Nat) :
    LogEntry.Readable { summaryEntry timestamp campaign s rs with traceId := traceIdOf runId k } ∧
      ∀ d ∈ (summaryEntry timestamp campaign s rs).details, d ≠ .null := by
  have hpassed : (rs.filter (·.passed)).length ≤ rs.length := List.length_filter_le _ _
  have hflat := flat_object [("campaign", .string campaign), ("family", .string s.family),
      ("total", Json.nat rs.length), ("passed", Json.nat (rs.filter (·.passed)).length),
      ("failed", Json.nat (rs.length - (rs.filter (·.passed)).length))] (by
    intro p hp
    simp only [List.mem_cons, List.not_mem_nil, or_false] at hp
    rcases hp with rfl | rfl | rfl | rfl | rfl
    · exact string_flat _
    · exact string_flat _
    · exact nat_flat hsize
    · exact nat_flat (by omega)
    · exact nat_flat (by omega))
  have hevent : eventRunSummary ≠ eventCaseResult := by decide
  refine ⟨⟨hasSeparator_traceIdOf runId k, fun h => absurd h hevent, ?_, ?_, ?_, ?_⟩, ?_⟩ <;>
    simp [summaryEntry, LogEntry.new, LogEntry.withOutcome, LogEntry.withDetails, hflat]

theorem caseEntry_case (timestamp : String) (r : VerificationResult) :
    (caseEntry timestamp r).case = some r.caseName := by
  rw [caseEntry_eq]

theorem map_case_caseEntries (clock : Clock) (rs : List VerificationResult) :
    (rs.mapIdx fun k r => caseEntry (clock.read k) r).map (·.case) =
      rs.map fun r => some r.caseName :=
  List.ext_getElem (by simp) fun i _ _ => by simp [caseEntry_case]

theorem map_event_caseEntries (clock : Clock) (rs : List VerificationResult) :
    (rs.mapIdx fun k r => caseEntry (clock.read k) r).map (·.event) =
      List.replicate rs.length eventCaseResult :=
  List.eq_replicate_iff.2 ⟨by simp, by simp [caseEntry_eq]⟩

theorem summaryEntry_case (timestamp campaign : String) (s : FixtureSet)
    (rs : List VerificationResult) : (summaryEntry timestamp campaign s rs).case = none := rfl

theorem summaryEntry_event (timestamp campaign : String) (s : FixtureSet)
    (rs : List VerificationResult) :
    (summaryEntry timestamp campaign s rs).event = eventRunSummary := rfl

/-- The summary's details count the verdicts: all of them, those that passed and the rest. -/
theorem summaryEntry_totals (timestamp campaign : String) (s : FixtureSet)
    (rs : List VerificationResult) :
    ∃ d, (summaryEntry timestamp campaign s rs).details = some d ∧
      d.get? "total" = some (Json.nat rs.length) ∧
      d.get? "passed" = some (Json.nat (rs.filter (·.passed)).length) ∧
      d.get? "failed" = some (Json.nat (rs.length - (rs.filter (·.passed)).length)) := by
  refine ⟨_, rfl, ?_, ?_, ?_⟩ <;>
    exact Json.get?_of_mem (Json.keysSorted_sortMembers _)
      ((Json.mem_sortMembers (by simp)).2 (by simp))

theorem length_run (s : FixtureSet) : (run s).length = s.cases.length := by
  simp [run]

/-- Logged runs write a valid log. A readable entry whose details are not `null` reads back from
its line as itself. A run on a fresh emitter writes one line per case, in order, then its
summary, numbered from one; every line reads back as its entry, the summary counts the verdicts,
and the whole file validates with every line counted and no violation. -/
theorem logged_run_writes_valid_log :
    (∀ e : LogEntry, e.Readable → (∀ d ∈ e.details, d ≠ .null) →
      ∀ n, LogValidation.line e.toJsonl n = .ok e) ∧
    ∀ (campaign : String) (clock : Clock) (runId : String) (s : FixtureSet),
      (∀ r ∈ run s, ∀ n ∈ r.bytes, n < 2 ^ 64) → s.cases.length < 2 ^ 64 →
      let entries := stamp runId 0 (((run s).mapIdx fun k r => caseEntry (clock.read k) r) ++
        [summaryEntry (clock.read (run s).length) campaign s (run s)])
      let m := (runLogged campaign clock s (LogEmitter.new runId)).1
      m.lines = entries.map LogEntry.toJsonl ∧
      m.lines.length = s.cases.length + 1 ∧
      entries.map (·.case) = s.cases.map (fun k => some k.name) ++ [none] ∧
      entries.map (·.event) = List.replicate s.cases.length eventCaseResult ++ [eventRunSummary] ∧
      entries.map (·.traceId) = (List.range' 1 (s.cases.length + 1)).map (traceIdOf runId) ∧
      (∀ e ∈ entries, ∀ n, LogValidation.line e.toJsonl n = .ok e) ∧
      (∃ d, (summaryEntry (clock.read (run s).length) campaign s (run s)).details = some d ∧
        d.get? "total" = some (Json.nat s.cases.length) ∧
        d.get? "passed" = some (Json.nat ((run s).filter (·.passed)).length) ∧
        d.get? "failed" = some (Json.nat (s.cases.length - ((run s).filter (·.passed)).length))) ∧
      LogValidation.file (String.join (m.lines.map (· ++ "\n"))) = (s.cases.length + 1, []) := by
  have hentry : ∀ e : LogEntry, e.Readable → (∀ d ∈ e.details, d ≠ .null) →
      ∀ n, LogValidation.line e.toJsonl n = .ok e := by
    intro e h hd n
    rw [LogEntry.line_toJsonl h, LogEntry.readDetails_of_ne_null hd]
  refine ⟨hentry, fun campaign clock runId s hbytes hsize => ?_⟩
  intro entries m
  -- every entry is a case entry or the summary, under some trace id
  have hreadable : ∀ e ∈ entries, e.Readable ∧ ∀ d ∈ e.details, d ≠ .null := by
    intro e he
    obtain ⟨e', he', k, rfl⟩ := mem_stamp he
    rcases List.mem_append.1 he' with he' | he'
    · obtain ⟨i, hi, rfl⟩ := List.mem_mapIdx.1 he'
      exact readable_caseEntry (clock.read i) (hbytes _ (List.getElem_mem hi)) runId k
    · rw [List.mem_singleton.1 he']
      exact readable_summaryEntry _ campaign s (by rwa [length_run]) runId k
  have hvalid : ∀ e ∈ entries, ∀ n, LogValidation.line e.toJsonl n = .ok e :=
    fun e he => hentry e (hreadable e he).1 (hreadable e he).2
  have hlines : m.lines = entries.map LogEntry.toJsonl := by
    simp only [m, entries, runLogged_new]
  obtain ⟨d, hd, htotal, hpassed, hfailed⟩ :=
    summaryEntry_totals (clock.read (run s).length) campaign s (run s)
  refine ⟨hlines, ?_, ?_, ?_, ?_, hvalid, ⟨d, hd, by rwa [← length_run], hpassed,
    by rwa [← length_run]⟩, ?_⟩
  · simp [hlines, entries, length_stamp, length_run]
  · simp [entries, map_case_stamp, map_case_caseEntries, summaryEntry_case, run, verify]
  · simp only [entries, map_event_stamp, List.map_append, map_event_caseEntries, length_run,
      List.map_cons, List.map_nil, summaryEntry_event]
  · simp [entries, map_traceId_stamp, length_run]
  · rw [hlines, LogValidation.file_join, List.length_map, length_stamp]
    · simp [length_run]
    · intro l hl
      obtain ⟨e, he, rfl⟩ := List.mem_map.1 hl
      exact ⟨LogValidation.newline_not_mem_toJsonl (hreadable e he).1,
        (LogValidation.toJsonl_trim e).1, (LogValidation.toJsonl_trim e).2,
        fun n => ⟨e, hvalid e he n⟩⟩

theorem logged_run_of_one_case :
    (((((LogEntry.new "2026-01-01T00:00:00.000Z" "run::001" .info eventCaseResult).withCase
        "plain").withOutcome .pass).withDetails (.object [("k", .string "v")])).Readable ∧
      (∀ d ∈ ((((LogEntry.new "2026-01-01T00:00:00.000Z" "run::001" .info eventCaseResult).withCase
        "plain").withOutcome .pass).withDetails (.object [("k", .string "v")])).details,
        d ≠ .null) ∧
      LogValidation.line ((((LogEntry.new "2026-01-01T00:00:00.000Z" "run::001" .info
        eventCaseResult).withCase "plain").withOutcome .pass).withDetails
          (.object [("k", .string "v")])).toJsonl 1 =
        .ok ((((LogEntry.new "2026-01-01T00:00:00.000Z" "run::001" .info eventCaseResult).withCase
          "plain").withOutcome .pass).withDetails (.object [("k", .string "v")]))) ∧
    ((∀ r ∈ run ⟨"1", "demo", [{ name := "plain", template := "hi", expectedOutput := some "hi" }]⟩,
        ∀ n ∈ r.bytes, n < 2 ^ 64) ∧
      [({ name := "plain", template := "hi", expectedOutput := some "hi" } : FixtureCase)].length <
        2 ^ 64 ∧
      LogValidation.file (String.join ((runLogged "oracle" "2026-01-01T00:00:00.000Z"
        ⟨"1", "demo", [{ name := "plain", template := "hi", expectedOutput := some "hi" }]⟩
          (LogEmitter.new "run")).1.lines.map (· ++ "\n"))) = (2, [])) := by
  have he : ((((LogEntry.new "2026-01-01T00:00:00.000Z" "run::001" .info eventCaseResult).withCase
      "plain").withOutcome .pass).withDetails (.object [("k", .string "v")])).Readable :=
    { traceId := by decide
      caseResult := fun _ => ⟨rfl, rfl⟩
      bytes := by simp [LogEntry.withDetails, LogEntry.withOutcome, LogEntry.withCase, LogEntry.new]
      detailsExact := by simp [LogEntry.withDetails, Json.exact, Json.exactMembers]
      detailsMap := by
        simp [LogEntry.withDetails, Json.normalize, Json.normalizeMembers, Json.sortMembers,
          Json.insert]
      detailsDepth := by simp [LogEntry.withDetails, Json.depth, Json.depthMembers] }
  have hd : ∀ d ∈ ((((LogEntry.new "2026-01-01T00:00:00.000Z" "run::001" .info
      eventCaseResult).withCase "plain").withOutcome .pass).withDetails
        (.object [("k", .string "v")])).details, d ≠ .null := by
    simp [LogEntry.withDetails]
  have hb : ∀ r ∈ run
      ⟨"1", "demo", [{ name := "plain", template := "hi", expectedOutput := some "hi" }]⟩,
      ∀ n ∈ r.bytes, n < 2 ^ 64 := by decide +kernel
  have hs :
      [({ name := "plain", template := "hi", expectedOutput := some "hi" } : FixtureCase)].length <
        2 ^ 64 := by decide
  exact ⟨⟨he, hd, logged_run_writes_valid_log.1 _ he hd 1⟩, hb, hs,
    (logged_run_writes_valid_log.2 "oracle" "2026-01-01T00:00:00.000Z" "run" _ hb hs).2.2.2.2.2.2.2⟩

end FormatEngine.Runner

import ChronosHFT.Evidence.OosReconstruction
import ChronosHFT.Journal.Durability

/-!
# The reader of the evidence and the writer of the journal

The writer (`oms/journal.py`) is at format version 3: segments of frames beside the configured
path, and no file at that path.  The reader of the evidence still expects version 2 there: lines
of JSON.

**What the reader accepts** (`readOmsJournal_chained`) is a chain from the first record on.

**The two never agree** (`reader_never_agrees`).  Whatever was appended, and whichever file of
the journal the reader is given, it refuses.
-/

namespace ChronosHFT.Evidence

open List Journal

/-! ## What the reader accepts -/

section Chained

variable (H : Digests) (C : Conversions)

/-- The records from a number on, after a record with a hash: numbered one after the other, each
with the hash of the one before, and its own hash over the rest of it. -/
def Chained : ℕ → String → List Json → Prop
  | _, _, [] => True
  | seq, previousHash, record :: rest =>
    record.get? "seq" = some (.int seq) ∧ C.textOr (record.get? "prev_hash") = previousHash ∧
      (C.textOr (record.get? "hash")).toLower = hashOf H (record.without "hash") ∧
      Chained (seq + 1) (hashOf H (record.without "hash")) rest

variable {H C}

variable {lineNumber : ℕ} {previousHash : String}

/-- One record that passes its checks. -/
theorem checkRecord_eq_ok {kind hash : String} {record : Json}
    (h : checkRecord H C lineNumber previousHash record = .ok (kind, hash)) :
    record.get? "seq" = some (.int lineNumber) ∧
    C.textOr (record.get? "prev_hash") = previousHash ∧
      (C.textOr (record.get? "hash")).toLower = hash ∧ hashOf H (record.without "hash") = hash ∧
      C.textOr (record.get? "kind") = kind := by
  unfold checkRecord at h
  split at h
  · cases h
  split at h
  · cases h
  split at h
  · cases h
  next hseq =>
    split at h
    · cases h
    simp only at h
    split at h
    · cases h
    split at h
    · cases h
    next hprev =>
      split at h
      · cases h
      split at h
      · cases h
      next hhash =>
        simp only [Except.ok.injEq, Prod.mk.injEq] at h
        obtain ⟨rfl, rfl⟩ := h
        exact ⟨not_not.mp hseq, not_not.mp hprev, rfl, not_not.mp hhash, rfl⟩

/-- A line that is read passes the checks of its record. -/
theorem readLine_eq_ok {raw : Bytes} {checked : Json × String × String}
    (h : readLine H C lineNumber previousHash raw = .ok checked) :
    checkRecord H C lineNumber previousHash checked.1 = .ok checked.2 := by
  unfold readLine at h
  split at h
  · cases h
  split at h
  · cases h
  split at h
  · cases h
  next record _ =>
    cases hcheck : checkRecord H C lineNumber previousHash record with
    | error err =>
      rw [hcheck] at h
      cases h
    | ok passed =>
      rw [hcheck] at h
      cases h
      exact hcheck

/-- The lines that are read are a chain. -/
theorem readLines_chained {lines : List Bytes} {checked : List (Json × String × String)}
    (h : readLines H C lineNumber previousHash lines = .ok checked) :
    Chained H C lineNumber previousHash (checked.map Prod.fst) ∧ checked.length = lines.length ∧
      ∀ found ∈ checked, C.textOr (found.1.get? "kind") = found.2.1 := by
  induction lines generalizing lineNumber previousHash checked with
  | nil =>
    cases h
    exact ⟨trivial, rfl, fun _ hfound => by cases hfound⟩
  | cons raw rest ih =>
    unfold readLines at h
    cases hline : readLine H C lineNumber previousHash raw with
    | error err =>
      rw [hline] at h
      cases h
    | ok first =>
      rw [hline] at h
      simp only at h
      cases hrest : readLines H C (lineNumber + 1) first.2.2 rest with
      | error err =>
        rw [hrest] at h
        cases h
      | ok more =>
        rw [hrest] at h
        cases h
        obtain ⟨hseq, hprev, hstored, hhash, hkind⟩ := checkRecord_eq_ok (readLine_eq_ok hline)
        obtain ⟨hchained, hlength, hkinds⟩ := ih hrest
        refine ⟨⟨hseq, hprev, hstored.trans hhash.symm, ?_⟩, ?_, ?_⟩
        · rw [hhash]
          exact hchained
        · rw [length_cons, length_cons, hlength]
        · rintro found (_ | ⟨_, hfound⟩)
          · exact hkind
          · exact hkinds found hfound

/-- **What the reader accepts** is a chain of one record a line, from the first number and no
hash on, that ends with the clean stop. -/
theorem readOmsJournal_chained {path : String} {file : Option Bytes}
    {identity : OmsJournalIdentity} {records : List Json}
    (h : readOmsJournal H C path file = .ok (identity, records)) :
    ∃ bytes, file = some bytes ∧ Chained H C 1 "" records ∧
      records.length = (fileLines bytes).length ∧ identity.recordCount = records.length ∧
      ∃ last, records.getLast? = some last ∧ C.textOr (last.get? "kind") = "oms_stopped" := by
  unfold readOmsJournal at h
  cases file with
  | none => cases h
  | some bytes =>
    simp only at h
    cases hread : readLines H C 1 "" (fileLines bytes) with
    | error err =>
      rw [hread] at h
      cases h
    | ok checked =>
      rw [hread] at h
      simp only at h
      obtain ⟨hchained, hlength, hkinds⟩ := readLines_chained hread
      split at h
      · cases h
      next record lastKind finalHash hlast =>
        split at h
        · cases h
        next hstopped =>
          cases h
          refine ⟨bytes, rfl, hchained, ?_, ?_, record, ?_, ?_⟩
          · rw [length_map, hlength]
          · exact (length_map _).symm
          · rw [List.getLast?_map, hlast]
            rfl
          · exact (hkinds _ (mem_of_getLast? hlast)).trans (not_not.mp hstopped)

end Chained

/-- The conversions of that journal. -/
def stoppedConversions : Conversions where
  str _ := ""
  decimal _ := none
  float _ := none
  fromIsoformat text := if text = "2026-01-01T00:00:00+00:00" then some 1767225600 else none

/-- A journal of one record, the clean stop. -/
def stoppedFile : Bytes :=
  let entries : List (String × Json) :=
    [("version", .int 2), ("seq", .int 1), ("ts", .str "2026-01-01T00:00:00+00:00"),
      ("kind", .str "oms_stopped"), ("payload", .obj []), ("prev_hash", .str "")]
  utf8 (Json.obj (entries ++ [("hash", .str (hashOf hashlib (.obj entries)))])).dumps

theorem readOmsJournal_chained_stoppedFile :
    ∃ records, Chained hashlib stoppedConversions 1 "" records ∧
      records.length = (fileLines stoppedFile).length := by
  have haccepted : (readOmsJournal hashlib stoppedConversions ""
      (some stoppedFile)).toOption.isSome =
      true := by
    decide +kernel
  cases hread : readOmsJournal hashlib stoppedConversions "" (some stoppedFile) with
  | error err =>
    rw [hread] at haccepted
    cases haccepted
  | ok accepted =>
    obtain ⟨_, hfile, hchained, hlength, -⟩ := readOmsJournal_chained hread
    exact ⟨accepted.2, hchained, Option.some.inj hfile ▸ hlength⟩

/-! ## What the writer stores -/

/-- Every segment starts with the magic text. -/
def Stamped (s : Store) : Prop := ∀ segment ∈ s.disk.segments, segmentMagic <+: segment

section Writer

variable {H : Digests} {cfg : Config}

theorem stamped_fresh (journalId : String) : Stamped (Store.fresh journalId) :=
  fun _ hsegment => by cases hsegment

theorem segmentStart_stamped (header : SegmentHeader) :
    segmentMagic <+: Store.segmentStart H header := prefix_append _ _

variable {next : Store} {result : Except WriteError Unit}

/-- A new segment starts with the magic text. -/
theorem createSegment_stamped {s : Store} {env : AppendEnv} (h : Stamped s)
    (hcreated : s.createSegment H env = (next, .ok ())) : Stamped next := by
  unfold Store.createSegment at hcreated
  simp only at hcreated
  split at hcreated
  · cases hcreated
  split at hcreated
  · cases hcreated
  split at hcreated
  · cases hcreated
  cases hcreate : env.create with
  | notCreated | failed | notSynced =>
    rw [hcreate] at hcreated
    cases hcreated
  | done =>
    rw [hcreate] at hcreated
    cases hcreated
    intro segment hsegment
    rcases mem_append.mp hsegment with hold | hnew
    · exact h segment hold
    · rw [mem_singleton.mp hnew]
      exact segmentStart_stamped _

/-- Bytes go to the end of a segment. -/
theorem appendBytes_stamped {s : Store} {bytes : Bytes} (h : Stamped s) :
    Stamped (s.appendBytes bytes) := by
  intro segment hsegment
  obtain ⟨i, hi, rfl⟩ := getElem_of_mem hsegment
  have hlength : i < s.disk.segments.length := by
    simpa [Store.appendBytes] using hi
  have hbefore : segmentMagic <+: s.disk.segments[i] := h _ (getElem_mem hlength)
  simp only [Store.appendBytes, getElem_modify]
  split
  · exact hbefore.trans (prefix_append _ _)
  · exact hbefore

/-- One successful call. -/
theorem appendCall_stamped {s : Store} {call : AppendEnv × List Entry} (h : Stamped s)
    (hcall : appendCall H cfg s call = some next) : Stamped next := by
  obtain ⟨seqs, hresult⟩ := appendCall_eq_some.mp hcall
  unfold Store.appendBatch at hresult
  split at hresult
  · cases hresult
    exact h
  split at hresult
  · cases hresult
    exact h
  split at hresult
  · cases hresult
  next batch _ =>
    split at hresult
    · cases hresult
    next ready hready =>
      have hstamped : Stamped ready := by
        unfold Store.ensureAppendSegment at hready
        split at hready
        · exact createSegment_stamped h hready
        · cases hready
          exact h
      unfold Store.writeBatch at hresult
      simp only at hresult
      split at hresult
      · cases hresult
      split at hresult
      · cases hresult
      · cases hresult
      · cases hresult
        exact appendBytes_stamped hstamped

/-- Documents go beside the segments. -/
theorem writeCheckpoint_segments {s : Store} {outcome : Replacing} {name : String}
    {doc : PyValue}
    (h : s.writeCheckpoint outcome name doc = (next, result)) :
    next.disk.segments = s.disk.segments := by
  unfold Store.writeCheckpoint at h
  simp only at h
  repeat' split at h
  all_goals
    cases h
    rfl

theorem writePointer_segments {s : Store} {outcome : Replacing} {doc : PyValue}
    (h : s.writePointer outcome doc = (next, result)) :
    next.disk.segments = s.disk.segments := by
  unfold Store.writePointer at h
  simp only at h
  repeat' split at h
  all_goals
    cases h
    rfl

/-- A successful checkpoint appends its marker. -/
theorem commitCheckpoint_stamped {s : Store} {env : CommitEnv}
    {summary : List (PyKey × PyValue)} (h : Stamped s)
    (hcommit : s.commitCheckpoint H cfg env summary = (next, .ok ())) : Stamped next := by
  unfold Store.commitCheckpoint at hcommit
  simp only at hcommit
  split at hcommit
  · cases hcommit
  split at hcommit
  · cases hcommit
  split at hcommit
  · cases hcommit
  split at hcommit
  · cases hcommit
  next written hwritten =>
    have hstamped : Stamped written := by
      unfold Stamped
      rw [writeCheckpoint_segments hwritten]
      exact h
    split at hcommit
    · cases hcommit
    next marked seqs hmarked =>
      have hcall : appendCall H cfg written (env.marker, [_]) = some marked :=
        appendCall_eq_some.mpr ⟨seqs, hmarked⟩
      have hmarker : Stamped marked := appendCall_stamped hstamped hcall
      split at hcommit
      · cases hcommit
      · unfold Stamped
        rw [writePointer_segments hcommit]
        exact hmarker

/-- What the OMS does with its journal. -/
inductive Write where
  | append (env : AppendEnv) (entries : List Entry)
  | checkpoint (env : CommitEnv) (summary : List (PyKey × PyValue))

/-- A write that has to succeed. -/
def Write.perform (H : Digests) (cfg : Config) (s : Store) : Write → Option Store
  | .append env entries => appendCall H cfg s (env, entries)
  | .checkpoint env summary =>
    match s.commitCheckpoint H cfg env summary with
    | (next, .ok ()) => some next
    | (_, .error _) => none

/-- The lines of a write; a checkpoint adds a marker of its own. -/
def Write.lines : Write → List Line
  | .append env entries => linesOf env.ts entries
  | .checkpoint _ _ => []

/-- One write. -/
theorem perform_stamped {s : Store} {write : Write} (h : Stamped s)
    (hwrite : Write.perform H cfg s write = some next) : Stamped next := by
  cases write with
  | append env entries => exact appendCall_stamped h hwrite
  | checkpoint env summary =>
    unfold Write.perform at hwrite
    simp only at hwrite
    split at hwrite
    · next hcommit =>
      cases hwrite
      exact commitCheckpoint_stamped h hcommit
    · cases hwrite

/-- Every run of writes. -/
theorem writes_stamped {writes : List Write} {s t : Store} (h : Stamped s)
    (hrun : Run.exec (Write.perform H cfg) s writes = some t) : Stamped t :=
  Run.exec_preserves (fun _ _ _ hs hwrite => perform_stamped hs hwrite) h hrun

end Writer

/-! ## The first line -/

/-- A line ends with the first line end. -/
theorem fileLines_append (line rest : Bytes) (h : 10 ∉ line) :
    fileLines (line ++ 10 :: rest) = (line ++ [10]) :: fileLines rest := by
  induction line with
  | nil => rfl
  | cons byte line ih =>
    have hbyte : byte ≠ 10 := fun heq => h (heq ▸ mem_cons_self)
    have hline : 10 ∉ line := fun hmem => h (mem_cons_of_mem _ hmem)
    rw [cons_append, fileLines, if_neg hbyte, ih hline]
    rfl

theorem segmentMagic_eq : segmentMagic = utf8 "CHRONOSHFT-OMS-JOURNAL-V3" ++ [10] := by
  decide +kernel

/-- **A segment is refused** at its first line, which is not JSON. -/
theorem readOmsJournal_segment (H : Digests) (C : Conversions) {path : String} {bytes : Bytes}
    (h : segmentMagic <+: bytes) :
    readOmsJournal H C path (some bytes) = .error "invalid OMS journal JSON at line 1" := by
  obtain ⟨rest, rfl⟩ := h
  have hlines : fileLines (segmentMagic ++ rest) = segmentMagic :: fileLines rest := by
    have hfirst := fileLines_append (utf8 "CHRONOSHFT-OMS-JOURNAL-V3") rest (by decide +kernel)
    rw [segmentMagic_eq, append_assoc, singleton_append, hfirst]
  have hdecoded : decodeLine 1 segmentMagic = some "CHRONOSHFT-OMS-JOURNAL-V3\n" := by
    unfold decodeLine
    rw [if_neg (by decide +kernel)]
    exact ofUtf8?_utf8 _
  have hblank : Text.strip "CHRONOSHFT-OMS-JOURNAL-V3\n" ≠ "" := by decide +kernel
  have hrefused : parseJsonLine "CHRONOSHFT-OMS-JOURNAL-V3\n" "OMS journal" 1 =
      .error "invalid OMS journal JSON at line 1" := by
    unfold parseJsonLine
    have hnone : Json.loadsUnique "CHRONOSHFT-OMS-JOURNAL-V3\n" = none := by decide +kernel
    rw [hnone]
    decide +kernel
  have hline : readLine H C 1 "" segmentMagic = .error "invalid OMS journal JSON at line 1" := by
    unfold readLine
    rw [hdecoded]
    simp only [if_neg hblank, hrefused]
  unfold readOmsJournal
  simp only [hlines, readLines, hline]

/-! ## Agreement -/

/-- What the reader can be given of a journal: the configured path, where there is no file, each
of the segments, or all of them in one. -/
def oosFiles (s : Store) : List (Option Bytes) :=
  none :: some s.disk.segments.flatten :: s.disk.segments.map some

/-- The payloads of a kind, as they are written. -/
def payloadsOf (kind : String) (said : List Line) : List (Option Json) :=
  (said.filter fun line => line.2.1 = kind).map fun line => line.2.2.encode

/-- What a payload gives; one that could not be written gives nothing. -/
def takenFrom {α : Type} (take : Json → Except String α) : Option Json → Option α
  | some payload => (take payload).toOption
  | none => none

/-- The time of an external cash flow. -/
def cashFlowTime (C : Conversions) (payload : Json) : Except String ℚ :=
  (C.positiveFloat (payload.get? "income_time_ms") "external cash-flow income_time_ms").map
    (· / 1000)

/-- **Agreement** on a file: the reader accepts it, and takes from it one execution for each
`execution_record` and one time for each `external_cash_flow_record`, with the written values. -/
def Agrees (H : Digests) (C : Conversions) (path : String) (file : Option Bytes)
    (said : List Line) : Prop :=
  ∃ identity records executions times,
    readOmsJournal H C path file = .ok (identity, records) ∧
      extractOmsEvidence C records = .ok (executions, times) ∧
      (executions.map some).Perm
        ((payloadsOf "execution_record" said).map (takenFrom (executionFromPayload C))) ∧
      (times.map some).Perm
        ((payloadsOf "external_cash_flow_record" said).map (takenFrom (cashFlowTime C)))

theorem readOmsJournal_flatten (H : Digests) (C : Conversions) {path : String} {s : Store}
    (h : Stamped s) : ∃ err, readOmsJournal H C path (some s.disk.segments.flatten) =
      .error err := by
  cases hsegments : s.disk.segments with
  | nil => exact ⟨"OMS journal is empty", rfl⟩
  | cons first rest =>
    have hfirst : segmentMagic <+: first := h first (hsegments ▸ mem_cons_self)
    exact ⟨_, readOmsJournal_segment H C (hfirst.trans (prefix_append _ _))⟩

/-- **The reader refuses** every file of a journal whose segments are stamped. -/
theorem readOmsJournal_refuses (H : Digests) (C : Conversions) {path : String} {s : Store}
    (h : Stamped s) {file : Option Bytes} (hfile : file ∈ oosFiles s) :
    ∃ err, readOmsJournal H C path file = .error err := by
  rcases mem_cons.mp hfile with rfl | hthere
  · exact ⟨s!"cannot read OMS journal {path}", rfl⟩
  rcases mem_cons.mp hthere with rfl | hsegment
  · exact readOmsJournal_flatten H C h
  · obtain ⟨segment, hmem, rfl⟩ := mem_map.mp hsegment
    exact ⟨_, readOmsJournal_segment H C (h segment hmem)⟩

/-- **The two never agree.**  After any writes to a fresh journal, and on any of its files, the
reader does not give what was written. -/
theorem reader_never_agrees {H : Digests} {cfg : Config} {C : Conversions}
    {journalId path : String} {writes : List Write} {s : Store}
    (hrun : Run.exec (Write.perform H cfg) (Store.fresh journalId) writes = some s) :
    ∀ file ∈ oosFiles s, ¬Agrees H C path file (writes.flatMap Write.lines) := by
  rintro file hfile ⟨identity, records, executions, times, haccepted, -⟩
  have hstamped : Stamped s := writes_stamped (stamped_fresh journalId) hrun
  obtain ⟨err, hrefused⟩ := @readOmsJournal_refuses H C path s hstamped file hfile
  rw [hrefused] at haccepted
  cases haccepted

/-- The clean stop of an engine that did nothing. -/
def stopped : List Write :=
  [.append atNoon [("oms_stopped", .dict [(.str "cancel_verified", .bool true)])]]

theorem stopped_written :
    (Run.exec (Write.perform hashlib {}) (Store.fresh "journal") stopped).isSome =
      true := by
  decide +kernel

theorem reader_never_agrees_stopped :
    ∃ s, Run.exec (Write.perform hashlib {}) (Store.fresh "journal") stopped =
        some s ∧
      ∀ (C : Conversions) (path : String), ∀ file ∈ oosFiles s,
        ¬Agrees hashlib C path file (stopped.flatMap Write.lines) := by
  obtain ⟨s, hrun⟩ := Option.isSome_iff_exists.mp stopped_written
  exact ⟨s, hrun, fun _ _ => reader_never_agrees hrun⟩

/-- **The clean stop is refused**: the reader finds no file at the configured path, and no JSON
in the segment. -/
theorem cleanStop_refused :
    ¬∀ (C : Conversions) (path journalId : String) (writes : List Write) (s : Store),
      Run.exec (Write.perform hashlib {}) (Store.fresh journalId) writes = some s →
      ((writes.flatMap Write.lines).getLast?.map fun line => line.2.1) = some "oms_stopped" →
      ∃ file ∈ oosFiles s, Agrees hashlib C path file (writes.flatMap Write.lines) := by
  intro hall
  obtain ⟨s, hrun⟩ := Option.isSome_iff_exists.mp stopped_written
  have hlast : ((stopped.flatMap Write.lines).getLast?.map fun line => line.2.1) =
      some "oms_stopped" := by
    decide
  let C : Conversions :=
    { str := fun _ => "", decimal := fun _ => none, float := fun _ => none
      fromIsoformat := fun _ => none }
  obtain ⟨file, hfile, identity, records, executions, times, haccepted, -⟩ :=
    hall C "oms_journal" "journal" stopped s hrun hlast
  obtain ⟨err, hrefused⟩ := @readOmsJournal_refuses hashlib C "oms_journal" s
    (writes_stamped (stamped_fresh "journal") hrun) file hfile
  rw [hrefused] at haccepted
  cases haccepted

end ChronosHFT.Evidence

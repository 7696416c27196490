import ChronosHFT.Journal.Durability

/-!
# Checkpoints and their anchors

`commit_checkpoint` writes a document that names the last record by its number and hash,
and the segment it takes it to be in: the active one.  It then appends a marker and puts a
pointer to both into the head file.  A start that finds a head reads the files from the
named segment on and has to meet the anchor there.

The active segment holds the last record unless it is empty, which it is after a rotation
whose batch then failed: the checkpoint names a segment without the record, and the next
start is refused.  `run_anchored` says that this is the only way, besides those of
`Journal/Durability`: when no checkpoint is committed on an empty segment, every start
succeeds and the anchor of the checkpoint is in the segment it names.
-/

namespace ChronosHFT.Journal

open List Frames

/-! ## Anchors stay where they are -/

section Growing

variable {H : Digests} {journalId : String} {disk disk' : Disk}
  {segments segments' : List Segment}

/-- A segment stays where it is and only gains records. -/
theorem Grows.exists_segment {before rest : List Segment} {segment : Segment}
    (h : Grows (before ++ segment :: rest) segments') :
    ∃ more rest', segments' =
      before ++ ⟨segment.createdAtUtc, segment.records ++ more⟩ :: rest' := by
  generalize hsegments : before ++ segment :: rest = segments at h
  induction h with
  | refl =>
    refine ⟨[], rest, ?_⟩
    rw [← hsegments, append_nil]
  | header _ createdAtUtc ih =>
    obtain ⟨more, rest', hmid⟩ := ih
    refine ⟨more, rest' ++ [⟨createdAtUtc, []⟩], ?_⟩
    rw [hmid, append_assoc, cons_append]
  | @records init last _ added ih =>
    obtain ⟨more, rest', hmid⟩ := ih
    rcases eq_nil_or_concat' rest' with rfl | ⟨rest', other, rfl⟩
    · -- the segment is the last one and grows
      obtain ⟨rfl, hlast⟩ := append_inj' hmid rfl
      cases hlast
      exact ⟨more ++ added, [], by rw [append_assoc]⟩
    · have hsplit : init ++ [last] =
          (before ++ ⟨segment.createdAtUtc, segment.records ++ more⟩ :: rest') ++ [other] := by
        rw [hmid, append_assoc, cons_append]
      obtain ⟨rfl, -⟩ := append_inj' hsplit rfl
      refine ⟨more, rest' ++ [⟨last.createdAtUtc, last.records ++ added⟩], ?_⟩
      rw [append_assoc, cons_append]

theorem Resolves.grows {anchor : Anchor} (h : Resolves H journalId segments anchor)
    (hgrows : Grows segments segments') : Resolves H journalId segments' anchor := by
  obtain ⟨before, segment, rest, first, second, rfl, hrecords, hfirst, hindex, hseq, hhash⟩ :=
    h.exists_segment
  obtain ⟨more, rest', rfl⟩ := hgrows.exists_segment
  exact ⟨before, _, rest', first, second ++ more, rfl, by rw [hrecords, append_assoc], hfirst,
    hindex, hseq, hhash⟩

theorem recordsOf_grows (h : Grows segments segments') :
    ∃ more, recordsOf segments' = recordsOf segments ++ more := by
  induction h with
  | refl => exact ⟨[], (append_nil _).symm⟩
  | header _ createdAtUtc ih =>
    rw [recordsOf_header]
    exact ih
  | records _ more ih =>
    obtain ⟨before, hbefore⟩ := ih
    rw [recordsOf_records, hbefore, append_assoc]
    exact ⟨_, rfl⟩

/-- The files a checkpoint is loaded from are still there. -/
structure KeepsDocuments (disk disk' : Disk) : Prop where
  head : disk'.head = disk.head
  checkpoints : ∀ name text, disk.checkpoints.get? name = some text →
    disk'.checkpoints.get? name = some text

theorem loadCheckpoint_keeps {loaded : Json × Json} (hkeeps : KeepsDocuments disk disk')
    (h : loadCheckpoint H journalId disk = .ok (some loaded)) :
    loadCheckpoint H journalId disk' = .ok (some loaded) := by
  unfold loadCheckpoint at h ⊢
  rw [hkeeps.head]
  cases hhead : disk.head with
  | none =>
    rw [hhead] at h
    cases h
  | some text =>
    rw [hhead] at h
    simp only at h ⊢
    cases hpointer : loadDocument "OMS checkpoint head" text with
    | error err =>
      rw [hpointer] at h
      cases h
    | ok pointer =>
      rw [hpointer] at h
      simp only at h ⊢
      split at h
      · cases h
      next hversion =>
      rw [if_neg hversion]
      split at h
      · cases h
      next hidentity =>
      rw [if_neg hidentity]
      split at h
      · cases h
      next hdigest =>
      rw [if_neg hdigest]
      split at h
      · cases h
      next hname =>
      rw [if_neg hname]
      -- the file the pointer names is the same
      cases hfile : disk.checkpoints.get? (textField pointer "checkpoint_file") with
      | none =>
        rw [hfile] at h
        cases h
      | some content =>
        rw [hfile] at h
        rw [hkeeps.checkpoints _ _ hfile]
        exact h

theorem HeadOk.grows (h : HeadOk H journalId disk segments) (hgrows : Grows segments segments')
    (hkeeps : KeepsDocuments disk disk') : HeadOk H journalId disk' segments' := by
  rcases h with hnone | ⟨pointer, checkpoint, anchor, hloads, hanchor, hresolves, marker, rest,
    hdrop,
    hmarker⟩
  · exact Or.inl (hkeeps.head.trans hnone)
  obtain ⟨more, hmore⟩ := recordsOf_grows hgrows
  refine Or.inr ⟨pointer, checkpoint, anchor, loadCheckpoint_keeps hkeeps hloads, hanchor,
    hresolves.grows hgrows, marker, rest ++ docs H journalId
      (endOf H journalId origin (recordsOf segments)) more, ?_, hmarker⟩
  have hshort : anchor.seq ≤ (docs H journalId origin (recordsOf segments)).length := by
    by_contra hlong
    rw [drop_eq_nil_of_le (by omega)] at hdrop
    cases hdrop
  rw [hmore, docs_append, drop_append_of_le_length hshort, hdrop, cons_append]

end Growing

/-! ## Documents -/

section Documents

variable {H : Digests}

theorem documentText_ofJson (j : Json) :
    Store.documentText (PyValue.ofJson j) = some (j.dumps ++ "\n") := by
  unfold Store.documentText
  rw [PyValue.encode_ofJson, Option.map_some, String.ofList_append]
  rfl

theorem loadDocument_dumps (label : String) {entries : List (String × Json)}
    (h : (Json.obj entries).Distinct) :
    loadDocument label ((Json.obj entries).dumps ++ "\n") = .ok (Json.obj entries).sortKeys := by
  unfold loadDocument
  rw [Json.loads_dumps h (by simp [Json.isBlank])]
  rfl

/-- A document with its digest. -/
def sealed (H : Digests) (field : String) (entries : List (String × Json)) : Json :=
  .obj (entries ++ [(field, .str (hashOf H (.obj entries)))])

theorem sealDocument_ofJson (field : String) (entries : List (String × Json)) :
    sealDocument H field (PyValue.ofJsonEntries entries) =
      some (PyValue.ofJsonEntries (entries ++ [(field, .str (hashOf H (.obj entries)))]),
        hashOf H (.obj entries)) := by
  have hhash : calculateHash H (.dict (PyValue.ofJsonEntries entries)) =
      some (hashOf H (.obj entries)) := by
    show (canonicalBytes (PyValue.ofJson (.obj entries))).map H.sha256 = _
    rw [canonicalBytes_ofJson]
    rfl
  unfold sealDocument
  rw [hhash, Option.map_some, PyValue.ofJsonEntries_eq, PyValue.ofJsonEntries_eq, map_append]
  rfl

section Sealed

variable {field : String} {entries : List (String × Json)}

theorem distinct_sealed (h : (Json.obj entries).Distinct)
    (hfield : field ∉ entries.map Prod.fst) :
    (sealed H field entries).Distinct := by
  refine ⟨?_, Json.distinctEntries_iff.mpr ?_⟩
  · rw [map_append]
    refine nodup_append.mpr ⟨h.1, nodup_singleton _, ?_⟩
    rintro key hkey other hother rfl
    rw [map_singleton, mem_singleton] at hother
    rw [hother] at hkey
    exact hfield hkey
  · intro entry hentry
    rcases mem_append.mp hentry with hold | hnew
    · exact Json.distinctEntries_iff.mp h.2 entry hold
    · rw [mem_singleton.mp hnew]
      trivial

/-- **The digest of a document is the one it carries.** -/
theorem documentDigest_sealed (h : (Json.obj entries).Distinct)
    (hfield : field ∉ entries.map Prod.fst) :
    documentDigest H (sealed H field entries).sortKeys field = hashOf H (.obj entries) := by
  have hwithout : (sealed H field entries).without field = .obj entries := by
    have hkept : entries.filter (fun entry => entry.1 ≠ field) = entries := by
      refine filter_eq_self.mpr fun entry hentry => decide_eq_true ?_
      rintro rfl
      exact hfield (mem_map.mpr ⟨entry, hentry, rfl⟩)
    show Json.obj ((entries ++ [(field, _)]).filter fun entry => entry.1 ≠ field) = _
    rw [filter_append, hkept]
    simp
  unfold documentDigest hashOf
  rw [← Json.dumps_sortKeys, Json.sortKeys_without (distinct_sealed h hfield), hwithout,
    Json.dumps_sortKeys]

theorem get?_sealed (h : (Json.obj entries).Distinct) (hfield : field ∉ entries.map Prod.fst)
    {key : String} {j : Json} (hget : (sealed H field entries).get? key = some j)
    (hsorted : j.sortKeys = j) : (sealed H field entries).sortKeys.get? key = some j := by
  rw [Json.get?_sortKeys (distinct_sealed h hfield), hget, Option.map_some, hsorted]

theorem get?_sealed_field (h : (Json.obj entries).Distinct)
    (hfield : field ∉ entries.map Prod.fst) :
    (sealed H field entries).sortKeys.get? field = some (.str (hashOf H (.obj entries))) := by
  refine get?_sealed h hfield ?_ rfl
  exact (Dict.lookupIn_eq_some_iff (distinct_sealed h hfield).1).mpr
    (mem_append_right _ mem_cons_self)

end Sealed

/-- The name of a checkpoint is a plain file name. -/
theorem checkpointName_plain (seq : ℕ) (bytes : Bytes) :
    checkpointName seq (H.sha256 bytes) ≠ "" ∧ checkpointName seq (H.sha256 bytes) ≠ "." ∧
      (checkpointName seq (H.sha256 bytes)).toList.any (fun c => c = '/') = false := by
  have hchars : (checkpointName seq (H.sha256 bytes)).toList =
      "checkpoint-".toList ++ (List.replicate (20 - (Nat.toDigits 10 seq).length) '0' ++
        Nat.toDigits 10 seq) ++ "-".toList ++ (H.sha256 bytes).toList ++ ".json".toList := by
    unfold checkpointName twentyDigits
    simp only [String.toList_append, String.toList_ofList]
  refine ⟨?_, ?_, ?_⟩
  · intro heq
    rw [heq] at hchars
    cases hchars
  · intro heq
    rw [heq] at hchars
    cases hchars
  · rw [hchars, any_eq_false]
    intro c hc hslash
    rw [of_decide_eq_true hslash] at hc
    simp only [mem_append] at hc
    rcases hc with (((hc | hc | hc) | hc) | hc) | hc
    · revert hc
      decide
    · have hzero := eq_of_mem_replicate hc
      cases hzero
    · have hdigit := Json.digits_numberChar seq _ hc
      cases hdigit
    · revert hc
      decide
    · have hhex := H.hex_sha256 bytes _ hc
      revert hhex
      decide
    · revert hc
      decide

end Documents

/-! ## A checkpoint that is committed -/

namespace Store

/-- The fields of the checkpoint document. -/
def checkpointJson (s : Store) (summary : Json) (createdAtUtc : String) : List (String × Json) :=
  [("checkpoint_version", .int 1),
   ("journal_format_version", .int formatVersion),
   ("journal_id", .str s.journalId),
   ("anchor_seq", .int (s.nextSeq - 1 : ℕ)),
   ("anchor_hash", .str s.lastHash),
   ("anchor_segment_index", .int s.activeSegmentIndex),
   ("summary_schema", .str "chronoshft.oms.rebuild-summary"),
   ("summary_version", .int 1),
   ("summary", summary),
   ("created_at_utc", .str createdAtUtc)]

/-- The payload of the marker. -/
def markerJson (s : Store) (digest name : String) : List (String × Json) :=
  [("checkpoint_sha256", .str digest),
   ("checkpoint_file", .str name),
   ("anchor_seq", .int (s.nextSeq - 1 : ℕ)),
   ("anchor_hash", .str s.lastHash)]

/-- The fields of the pointer document. -/
def pointerJson (s : Store) (digest name : String) (markerSeq : ℕ) (markerHash : String)
    (markerSegment : ℕ) : List (String × Json) :=
  [("pointer_version", .int 1),
   ("journal_id", .str s.journalId),
   ("checkpoint_file", .str name),
   ("checkpoint_sha256", .str digest),
   ("marker_seq", .int markerSeq),
   ("marker_hash", .str markerHash),
   ("marker_segment_index", .int markerSegment)]

theorem checkpointFields_eq (s : Store) {summary : PyValue} {j : Json}
    (h : summary.normalize = PyValue.ofJson j) (createdAtUtc : String) :
    s.checkpointFields summary createdAtUtc =
      PyValue.ofJsonEntries (s.checkpointJson j createdAtUtc) := by
  unfold checkpointFields
  rw [h]
  rfl

theorem normalize_markerPayload (s : Store) (digest name : String) :
    (s.markerPayload digest name).normalize = PyValue.ofJson (.obj (s.markerJson digest name)) :=
  rfl

theorem pointerFields_eq (s : Store) (digest name : String) (markerSeq : ℕ) (markerHash : String)
    (markerSegment : ℕ) :
    s.pointerFields digest name markerSeq markerHash markerSegment =
      PyValue.ofJsonEntries (s.pointerJson digest name markerSeq markerHash markerSegment) := rfl

theorem distinct_checkpointJson (s : Store) {summary : Json} (h : summary.Distinct)
    (createdAtUtc : String) : (Json.obj (s.checkpointJson summary createdAtUtc)).Distinct := by
  refine ⟨?_, Json.distinctEntries_iff.mpr ?_⟩
  · show List.Nodup ["checkpoint_version", "journal_format_version", "journal_id", "anchor_seq",
      "anchor_hash", "anchor_segment_index", "summary_schema", "summary_version", "summary",
      "created_at_utc"]
    decide
  · intro entry hentry
    simp only [checkpointJson, mem_cons, not_mem_nil, or_false] at hentry
    rcases hentry with rfl | rfl | rfl | rfl | rfl | rfl | rfl | rfl | rfl | rfl
    all_goals first | exact h | exact trivial

theorem distinct_markerJson (s : Store) (digest name : String) :
    (Json.obj (s.markerJson digest name)).Distinct := by
  refine ⟨?_, trivial, trivial, trivial, trivial, trivial⟩
  show List.Nodup ["checkpoint_sha256", "checkpoint_file", "anchor_seq", "anchor_hash"]
  decide

theorem distinct_pointerJson (s : Store) (digest name : String) (markerSeq : ℕ)
    (markerHash : String) (markerSegment : ℕ) :
    (Json.obj (s.pointerJson digest name markerSeq markerHash markerSegment)).Distinct := by
  refine ⟨?_, trivial, trivial, trivial, trivial, trivial, trivial, trivial, trivial⟩
  show List.Nodup ["pointer_version", "journal_id", "checkpoint_file", "checkpoint_sha256",
    "marker_seq", "marker_hash", "marker_segment_index"]
  decide

end Store

section Committed

variable {H : Digests} {cfg : Config} {s marked : Store} {segments segments' : List Segment}
  {summary : Json} {createdAtUtc : String} {disk : Disk}

/-- The digest of the checkpoint document. -/
def checkpointDigest (H : Digests) (s : Store) (summary : Json) (createdAtUtc : String) :
    String :=
  hashOf H (.obj (s.checkpointJson summary createdAtUtc))

/-- The name of the checkpoint file. -/
def checkpointFile (H : Digests) (s : Store) (summary : Json) (createdAtUtc : String) : String :=
  checkpointName (s.nextSeq - 1) (checkpointDigest H s summary createdAtUtc)

/-- The checkpoint document. -/
def checkpointDoc (H : Digests) (s : Store) (summary : Json) (createdAtUtc : String) : Json :=
  sealed H "checkpoint_sha256" (s.checkpointJson summary createdAtUtc)

/-- The pointer document, when the journal stands behind the marker. -/
def pointerDoc (H : Digests) (s marked : Store) (summary : Json) (createdAtUtc : String) :
    Json :=
  sealed H "pointer_sha256" (marked.pointerJson (checkpointDigest H s summary createdAtUtc)
    (checkpointFile H s summary createdAtUtc) (marked.nextSeq - 1) marked.lastHash
    marked.activeSegmentIndex)

theorem checkpointDoc_field (s : Store) (summary : Json) (createdAtUtc : String) :
    "checkpoint_sha256" ∉ (s.checkpointJson summary createdAtUtc).map Prod.fst := by
  show "checkpoint_sha256" ∉ ["checkpoint_version", "journal_format_version", "journal_id",
    "anchor_seq", "anchor_hash", "anchor_segment_index", "summary_schema", "summary_version",
    "summary", "created_at_utc"]
  decide

theorem pointerDoc_field (s : Store) (digest name : String) (markerSeq : ℕ) (markerHash : String)
    (markerSegment : ℕ) :
    "pointer_sha256" ∉
      (s.pointerJson digest name markerSeq markerHash markerSegment).map Prod.fst := by
  show "pointer_sha256" ∉ ["pointer_version", "journal_id", "checkpoint_file",
    "checkpoint_sha256", "marker_seq", "marker_hash", "marker_segment_index"]
  decide

/-- A field of the checkpoint as it is read. -/
theorem get?_checkpointDoc (hsummary : summary.Distinct) {key : String} {j : Json}
    (hget : (checkpointDoc H s summary createdAtUtc).get? key = some j)
    (hsorted : j.sortKeys = j) :
    (checkpointDoc H s summary createdAtUtc).sortKeys.get? key = some j :=
  get?_sealed (s.distinct_checkpointJson hsummary createdAtUtc) (checkpointDoc_field _ _ _) hget
    hsorted

/-- A field of the pointer as it is read. -/
theorem get?_pointerDoc {key : String} {j : Json}
    (hget : (pointerDoc H s marked summary createdAtUtc).get? key = some j)
    (hsorted : j.sortKeys = j) :
    (pointerDoc H s marked summary createdAtUtc).sortKeys.get? key = some j :=
  get?_sealed (marked.distinct_pointerJson ..) (pointerDoc_field _ _ _ _ _ _) hget hsorted

/-- **The documents are loaded** once they are written. -/
theorem loadCheckpoint_committed (hidentity : marked.journalId = s.journalId)
    (hsummary : summary.Distinct)
    (hhead : disk.head = some ((pointerDoc H s marked summary createdAtUtc).dumps ++ "\n"))
    {text : String} (hfile : disk.checkpoints.get? (checkpointFile H s summary createdAtUtc) =
      some text)
    (htext : loadDocument "OMS recovery checkpoint" text =
      .ok (checkpointDoc H s summary createdAtUtc).sortKeys) :
    loadCheckpoint H s.journalId disk =
      .ok (some ((pointerDoc H s marked summary createdAtUtc).sortKeys,
        (checkpointDoc H s summary createdAtUtc).sortKeys)) := by
  have hload : loadDocument "OMS checkpoint head"
      ((pointerDoc H s marked summary createdAtUtc).dumps ++ "\n") =
        .ok (pointerDoc H s marked summary createdAtUtc).sortKeys :=
    loadDocument_dumps _ (distinct_sealed (marked.distinct_pointerJson ..)
      (pointerDoc_field _ _ _ _ _ _))
  have hversion : (pointerDoc H s marked summary createdAtUtc).sortKeys.get? "pointer_version" =
      some (.int 1) := get?_pointerDoc rfl rfl
  have hjournal : (pointerDoc H s marked summary createdAtUtc).sortKeys.get? "journal_id" =
      some (.str s.journalId) := by
    rw [← hidentity]
    exact get?_pointerDoc rfl rfl
  have hdigest : (pointerDoc H s marked summary createdAtUtc).sortKeys.get? "pointer_sha256" =
      some (.str (documentDigest H (pointerDoc H s marked summary createdAtUtc).sortKeys
        "pointer_sha256")) := by
    rw [pointerDoc, documentDigest_sealed (marked.distinct_pointerJson ..)
      (pointerDoc_field _ _ _ _ _ _)]
    exact get?_sealed_field (marked.distinct_pointerJson ..) (pointerDoc_field _ _ _ _ _ _)
  have hname : textField (pointerDoc H s marked summary createdAtUtc).sortKeys
      "checkpoint_file" =
      checkpointFile H s summary createdAtUtc := by
    have hget : (pointerDoc H s marked summary createdAtUtc).sortKeys.get? "checkpoint_file" =
        some (.str (checkpointFile H s summary createdAtUtc)) := get?_pointerDoc rfl rfl
    unfold textField
    rw [hget]
  have hplain := checkpointName_plain (H := H) (s.nextSeq - 1)
    (utf8 (Json.obj (s.checkpointJson summary createdAtUtc)).dumps)
  have hdocVersion : (checkpointDoc H s summary createdAtUtc).sortKeys.get?
      "checkpoint_version" =
      some (.int 1) := get?_checkpointDoc hsummary rfl rfl
  have hdocJournal : (checkpointDoc H s summary createdAtUtc).sortKeys.get? "journal_id" =
      some (.str s.journalId) := get?_checkpointDoc hsummary rfl rfl
  have hdocDigest : documentDigest H (checkpointDoc H s summary createdAtUtc).sortKeys
      "checkpoint_sha256" = checkpointDigest H s summary createdAtUtc :=
    documentDigest_sealed (s.distinct_checkpointJson hsummary createdAtUtc)
      (checkpointDoc_field _ _ _)
  have hdocField : (checkpointDoc H s summary createdAtUtc).sortKeys.get? "checkpoint_sha256" =
      some (.str (checkpointDigest H s summary createdAtUtc)) :=
    get?_sealed_field (s.distinct_checkpointJson hsummary createdAtUtc)
      (checkpointDoc_field _ _ _)
  have htarget : (pointerDoc H s marked summary createdAtUtc).sortKeys.get? "checkpoint_sha256" =
      some (.str (checkpointDigest H s summary createdAtUtc)) := get?_pointerDoc rfl rfl
  unfold loadCheckpoint
  rw [hhead]
  simp only [hload]
  rw [if_neg (not_not_intro hversion), if_neg (not_not_intro hjournal),
    if_neg (not_not_intro hdigest)]
  simp only [hname]
  rw [if_neg]
  · simp only [hfile, Option.map_some, htext, hdocDigest]
    rw [if_neg (not_not_intro hdocVersion), if_neg (not_not_intro hdocJournal),
      if_neg (not_not_intro hdocField), if_neg (not_not_intro htarget)]
  · rintro (hempty | hdot | hslash)
    · exact hplain.1 hempty
    · exact hplain.2.1 hdot
    · exact absurd (hslash.symm.trans hplain.2.2) (by decide)

/-- The anchor of a checkpoint that is committed here. -/
def Store.anchor (s : Store) : Anchor :=
  { segmentIndex := s.activeSegmentIndex, seq := s.nextSeq - 1, hash := s.lastHash }

/-- **The anchor is the last record**, when the active segment has one. -/
theorem resolves_anchor (hsync : InSync H cfg s segments)
    (hcount : 0 < s.activeSegmentRecordCount) :
    Resolves H s.journalId segments s.anchor := by
  have hposition := hsync.position
  have hindex := hsync.index
  rcases eq_nil_or_concat' segments with rfl | ⟨init, segment, rfl⟩
  · rw [hsync.count] at hcount
    exact absurd hcount (Nat.lt_irrefl 0)
  have hrecords : recordsOf (init ++ [segment]) = recordsOf init ++ segment.records := by
    rw [recordsOf_append, recordsOf_cons]
    exact congrArg (recordsOf init ++ ·) (append_nil _)
  have hcounted := hsync.count
  rw [List.getLast?_concat] at hcounted
  have hseq : s.nextSeq = 1 + (recordsOf (init ++ [segment])).length := by
    have hplace := congrArg Position.expectedSeq hposition
    rw [expectedSeq_endOf] at hplace
    exact hplace
  rw [hrecords, length_append] at hseq
  refine ⟨init, segment, [], segment.records, [], rfl, (append_nil _).symm, ?_, ?_, ?_, ?_⟩
  · intro hnil
    rw [hcounted, Option.map_some, Option.getD_some, hnil] at hcount
    exact absurd hcount (Nat.lt_irrefl 0)
  · rw [length_append, length_singleton] at hindex
    exact hindex
  · show s.nextSeq - 1 = _
    omega
  · rw [← hrecords, ← hposition]
    rfl

/-- The anchor that is read from the checkpoint. -/
theorem anchorOf?_checkpointDoc (hsummary : summary.Distinct)
    (hindex : s.activeSegmentIndex ≠ 0) :
    anchorOf? (checkpointDoc H s summary createdAtUtc).sortKeys = some s.anchor := by
  have hseq : (checkpointDoc H s summary createdAtUtc).sortKeys.get? "anchor_seq" =
      some (.int (s.nextSeq - 1 : ℕ)) := get?_checkpointDoc hsummary rfl rfl
  have hhash : (checkpointDoc H s summary createdAtUtc).sortKeys.get? "anchor_hash" =
      some (.str s.lastHash) := get?_checkpointDoc hsummary rfl rfl
  have hsegment :
      (checkpointDoc H s summary createdAtUtc).sortKeys.get? "anchor_segment_index" =
        some (.int s.activeSegmentIndex) := get?_checkpointDoc hsummary rfl rfl
  obtain ⟨index, hindex⟩ := Nat.exists_eq_succ_of_ne_zero hindex
  unfold anchorOf? natField? textField Store.anchor
  simp only [hseq, hhash, hsegment, Int.natCast_nonneg, if_true, Int.toNat_natCast, hindex]

/-- **The committed checkpoint can be resolved**: its anchor is the last record before the
marker, in the segment it names. -/
theorem headResolves_committed {r : Stored} (hsync : InSync H cfg s segments)
    (hcount : 0 < s.activeSegmentRecordCount) (hsummary : summary.Distinct)
    (hidentity : marked.journalId = s.journalId) (hmarked : InSync H cfg marked segments')
    (hgrows : Grows segments segments')
    (hrecords : recordsOf segments' = recordsOf segments ++ [r])
    (hkind : r.kind = "checkpoint_committed")
    (hpayload : r.payload = s.markerJson (checkpointDigest H s summary createdAtUtc)
      (checkpointFile H s summary createdAtUtc))
    (hhead : disk.head = some ((pointerDoc H s marked summary createdAtUtc).dumps ++ "\n"))
    {text : String} (hfile : disk.checkpoints.get? (checkpointFile H s summary createdAtUtc) =
      some text)
    (htext : loadDocument "OMS recovery checkpoint" text =
      .ok (checkpointDoc H s summary createdAtUtc).sortKeys) :
    HeadResolves H s.journalId disk segments'
      (pointerDoc H s marked summary createdAtUtc).sortKeys
      (checkpointDoc H s summary createdAtUtc).sortKeys s.anchor := by
  have hresolves := resolves_anchor hsync hcount
  have hanchorSeq : (checkpointDoc H s summary createdAtUtc).sortKeys.get? "anchor_seq" =
      some (.int (s.nextSeq - 1 : ℕ)) := get?_checkpointDoc hsummary rfl rfl
  have hanchorHash : (checkpointDoc H s summary createdAtUtc).sortKeys.get? "anchor_hash" =
      some (.str s.lastHash) := get?_checkpointDoc hsummary rfl rfl
  refine ⟨loadCheckpoint_committed hidentity hsummary hhead hfile htext, ?_,
    hresolves.grows hgrows, r.doc H s.journalId s.position, [], ?_, ?_⟩
  · refine anchorOf?_checkpointDoc hsummary ?_
    obtain ⟨before, segment, rest, first, second, -, -, -, hsegment, -⟩ :=
      hresolves.exists_segment
    have hindex : s.activeSegmentIndex = before.length + 1 := hsegment
    omega
  · have hlength : s.anchor.seq =
        (docs H s.journalId origin (recordsOf segments)).length := by
      have hplace := congrArg Position.expectedSeq hsync.position
      rw [expectedSeq_endOf] at hplace
      rw [length_docs]
      show s.nextSeq - 1 = _
      have hfirst : s.nextSeq = 1 + (recordsOf segments).length := hplace
      omega
    rw [hrecords, docs_append, hlength, drop_left, ← hsync.position]
    rfl
  · -- the journal stands behind the marker
    have hbehind : marked.position = r.after H s.journalId s.position := by
      rw [hmarked.position, hrecords, endOf_append, hidentity, ← hsync.position]
      rfl
    have hmarkerSeq : marked.nextSeq - 1 = s.nextSeq := by
      have hnext : marked.nextSeq = s.nextSeq + 1 := congrArg Position.expectedSeq hbehind
      omega
    have hmarkerHash : marked.lastHash = r.hash H s.journalId s.position :=
      congrArg Position.previousHash hbehind
    have hpayloadField : ((r.doc H s.journalId s.position).get? "payload").getD .null =
        (Json.obj (s.markerJson (checkpointDigest H s summary createdAtUtc)
          (checkpointFile H s summary createdAtUtc))).sortKeys := by
      rw [r.get?_doc H s.journalId s.position, ← hpayload]
      rfl
    have hmarkerField : ∀ key j,
        (Json.obj (s.markerJson (checkpointDigest H s summary createdAtUtc)
        (checkpointFile H s summary createdAtUtc))).get? key = some j → j.sortKeys = j →
        (Json.obj (s.markerJson (checkpointDigest H s summary createdAtUtc)
          (checkpointFile H s summary createdAtUtc))).sortKeys.get? key = some j := by
      intro key j hget hsorted
      rw [Json.get?_sortKeys (s.distinct_markerJson _ _), hget, Option.map_some, hsorted]
    have hpointerSeq : (pointerDoc H s marked summary createdAtUtc).sortKeys.get? "marker_seq" =
        some (.int (marked.nextSeq - 1 : ℕ)) := get?_pointerDoc rfl rfl
    have hpointerHash : (pointerDoc H s marked summary createdAtUtc).sortKeys.get?
        "marker_hash" =
        some (.str marked.lastHash) := get?_pointerDoc rfl rfl
    have hdigest : (checkpointDoc H s summary createdAtUtc).sortKeys.get? "checkpoint_sha256" =
        some (.str (checkpointDigest H s summary createdAtUtc)) :=
      get?_sealed_field (s.distinct_checkpointJson hsummary createdAtUtc)
        (checkpointDoc_field _ _ _)
    have hrecord : ∀ key j, (r.signed H s.journalId s.position).get? key = some j →
        j.sortKeys = j →
        (r.doc H s.journalId s.position).get? key = some j :=
      fun key j => r.get?_doc_of_sorted H s.journalId s.position
    unfold isMarkerOf
    simp only [hpayloadField, hpointerSeq, hpointerHash, hdigest, hanchorSeq, hanchorHash]
    refine decide_eq_true ⟨?_, ?_, ?_, ?_, ?_, ?_⟩
    · rw [hmarkerSeq]
      exact hrecord "seq" (.int s.nextSeq) rfl rfl
    · rw [hmarkerHash]
      exact hrecord "hash" _ rfl rfl
    · rw [← hkind]
      exact hrecord "kind" (.str r.kind) rfl rfl
    · exact hmarkerField "checkpoint_sha256" _ rfl rfl
    · exact hmarkerField "anchor_seq" _ rfl rfl
    · exact hmarkerField "anchor_hash" _ rfl rfl

end Committed

/-! ## Runs with checkpoints -/

/-- Every checkpoint file is the text of a document. -/
def DocumentsOnly (checkpoints : Dict String String) : Prop :=
  ∀ name text, checkpoints.get? name = some text →
    ∃ entries, (Json.obj entries).Distinct ∧ text = (Json.obj entries).dumps ++ "\n"

/-- The journal with other checkpoint files. -/
def Store.withCheckpoints (s : Store) (checkpoints : Dict String String) : Store :=
  { s with disk := { s.disk with checkpoints := checkpoints } }

/-- What safe actions keep. -/
structure Secured (H : Digests) (cfg : Config) (s : Store) (segments : List Segment) : Prop where
  intact : Intact H cfg s.journalId s.disk segments
  inSync : s.Settled → InSync H cfg s segments
  head : HeadOk H s.journalId s.disk segments
  documents : DocumentsOnly s.disk.checkpoints

section Commit

variable {H : Digests} {cfg : Config} {s next : Store} {segments : List Segment}

theorem InSync.withCheckpoints (h : InSync H cfg s segments) (checkpoints : Dict String String) :
    InSync H cfg (s.withCheckpoints checkpoints) segments :=
  ⟨⟨h.intact.files, h.intact.readable⟩, h.settled, h.position, h.count⟩

variable {result : Except WriteError Unit} {env : CommitEnv} {summary : List (PyKey × PyValue)}

/-- The checkpoint file, in each way its writing can end. -/
theorem writeCheckpoint_effect {outcome : Replacing} {name : String}
    {entries : List (String × Json)}
    (hdocuments : DocumentsOnly s.disk.checkpoints) (hdistinct : (Json.obj entries).Distinct)
    (heq : s.writeCheckpoint outcome name (PyValue.ofJson (.obj entries)) = (next, result)) :
    ∃ checkpoints, next = s.withCheckpoints checkpoints ∧ DocumentsOnly checkpoints ∧
      (∀ other text, s.disk.checkpoints.get? other = some text →
        checkpoints.get? other = some text) ∧
      (result = .ok () → ∃ text, checkpoints.get? name = some text ∧
        loadDocument "OMS recovery checkpoint" text = .ok (Json.obj entries).sortKeys) := by
  have hload := loadDocument_dumps "OMS recovery checkpoint" hdistinct
  have hunchanged : ∀ err : WriteError, (s, Except.error err) = (next, result) →
      ∃ checkpoints, next = s.withCheckpoints checkpoints ∧ DocumentsOnly checkpoints ∧
        (∀ other text, s.disk.checkpoints.get? other = some text →
          checkpoints.get? other = some text) ∧
        (result = .ok () → ∃ text, checkpoints.get? name = some text ∧
          loadDocument "OMS recovery checkpoint" text = .ok (Json.obj entries).sortKeys) := by
    intro err heq
    cases heq
    exact ⟨s.disk.checkpoints, rfl, hdocuments, fun _ _ h => h, fun herr => by cases herr⟩
  unfold Store.writeCheckpoint at heq
  rw [documentText_ofJson] at heq
  simp only at heq
  cases hexisting : s.disk.checkpoints.get? name with
  | some existing =>
    rw [hexisting] at heq
    obtain ⟨found, hfound, rfl⟩ := hdocuments name existing hexisting
    simp only [loadDocument_dumps _ hfound] at heq
    split at heq
    next hsame =>
      rw [PyValue.toJson?_ofJson _ hdistinct, Option.map_some, Json.sortKeys_sortKeys] at hsame
      cases heq
      refine ⟨s.disk.checkpoints, rfl, hdocuments, fun _ _ h => h, fun _ => ⟨_, hexisting, ?_⟩⟩
      rw [loadDocument_dumps _ hfound, Option.some.inj hsame]
    next => exact hunchanged _ heq
  | none =>
    rw [hexisting] at heq
    simp only at heq
    have hreplaced : DocumentsOnly
        (s.disk.checkpoints.set name ((Json.obj entries).dumps ++ "\n")) := by
      intro other text hget
      rw [Dict.get?_set] at hget
      split at hget
      · exact ⟨entries, hdistinct, (Option.some.inj hget).symm⟩
      · exact hdocuments other text hget
    have hkept : ∀ other text, s.disk.checkpoints.get? other = some text →
        (s.disk.checkpoints.set name ((Json.obj entries).dumps ++ "\n")).get? other =
          some text := by
      intro other text hget
      rw [Dict.get?_set, if_neg, hget]
      rintro rfl
      rw [hexisting] at hget
      cases hget
    cases outcome with
    | done =>
      cases heq
      refine ⟨_, rfl, hreplaced, hkept, fun _ => ⟨_, ?_, hload⟩⟩
      rw [Dict.get?_set, if_pos rfl]
    | failed replaced =>
      cases replaced with
      | true =>
        cases heq
        exact ⟨_, rfl, hreplaced, hkept, fun herr => by cases herr⟩
      | false => exact hunchanged _ heq

/-- The journal with another head file. -/
def Store.withHead (s : Store) (head : Option String) : Store :=
  { s with disk := { s.disk with head := head } }

theorem InSync.withHead (h : InSync H cfg s segments) (head : Option String) :
    InSync H cfg (s.withHead head) segments :=
  ⟨⟨h.intact.files, h.intact.readable⟩, h.settled, h.position, h.count⟩

/-- The head file, in each way its writing can end. -/
theorem writePointer_effect {outcome : Replacing} {j : Json}
    (heq : s.writePointer outcome (PyValue.ofJson j) = (next, result)) :
    (next = s ∧ result ≠ .ok ()) ∨ next = s.withHead (some (j.dumps ++ "\n")) := by
  unfold Store.writePointer at heq
  rw [documentText_ofJson] at heq
  cases outcome with
  | done =>
    cases heq
    exact Or.inr rfl
  | failed replaced =>
    cases replaced with
    | true =>
      cases heq
      exact Or.inr rfl
    | false =>
      cases heq
      exact Or.inl ⟨rfl, fun herr => by cases herr⟩

/-- The record of a marker. -/
theorem marker_line {ts : ℕ → Timestamp} {records : List Stored} {digest name : String}
    (h : records.map Stored.line =
      linesOf ts [("checkpoint_committed", s.markerPayload digest name)]) :
    ∃ r : Stored, records = [r] ∧ r.kind = "checkpoint_committed" ∧
      r.payload = s.markerJson digest name := by
  obtain ⟨r, hr, hline⟩ := map_eq_singleton_iff.mp h
  have hkind : r.kind = "checkpoint_committed" := congrArg (fun line : Line => line.2.1) hline
  have hpayload : PyValue.ofJson (.obj r.payload) =
      PyValue.ofJson (.obj (s.markerJson digest name)) :=
    congrArg (fun line : Line => line.2.2) hline
  have hsame := congrArg PyValue.toJson? hpayload
  rw [PyValue.toJson?_ofJson _ r.distinct, PyValue.toJson?_ofJson _ (s.distinct_markerJson _ _)]
    at hsame
  exact ⟨r, hr, hkind, Json.obj.inj (Option.some.inj hsame)⟩

/-- When a commit is safe: the active segment holds the last record, the summary is plain, and
the marker is appended safely. -/
def SafeCommit (s : Store) (env : CommitEnv) (summary : List (PyKey × PyValue)) : Prop :=
  s.Settled ∧ 0 < s.activeSegmentRecordCount ∧ (PyValue.dict summary).normalize.IsPlain ∧
    env.marker.create.Whole ∧ env.marker.write.Whole

/-- A commit that has written its pointer: the documents can be loaded, and the marker is the
first record after the anchor. -/
structure Committed (H : Digests) (cfg : Config) (s next : Store)
    (segments segments' : List Segment)
    (summary : Json) (createdAtUtc : String) : Prop where
  distinct : summary.Distinct
  grows : Grows segments segments'
  journalId : next.journalId = s.journalId
  inSync : InSync H cfg next segments'
  documents : DocumentsOnly next.disk.checkpoints
  marker : ∃ r : Stored, recordsOf segments' = recordsOf segments ++ [r] ∧
    r.kind = "checkpoint_committed" ∧
    r.payload = s.markerJson (checkpointDigest H s summary createdAtUtc)
      (checkpointFile H s summary createdAtUtc)
  head : next.disk.head = some ((pointerDoc H s next summary createdAtUtc).dumps ++ "\n")
  file : ∃ text, next.disk.checkpoints.get? (checkpointFile H s summary createdAtUtc) =
    some text ∧
    loadDocument "OMS recovery checkpoint" text =
    .ok (checkpointDoc H s summary createdAtUtc).sortKeys

/-- What a commit does with a plain summary: the document, the marker, the pointer. -/
theorem commitCheckpoint_eq {j : Json}
    (henabled : cfg.enabled = true) (hdurable : ¬(s.nextSeq ≤ 1 ∨ s.activeSegmentIndex = 0))
    (hj : (PyValue.dict summary).normalize = PyValue.ofJson j) :
    s.commitCheckpoint H cfg env summary =
      match s.writeCheckpoint env.document (checkpointFile H s j env.createdAtUtc.text)
          (PyValue.ofJson (checkpointDoc H s j env.createdAtUtc.text)) with
      | (written, .error err) => (written, .error err)
      | (written, .ok ()) =>
        match written.appendBatch H cfg env.marker
            [("checkpoint_committed", s.markerPayload
              (checkpointDigest H s j env.createdAtUtc.text)
              (checkpointFile H s j env.createdAtUtc.text))] with
        | (marked, .error err) => (marked, .error err)
        | (marked, .ok _) => marked.writePointer env.pointer
            (PyValue.ofJson (pointerDoc H s marked j env.createdAtUtc.text)) := by
  unfold Store.commitCheckpoint
  rw [henabled, if_neg (by decide), if_neg hdurable]
  simp only [s.checkpointFields_eq hj, sealDocument_ofJson, Store.pointerFields_eq]
  rfl

theorem plain_marker (s : Store) (digest name : String) :
    (s.markerPayload digest name).normalize.IsPlain :=
  PyValue.isPlain_iff.mpr ⟨_, Store.normalize_markerPayload _ _ _, s.distinct_markerJson _ _⟩

/-- **A commit on a store in sync**, in each way it can end. -/
theorem commitCheckpoint_cases (henabled : cfg.enabled = true)
    (h : Secured H cfg s segments) (hsettled : s.Settled)
    (hplain : (PyValue.dict summary).normalize.IsPlain) (hcreate : env.marker.create.Whole)
    (hwrite : env.marker.write.Whole)
    (heq : s.commitCheckpoint H cfg env summary = (next, result)) :
    (result ≠ .ok () ∧ next.journalId = s.journalId ∧
      ∃ segments', Secured H cfg next segments') ∨
      ∃ segments' j, Committed H cfg s next segments segments' j env.createdAtUtc.text := by
  have hsync := h.inSync hsettled
  have hfails : ∀ err : WriteError, (.error err : Except WriteError Unit) ≠ .ok () :=
    fun err herr => by cases herr
  obtain ⟨j, hj, hdistinct⟩ := PyValue.isPlain_iff.mp hplain
  by_cases hdurable : s.nextSeq ≤ 1 ∨ s.activeSegmentIndex = 0
  · unfold Store.commitCheckpoint at heq
    rw [henabled, if_neg (by decide), if_pos hdurable] at heq
    cases heq
    exact Or.inl ⟨hfails _, rfl, segments, h⟩
  rw [commitCheckpoint_eq henabled hdurable hj] at heq
  -- the document
  cases hwritten : s.writeCheckpoint env.document (checkpointFile H s j env.createdAtUtc.text)
      (PyValue.ofJson (checkpointDoc H s j env.createdAtUtc.text)) with
  | mk documented documentResult =>
    obtain ⟨checkpoints, rfl, hdocuments, hkept, hloaded⟩ :=
      writeCheckpoint_effect h.documents
        (distinct_sealed (s.distinct_checkpointJson hdistinct _) (checkpointDoc_field _ _ _))
        hwritten
    have hready := hsync.withCheckpoints checkpoints
    have hheadKept : HeadOk H s.journalId (s.withCheckpoints checkpoints).disk segments :=
      h.head.grows .refl ⟨rfl, hkept⟩
    rw [hwritten] at heq
    cases documentResult with
    | error err =>
      cases heq
      exact Or.inl ⟨hfails _, rfl, segments, hready.intact, fun _ => hready, hheadKept,
        hdocuments⟩
    | ok _ =>
      simp only at heq
      -- the marker
      cases hended : (s.withCheckpoints checkpoints).appendBatch H cfg env.marker
          [("checkpoint_committed",
            s.markerPayload (checkpointDigest H s j env.createdAtUtc.text)
            (checkpointFile H s j env.createdAtUtc.text))] with
      | mk marked markerResult =>
        rw [hended] at heq
        obtain ⟨segments', records, hleads, hrecords, hlines, hsettled'⟩ :=
          appendBatch_inSync henabled hready
            (fun entry hentry => by
              rw [mem_singleton.mp hentry]
              exact plain_marker s _ _) hcreate hwrite hended
        have hidentity : marked.journalId = s.journalId := hleads.documents.journalId
        have hdocuments' : DocumentsOnly marked.disk.checkpoints := by
          rw [hleads.documents.checkpoints]
          exact hdocuments
        have hsecured : Secured H cfg marked segments' := by
          refine ⟨hleads.intact, hleads.inSync, ?_, hdocuments'⟩
          rw [hidentity]
          refine hheadKept.grows hleads.grows ⟨hleads.documents.head, ?_⟩
          intro other content hget
          rw [hleads.documents.checkpoints]
          exact hget
        cases markerResult with
        | error err =>
          cases heq
          exact Or.inl ⟨hfails _, hidentity, segments', hsecured⟩
        | ok seqs =>
          rw [if_neg (by simp [outcomeOf])] at hlines
          obtain ⟨r, rfl, hkind, hpayload⟩ := marker_line hlines
          -- the pointer
          rcases writePointer_effect heq with ⟨rfl, hfailed⟩ | rfl
          · exact Or.inl ⟨hfailed, hidentity, segments', hsecured⟩
          obtain ⟨text, hfile, htext⟩ := hloaded rfl
          refine Or.inr ⟨segments', j, hdistinct, hleads.grows, hidentity,
            (hleads.inSync (hsettled' seqs rfl)).withHead _, hdocuments',
            ⟨r, hrecords, hkind, hpayload⟩, rfl, text, ?_, htext⟩
          show marked.disk.checkpoints.get? _ = some text
          rw [hleads.documents.checkpoints]
          exact hfile

/-- **A safe commit.**  Whatever fails, the next start is not harmed; when it succeeds, the head
names the last record before it. -/
theorem commitCheckpoint_secured (henabled : cfg.enabled = true)
    (h : Secured H cfg s segments) (hsafe : SafeCommit s env summary)
    (heq : s.commitCheckpoint H cfg env summary = (next, result)) :
    ∃ segments', Secured H cfg next segments' ∧ next.journalId = s.journalId ∧
      (result = .ok () → ∃ pointer checkpoint,
        HeadResolves H next.journalId next.disk segments' pointer checkpoint s.anchor) := by
  obtain ⟨hsettled, hcount, hplain, hcreate, hwrite⟩ := hsafe
  rcases commitCheckpoint_cases henabled h hsettled hplain hcreate hwrite heq with
    ⟨hfailed, hidentity, segments', hsecured⟩ | ⟨segments', j, hcommitted⟩
  · exact ⟨segments', hsecured, hidentity, fun hok => absurd hok hfailed⟩
  obtain ⟨r, hrecords, hkind, hpayload⟩ := hcommitted.marker
  obtain ⟨text, hfile, htext⟩ := hcommitted.file
  have hresolved := headResolves_committed (h.inSync hsettled) hcount hcommitted.distinct
    hcommitted.journalId hcommitted.inSync hcommitted.grows hrecords hkind hpayload
    hcommitted.head hfile htext
  rw [← hcommitted.journalId] at hresolved
  exact ⟨segments', ⟨hcommitted.inSync.intact, fun _ => hcommitted.inSync,
    Or.inr ⟨_, _, _, hresolved⟩, hcommitted.documents⟩, hcommitted.journalId,
    fun _ => ⟨_, _, hresolved⟩⟩

end Commit

/-! ## Commits that meet no failure -/

/-- A commit at noon that meets no failure. -/
def commitAtNoon : CommitEnv := { createdAtUtc := noon, marker := atNoon }

theorem commitCheckpoint_ok {H : Digests} {cfg : Config} {s : Store} {env : CommitEnv}
    {summary : List (PyKey × PyValue)} {j : Json}
    {marked : Store} {seqs : List ℕ} (henabled : cfg.enabled = true)
    (hdurable : ¬(s.nextSeq ≤ 1 ∨ s.activeSegmentIndex = 0))
    (hj : (PyValue.dict summary).normalize = PyValue.ofJson j)
    (hnone : s.disk.checkpoints.get? (checkpointFile H s j env.createdAtUtc.text) = none)
    (hdocument : env.document = .done) (hpointer : env.pointer = .done)
    (hmarker : (s.withCheckpoints
      (s.disk.checkpoints.set (checkpointFile H s j env.createdAtUtc.text)
        ((checkpointDoc H s j env.createdAtUtc.text).dumps ++ "\n"))).appendBatch H cfg
          env.marker
      [("checkpoint_committed", s.markerPayload (checkpointDigest H s j env.createdAtUtc.text)
        (checkpointFile H s j env.createdAtUtc.text))] = (marked, .ok seqs)) :
    s.commitCheckpoint H cfg env summary =
      (marked.withHead (some ((pointerDoc H s marked j env.createdAtUtc.text).dumps ++ "\n")),
        .ok ()) := by
  have hwritten : s.writeCheckpoint env.document (checkpointFile H s j env.createdAtUtc.text)
      (PyValue.ofJson (checkpointDoc H s j env.createdAtUtc.text)) =
        (s.withCheckpoints (s.disk.checkpoints.set (checkpointFile H s j env.createdAtUtc.text)
          ((checkpointDoc H s j env.createdAtUtc.text).dumps ++ "\n")), .ok ()) := by
    unfold Store.writeCheckpoint
    rw [documentText_ofJson, hdocument]
    simp only [hnone]
    rfl
  rw [commitCheckpoint_eq henabled hdurable hj, hwritten]
  simp only
  rw [hmarker]
  simp only
  unfold Store.writePointer
  rw [documentText_ofJson, hpointer]
  rfl

section Small

variable {H : Digests} {s : Store} {n : ℕ}

/-- The name of a checkpoint file, for a small anchor. -/
theorem length_checkpointName (hn : n < 9) {digest : String} (hdigest : digest.length = 64) :
    (checkpointName n digest).length = 101 := by
  have hdigits : ∀ n < 9, (twentyDigits n).length = 20 := by decide +kernel
  unfold checkpointName
  simp only [String.length_append, hdigest, hdigits n hn]
  decide +kernel

/-- **The record of the marker** is short, while the journal is. -/
theorem markerRecord_length (hn : n < 9) (hseq : s.nextSeq = n + 1)
    (hhash : s.lastHash.length ≤ 64) {r : Stored} {digest : String}
    (hdigest : digest.length = 64)
    (hts : r.ts = noon.text) (hkind : r.kind = "checkpoint_committed")
    (hpayload : r.payload = s.markerJson digest (checkpointName n digest)) :
    (r.bytes H "journal" s.position).length ≤ 40000 := by
  have hdigest' := Json.size_printString_le digest
  rw [hdigest] at hdigest'
  have hname := Json.size_printString_le (checkpointName n digest)
  rw [length_checkpointName hn hdigest] at hname
  have hlast := Json.size_printString_le s.lastHash
  have hprevious : Json.size (Json.printString s.position.previousHash) ≤
      48 * s.lastHash.length + 8 :=
    hlast
  have hexpected : Json.size (Json.print (.int s.position.expectedSeq)) = 1 := by
    show Json.size (Json.print (.int s.nextSeq)) = 1
    rw [hseq]
    exact size_print_small (Nat.succ_lt_succ hn)
  have hanchor : Json.size (Json.print (.int (s.nextSeq - 1 : ℕ))) = 1 := by
    rw [hseq]
    exact size_print_small (lt_trans hn (by decide))
  have hsizes : Json.size (Json.printString "journal") = 9 ∧
      Json.size (Json.printString noon.text) = 26 ∧
      Json.size (Json.printString "checkpoint_committed") = 22 ∧
      Json.size (Json.printString (payloadSchemaHead ++ "checkpoint_committed")) ≤ 60 ∧
      Json.size (Json.printString "checkpoint_sha256") = 19 ∧
      Json.size (Json.printString "checkpoint_file") = 17 ∧
      Json.size (Json.printString "anchor_seq") = 12 ∧
      Json.size (Json.printString "anchor_hash") = 13 := by decide +kernel
  have hprinted : Json.size (Json.print (Json.obj r.payload).sortKeys) =
      (Json.obj r.payload).dumps.utf8ByteSize := by
    rw [Json.dumps, Json.utf8ByteSize_ofList]
  generalize hsize : Json.size (Json.print (Json.obj r.payload).sortKeys) = size at hprinted
  rw [hpayload, Store.markerJson, Json.utf8ByteSize_dumps_obj (cons_ne_nil _ _)] at hprinted
  simp only [map_cons, map_nil, sum_cons, sum_nil,
    Json.entrySize, Json.sortKeys, Json.print] at hprinted
  simp only [Json.print] at hanchor
  rw [Stored.length_bytes, hts, hkind, hsize]
  omega

/-- The marker of a short journal can be encoded. -/
theorem marker_encodes (hn : n < 9) (hidentity : s.journalId = "journal")
    (hseq : s.nextSeq = n + 1) (hhash : s.lastHash.length ≤ 64) :
    ∃ encoded, encodeBatch H oneRecord s.journalId atNoon.ts s.position 0
        [("checkpoint_committed", s.markerPayload (checkpointDigest H s (.obj []) noon.text)
          (checkpointFile H s (.obj []) noon.text))] = .ok [encoded] ∧
      encoded.hash.length = 64 := by
  let marker : Stored :=
    { ts := noon.text, kind := "checkpoint_committed"
      payload := s.markerJson (checkpointDigest H s (.obj []) noon.text)
        (checkpointFile H s (.obj []) noon.text)
      kind_ne := by decide, kind_length := by decide, distinct := s.distinct_markerJson _ _ }
  have hpayload : marker.payload = s.markerJson (checkpointDigest H s (.obj []) noon.text)
      (checkpointName n (checkpointDigest H s (.obj []) noon.text)) := by
    show s.markerJson _ (checkpointName (s.nextSeq - 1) _) = _
    rw [hseq]
    rfl
  have hshort := @markerRecord_length H s n hn hseq hhash marker _ (H.length_sha256 _) rfl rfl
    hpayload
  rw [← hidentity] at hshort
  exact ⟨_, encodeBatch_single marker rfl (le_trans hshort (by decide))
    (lt_of_le_of_lt hshort (by decide)), Stored.length_hash ..⟩

theorem Stands.settled (h : Stands H s n) : s.Settled := by
  obtain ⟨_, hsync⟩ := h.sync
  exact hsync.settled

/-- A checkpoint, and the marker in a segment of its own. -/
theorem Stands.commit (h : Stands H s n) (hpos : 0 < n) (hn : n < 9)
    (hnone : s.disk.checkpoints.get? (checkpointFile H s (.obj []) noon.text) = none) :
    ∃ t text, s.commitCheckpoint H oneRecord commitAtNoon [] = (t, .ok ()) ∧ Stands H t (n + 1) ∧
      t.disk.checkpoints =
        s.disk.checkpoints.set (checkpointFile H s (.obj []) noon.text) text := by
  obtain ⟨segments, hsync⟩ := h.sync
  obtain ⟨encoded, hbatch, hhash⟩ := @marker_encodes H s n hn h.journalId h.nextSeq h.lastHash
  have hready : Stands H (s.withCheckpoints (s.disk.checkpoints.set
      (checkpointFile H s (.obj []) noon.text)
        ((checkpointDoc H s (.obj []) noon.text).dumps ++ "\n"))) n :=
    ⟨⟨segments, hsync.withCheckpoints _⟩, h.journalId, h.nextSeq, h.lastHash, h.index, h.count⟩
  obtain ⟨marked, happend, hmarked, hsame⟩ := hready.append hn (plain_marker s _ _) hbatch hhash
  have hseq := h.nextSeq
  have hindex := h.index
  obtain ⟨segments', hsync'⟩ := hmarked.sync
  exact ⟨_, _, @commitCheckpoint_ok H oneRecord s commitAtNoon [] (.obj []) _ _ rfl (by omega) rfl
    hnone rfl rfl happend,
    ⟨⟨segments', hsync'.withHead _⟩, hmarked.journalId, hmarked.nextSeq, hmarked.lastHash,
      hmarked.index, hmarked.count⟩, hsame.checkpoints⟩

/-- A start of a journal that safe actions have left. -/
theorem Stands.reopen (h : Stands H s n)
    (hsecured : ∃ segments, Secured H oneRecord s segments) :
    ∃ t, Store.reopen H oneRecord s.journalId s.disk = .ok t ∧ Stands H t n ∧
    t.disk = s.disk := by
  obtain ⟨segments, hsecured⟩ := hsecured
  have hsync := hsecured.inSync h.settled
  obtain ⟨t, hreopen, hidentity, hdisk, hsync'⟩ := reopen_intact rfl hsync.intact hsecured.head
  have hposition : t.position = s.position := by
    rw [hsync'.position, hidentity, hsync.position]
  have hcount : t.activeSegmentRecordCount = s.activeSegmentRecordCount :=
    hsync'.count.trans hsync.count.symm
  refine ⟨t, hreopen, ⟨⟨segments, hsync'⟩, hidentity.trans h.journalId,
    (congrArg Position.expectedSeq hposition).trans h.nextSeq, ?_,
    (hsync'.index.trans hsync.index.symm).trans h.index, hcount ▸ h.count⟩, hdisk⟩
  rw [show t.lastHash = s.lastHash from congrArg Position.previousHash hposition]
  exact h.lastHash

/-- Checkpoints at different anchors have different files. -/
theorem checkpointName_ne {m : ℕ} (hlength : (twentyDigits n).length = (twentyDigits m).length)
    (hne : twentyDigits n ≠ twentyDigits m) (digest digest' : String) :
    checkpointName n digest ≠ checkpointName m digest' := by
  intro heq
  have hchars := congrArg String.toList heq
  unfold checkpointName at hchars
  simp only [String.toList_append, append_assoc] at hchars
  have hdigits := append_inj_left (append_cancel_left hchars)
    (by rwa [String.length_toList, String.length_toList])
  exact hne (String.toList_injective hdigits)

end Small

/-! ## Anchors that can be resolved -/

section Run

variable {H : Digests} {cfg : Config} {s next : Store} {segments : List Segment}

/-- The files hold the anchor: a record with its number and hash is in the segment it
names. -/
def Anchor.FoundIn (anchor : Anchor) (H : Digests) (cfg : Config) (disk : Disk) : Prop :=
  ∃ file header records doc, disk.segments[anchor.segmentIndex - 1]? = some file ∧
    iterFrames H cfg.maxFrameBytes file = (header :: records, none) ∧ doc ∈ records ∧
    doc.get? "seq" = some (.int anchor.seq) ∧ doc.get? "hash" = some (.str anchor.hash)

theorem Resolves.foundIn {anchor : Anchor} {journalId : String} {disk : Disk}
    (h : Resolves H journalId segments anchor) (hintact : Intact H cfg journalId disk segments) :
    anchor.FoundIn H cfg disk := by
  obtain ⟨before, segment, rest, first, second, rfl, hrecords, hfirst, hindex, hseq, hhash⟩ :=
    h.exists_segment
  obtain ⟨init, last, rfl⟩ := (eq_nil_or_concat' first).resolve_left hfirst
  let start := endOf H journalId origin (recordsOf before)
  let place := endOf H journalId start init
  obtain ⟨-, hreadable⟩ := (readable_append H journalId).mp hintact.readable
  refine ⟨segment.file H journalId (1 + before.length) start, _, _,
    last.doc H journalId place, ?_, segment.iterFrames_file H journalId _ _ hreadable.1, ?_, ?_,
    ?_⟩
  · have hlength : (files H journalId 1 origin before).length = before.length := length_files ..
    rw [hintact.files, files_append, hindex, Nat.add_sub_cancel, ← hlength,
      List.getElem?_append_right le_rfl, Nat.sub_self, hlength]
    rfl
  · rw [hrecords, docs_append, docs_append]
    exact mem_append_left _ (mem_append_right _ mem_cons_self)
  · have hplace : place.expectedSeq = anchor.seq := by
      rw [hseq, length_append, length_singleton]
      simp only [place, start, expectedSeq_endOf, origin]
      omega
    rw [← hplace]
    exact last.get?_doc_of_sorted H journalId place rfl rfl
  · have hplace : anchor.hash = last.hash H journalId place := by
      rw [hhash, endOf_append, endOf_append]
      rfl
    rw [hplace]
    exact last.get?_doc_of_sorted H journalId place rfl rfl

/-- **The checkpoint can be resolved**: a start succeeds, and the anchor the head names is in the
segment it names. -/
def Store.Anchored (H : Digests) (cfg : Config) (s : Store) : Prop :=
  (∃ reopened, Store.reopen H cfg s.journalId s.disk = .ok reopened) ∧
    ∀ pointer checkpoint, loadCheckpoint H s.journalId s.disk =
    .ok (some (pointer, checkpoint)) →
      ∃ anchor, anchorOf? checkpoint = some anchor ∧ anchor.FoundIn H cfg s.disk

theorem Secured.anchored (henabled : cfg.enabled = true) (h : Secured H cfg s segments) :
    s.Anchored H cfg := by
  obtain ⟨reopened, hreopen, -⟩ := reopen_intact henabled h.intact h.head
  refine ⟨⟨reopened, hreopen⟩, ?_⟩
  intro pointer checkpoint hload
  rcases h.head with hnone | ⟨pointer', checkpoint', anchor, hhead⟩
  · unfold loadCheckpoint at hload
    rw [hnone] at hload
    cases hload
  · have hsame := hhead.loads
    rw [hload] at hsame
    cases hsame
    exact ⟨anchor, hhead.anchor_eq, hhead.resolves.foundIn h.intact⟩

/-- What may happen to a journal with checkpoints. -/
inductive CheckpointAction where
  | append (env : AppendEnv) (entries : List Entry)
  | commit (env : CommitEnv) (summary : List (PyKey × PyValue))
  | restart

/-- One step of a journal with checkpoints; a start that is refused ends it. -/
def Store.step (H : Digests) (cfg : Config) (s : Store) : CheckpointAction → Option Store
  | .append env entries => some (s.appendBatch H cfg env entries).1
  | .commit env summary => some (s.commitCheckpoint H cfg env summary).1
  | .restart => (Store.reopen H cfg s.journalId s.disk).toOption

theorem step_append {env : AppendEnv} {entries : List Entry}
    {result : Except WriteError (List ℕ)}
    (h : s.appendBatch H cfg env entries = (next, result)) :
    s.step H cfg (.append env entries) = some next := by
  rw [Store.step, h]

theorem step_commit {env : CommitEnv} {summary : List (PyKey × PyValue)}
    {result : Except WriteError Unit}
    (h : s.commitCheckpoint H cfg env summary = (next, result)) :
    s.step H cfg (.commit env summary) = some next := by
  rw [Store.step, h]

/-- When an action is safe for the anchors. -/
def Store.SafeStep (H : Digests) (cfg : Config) (s : Store) : CheckpointAction → Prop
  | .append env entries =>
    (∀ entry ∈ entries, entry.2.normalize.IsPlain) ∧ env.create.Whole ∧ env.write.Whole ∧
      (s.Settled ∨ s.Blocked H cfg env entries)
  | .commit env summary => SafeCommit s env summary
  | .restart => True

/-- **One safe action.** -/
theorem step_secured {action : CheckpointAction} (henabled : cfg.enabled = true)
    (h : ∃ segments, Secured H cfg s segments) (hsafe : s.SafeStep H cfg action) :
    ∃ t, s.step H cfg action = some t ∧ ∃ segments, Secured H cfg t segments := by
  obtain ⟨segments, h⟩ := h
  cases action with
  | restart =>
    obtain ⟨t, hreopen, hidentity, hdisk, hsync⟩ := reopen_intact henabled h.intact h.head
    refine ⟨t, ?_, segments, hsync.intact, fun _ => hsync, ?_, ?_⟩
    · unfold Store.step
      rw [hreopen]
      rfl
    · rw [hidentity, hdisk]
      exact h.head
    · rw [hdisk]
      exact h.documents
  | append env entries =>
    obtain ⟨hplain, hcreate, hwrite, hready⟩ := hsafe
    cases hended : s.appendBatch H cfg env entries with
    | mk t result =>
      refine ⟨t, step_append hended, ?_⟩
      rcases hready with hsettled | hblocked
      · obtain ⟨segments', records, hleads, -⟩ :=
          appendBatch_inSync henabled (h.inSync hsettled) hplain hcreate hwrite hended
        refine ⟨segments', hleads.intact, hleads.inSync, ?_, ?_⟩
        · rw [hleads.documents.journalId]
          refine h.head.grows hleads.grows ⟨hleads.documents.head, ?_⟩
          intro other content hget
          rw [hleads.documents.checkpoints]
          exact hget
        · rw [hleads.documents.checkpoints]
          exact h.documents
      · obtain ⟨rfl, -⟩ := appendBatch_blocked henabled hblocked hended
        exact ⟨segments, h⟩
  | commit env summary =>
    cases hended : s.commitCheckpoint H cfg env summary with
    | mk t result =>
      obtain ⟨segments', hsecured, -⟩ := commitCheckpoint_secured henabled h hsafe hended
      exact ⟨t, step_commit hended, segments', hsecured⟩

/-- Safe actions can all be taken. -/
theorem exec_secured {journalId : String} {actions : List CheckpointAction}
    (henabled : cfg.enabled = true)
    (hsafe : Run.Along (Store.step H cfg) (Store.SafeStep H cfg) (Store.fresh journalId)
      actions) :
    ∃ t, Run.exec (Store.step H cfg) (Store.fresh journalId) actions = some t ∧
      ∃ segments, Secured H cfg t segments := by
  have hfresh := inSync_fresh H cfg journalId
  exact Run.exec_progress (fun s action h hsafe => step_secured henabled h hsafe)
    ⟨[], hfresh.intact, fun _ => hfresh, Or.inl rfl, fun name text h => by cases h⟩ hsafe

/-- **Checkpoint anchors can be resolved.**  After safe actions every start succeeds and finds
the anchor in the segment that is named; and after a safe commit that succeeds, this is the
anchor of the last record before it. -/
theorem run_anchored {journalId : String} {actions : List CheckpointAction}
    (henabled : cfg.enabled = true)
    (hsafe : Run.Along (Store.step H cfg) (Store.SafeStep H cfg) (Store.fresh journalId)
      actions) :
    ∃ t, Run.exec (Store.step H cfg) (Store.fresh journalId) actions = some t ∧
    t.Anchored H cfg ∧
      ∀ env summary committed, SafeCommit t env summary →
        t.commitCheckpoint H cfg env summary = (committed, .ok ()) →
        committed.Anchored H cfg ∧ ∃ pointer checkpoint,
          loadCheckpoint H committed.journalId committed.disk =
            .ok (some (pointer, checkpoint)) ∧
          anchorOf? checkpoint = some t.anchor := by
  obtain ⟨t, hexec, segments, hsecured⟩ := exec_secured henabled hsafe
  refine ⟨t, hexec, hsecured.anchored henabled, ?_⟩
  intro env summary committed hcommit hended
  obtain ⟨segments', hsecured', -, hresolved⟩ :=
    commitCheckpoint_secured henabled hsecured hcommit hended
  obtain ⟨pointer, checkpoint, hhead⟩ := hresolved rfl
  exact ⟨hsecured'.anchored henabled, pointer, checkpoint, hhead.loads, hhead.anchor_eq⟩

theorem run_anchored_rotated :
    ∃ t, Run.exec (Store.step hashlib oneRecord) (Store.fresh "journal")
        ([.append atNoon started, .append atNoon started, .commit commitAtNoon [],
          .append atNoon started] ++ [.restart]) = some t ∧
      t.activeSegmentIndex = 4 ∧ t.Anchored hashlib oneRecord ∧
      ∃ committed, t.commitCheckpoint hashlib oneRecord commitAtNoon [] = (committed, .ok ()) ∧
        committed.Anchored hashlib oneRecord ∧ ∃ pointer checkpoint,
          loadCheckpoint hashlib committed.journalId committed.disk =
            .ok (some (pointer, checkpoint)) ∧
          anchorOf? checkpoint = some t.anchor := by
  obtain ⟨s₁, _, hfirst, hs₁, hsame₁⟩ := (stands_fresh hashlib).started (by decide)
  obtain ⟨s₂, _, hsecond, hs₂, hsame₂⟩ := hs₁.started (by decide)
  have hnone : s₂.disk.checkpoints = ∅ := hsame₂.checkpoints.trans hsame₁.checkpoints
  obtain ⟨s₃, text, hthird, hs₃, hfile⟩ :=
    hs₂.commit (by decide) (by decide) (by rw [hnone]; rfl)
  obtain ⟨s₄, _, hfourth, hs₄, hsame₄⟩ := hs₃.started (by decide)
  have hstep₁ := step_append hfirst
  have hstep₂ := step_append hsecond
  have hstep₃ := step_commit hthird
  have hstep₄ := step_append hfourth
  have hsafe : Run.Along (Store.step hashlib oneRecord) (Store.SafeStep hashlib oneRecord)
      (Store.fresh "journal") [.append atNoon started, .append atNoon started,
        .commit commitAtNoon [], .append atNoon started] := by
    refine ⟨⟨by decide, trivial, trivial, Or.inl (by decide)⟩, fun s hs => ?_⟩
    cases hstep₁.symm.trans hs
    refine ⟨⟨by decide, trivial, trivial, Or.inl hs₁.settled⟩, fun s hs => ?_⟩
    cases hstep₂.symm.trans hs
    refine ⟨⟨hs₂.settled, hs₂.count (by decide), by decide, trivial, trivial⟩, fun s hs => ?_⟩
    cases hstep₃.symm.trans hs
    exact ⟨⟨by decide, trivial, trivial, Or.inl hs₃.settled⟩, fun _ _ => trivial⟩
  have hfour : Run.exec (Store.step hashlib oneRecord) (Store.fresh "journal")
      [.append atNoon started, .append atNoon started, .commit commitAtNoon [],
        .append atNoon started] = some s₄ := by
    simp only [Run.exec, hstep₁, hstep₂, hstep₃, hstep₄, Option.bind_some]
  obtain ⟨s, hexec, hsecured⟩ := exec_secured rfl hsafe
  cases hfour.symm.trans hexec
  obtain ⟨t, hreopen, ht, hdisk⟩ := hs₄.reopen hsecured
  have hrestart : Store.step hashlib oneRecord s₄ .restart = some t := by
    rw [Store.step, hreopen]
    rfl
  have hlast : Run.Along (Store.step hashlib oneRecord) (Store.SafeStep hashlib oneRecord) s₄
      [.restart] := ⟨trivial, fun _ _ => trivial⟩
  obtain ⟨t', hrun, hanchored, hcommits⟩ := run_anchored rfl (Run.along_append.mpr
    ⟨hsafe, fun s hs => by cases hfour.symm.trans hs; exact hlast⟩)
  have hend : Run.exec (Store.step hashlib oneRecord) (Store.fresh "journal")
      ([.append atNoon started, .append atNoon started, .commit commitAtNoon [],
        .append atNoon started] ++ [.restart]) = some t :=
    Run.exec_append_eq_some.mpr ⟨s₄, hfour, Run.exec_cons_eq_some.mpr ⟨t, hrestart, rfl⟩⟩
  cases hend.symm.trans hrun
  have hother : t.disk.checkpoints.get? (checkpointFile hashlib t (.obj []) noon.text) =
      none := by
    have hname : checkpointFile hashlib t (.obj []) noon.text ≠
        checkpointFile hashlib s₂ (.obj []) noon.text := by
      unfold checkpointFile
      rw [ht.nextSeq, hs₂.nextSeq]
      exact checkpointName_ne (by decide +kernel) (by decide +kernel) _ _
    rw [hdisk, hsame₄.checkpoints, hfile, hnone, Dict.get?_set_of_ne _ _ hname]
    rfl
  obtain ⟨committed, _, hcommitted, -⟩ := ht.commit (by decide) (by decide) hother
  exact ⟨t, hrun, ht.index, hanchored, committed, hcommitted,
    hcommits commitAtNoon [] committed
      ⟨ht.settled, ht.count (by decide), by decide, trivial, trivial⟩ hcommitted⟩

/-- **A checkpoint on an empty segment** is refused by every start: the record it is anchored at
is in the segment before. -/
theorem Committed.refused {summary : Json} {createdAtUtc : String}
    (henabled : cfg.enabled = true)
    (hsync : InSync H cfg s segments) (hcount : s.activeSegmentRecordCount = 0)
    (hindex : s.activeSegmentIndex ≠ 0) (hseq : 1 < s.nextSeq)
    (h : Committed H cfg s next segments segments' summary createdAtUtc) :
    Store.reopen H cfg next.journalId next.disk = .error .anchorMissing := by
  obtain ⟨text, hfile, htext⟩ := h.file
  have hload := loadCheckpoint_committed h.journalId h.distinct h.head hfile htext
  have hlength : s.nextSeq = 1 + (recordsOf segments).length := by
    have hplace := congrArg Position.expectedSeq hsync.position
    rw [expectedSeq_endOf] at hplace
    exact hplace
  obtain ⟨init, segment, rfl⟩ : ∃ init segment, segments = init ++ [segment] := by
    rcases eq_nil_or_concat' segments with rfl | hconcat
    · exact absurd hsync.index hindex
    · exact hconcat
  have hempty : segment.records = [] := by
    have hcounted := hsync.count
    rw [hcount, List.getLast?_concat] at hcounted
    exact eq_nil_of_length_eq_zero hcounted.symm
  have hbefore : (recordsOf (init ++ [segment])).length = (recordsOf init).length := by
    rw [recordsOf_append, recordsOf_cons, hempty]
    simp [recordsOf]
  obtain ⟨more, rest, rfl⟩ := h.grows.exists_segment
  have hplace : s.anchor.segmentIndex = init.length + 1 := by
    show s.activeSegmentIndex = _
    rw [hsync.index, length_append, length_singleton]
  have hanchor : anchorOf? (checkpointDoc H s summary createdAtUtc).sortKeys = some s.anchor :=
    anchorOf?_checkpointDoc h.distinct hindex
  have hanchorSeq : s.anchor.seq = (recordsOf init).length := by
    show s.nextSeq - 1 = _
    omega
  have hoff : s.anchor.seq ≠ 0 := by
    show s.nextSeq - 1 ≠ 0
    omega
  have hpasses : Passes H next.journalId s.anchor.check
      (endOf H next.journalId origin (recordsOf init))
      (recordsOf (⟨segment.createdAtUtc, segment.records ++ more⟩ :: rest)) := by
    refine passes_anchor_of_outside H _ (Or.inl ?_)
    rw [expectedSeq_endOf, hanchorSeq]
    show _ < 1 + _
    omega
  obtain ⟨scan, hscan, -⟩ := scanSegments_from h.inSync.intact.readable hplace hoff hpasses
  rw [if_neg (by omega)] at hscan
  unfold Store.reopen scanTail
  rw [henabled, if_neg (by decide), h.journalId, hload]
  simp only [hanchor]
  rw [h.inSync.intact.files]
  rw [h.journalId] at hscan ⊢
  simp only [hscan]

end Run

/-! ## A rotation whose batch fails -/

/-- An append at noon that finds too little room on the disk. -/
def noRoomAtNoon : AppendEnv := { ts := fun _ => noon, createdAtUtc := noon, reserve := false }

/-- A record, and a batch that is refused after the rotation. -/
def rotationWithoutBatch : List CheckpointAction :=
  [.append atNoon started, .append noRoomAtNoon started]

theorem rotationWithoutBatch_reaches (H : Digests) :
    ∃ s segments, Run.exec (Store.step H oneRecord) (Store.fresh "journal")
      rotationWithoutBatch =
        some s ∧
      InSync H oneRecord s segments ∧ s.journalId = "journal" ∧ s.nextSeq = 2 ∧
      s.lastHash.length ≤ 64 ∧ s.activeSegmentIndex = 2 ∧ s.activeSegmentRecordCount = 0 ∧
      s.disk.checkpoints = ∅ ∧ s.disk.head = none := by
  obtain ⟨first, _, hfirst, hstands, hsame⟩ := (stands_fresh H).started (by decide)
  obtain ⟨segments, hsync⟩ := hstands.sync
  obtain ⟨encoded, hbatch, -⟩ := hstands.encodes (by decide)
  obtain ⟨hrotates, hroom⟩ := hstands.rotates (by decide)
    (List.flatMap EncodedEvent.frame [encoded]).length
  have hrefused : first.appendBatch H oneRecord noRoomAtNoon started =
      (first.withSegment H noon.text, .error .reserve) :=
    appendBatch_rotated rfl (cons_ne_nil _ _) hbatch hrotates hsync.settled hroom ⟨rfl, rfl⟩
  obtain ⟨segments', _, hleads, -⟩ := appendBatch_inSync rfl hsync (by decide)
    (show noRoomAtNoon.create.Whole from trivial) (show noRoomAtNoon.write.Whole from trivial)
    hrefused
  refine ⟨first.withSegment H noon.text, segments', ?_,
    hleads.inSync (settled_withSegment hsync.settled _), hstands.journalId, hstands.nextSeq,
    hstands.lastHash, congrArg (· + 1) hstands.index, rfl, hsame.checkpoints, hsame.head⟩
  refine Run.exec_cons_eq_some.mpr ⟨first, step_append hfirst, ?_⟩
  exact Run.exec_cons_eq_some.mpr ⟨_, step_append hrefused, rfl⟩

theorem rotationWithoutBatch_not_anchored :
    ∃ s committed, Run.exec (Store.step hashlib oneRecord) (Store.fresh "journal")
        rotationWithoutBatch = some s ∧
      s.commitCheckpoint hashlib oneRecord commitAtNoon [] = (committed, .ok ()) ∧
      ¬committed.Anchored hashlib oneRecord := by
  obtain ⟨s, segments, hexec, hsync, hidentity, hseq, hhash, hindex, hcount, hcheckpoints,
    hhead⟩ :=
    rotationWithoutBatch_reaches hashlib
  have hsecured : Secured hashlib oneRecord s segments := by
    refine ⟨hsync.intact, fun _ => hsync, Or.inl hhead, ?_⟩
    intro name text hget
    rw [hcheckpoints] at hget
    cases hget
  obtain ⟨encoded, hbatch, -⟩ := @marker_encodes hashlib s 1 (by decide) hidentity hseq hhash
  have hstays : s.rotates oneRecord (List.flatMap EncodedEvent.frame [encoded]).length 1 =
      false := by
    have hkept : s.activeSegmentIndex ≠ 0 ∧ ¬0 < s.activeSegmentRecordCount := by omega
    refine decide_eq_false ?_
    rintro (hnone | ⟨hsome, -⟩)
    · exact hkept.1 hnone
    · exact hkept.2 hsome
  have hmarked := (@appendBatch_stays hashlib oneRecord (s.withCheckpoints
    (s.disk.checkpoints.set (checkpointFile hashlib s (.obj []) noon.text)
      ((checkpointDoc hashlib s (.obj []) noon.text).dumps ++ "\n"))) atNoon _ _ rfl
    (cons_ne_nil _ _) hbatch hstays).trans (writeBatch_done rfl rfl)
  have hcommitted := @commitCheckpoint_ok hashlib oneRecord s commitAtNoon [] (.obj []) _ _ rfl
    (by omega) rfl (by rw [hcheckpoints]; rfl) rfl rfl hmarked
  refine ⟨s, _, hexec, hcommitted, ?_⟩
  rintro ⟨⟨reopened, hreopen⟩, -⟩
  rcases commitCheckpoint_cases rfl hsecured hsync.settled (by decide)
    (show commitAtNoon.marker.create.Whole from trivial)
    (show commitAtNoon.marker.write.Whole from trivial) hcommitted with
    ⟨hfailed, -⟩ | ⟨segments', j, hdone⟩
  · exact hfailed rfl
  · rw [hdone.refused rfl hsync hcount (by omega) (by omega)] at hreopen
    cases hreopen

end ChronosHFT.Journal

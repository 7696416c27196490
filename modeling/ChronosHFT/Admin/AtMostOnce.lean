import ChronosHFT.Admin.ControlServer

/-!
# A command is carried out once

An executed command leaves the inbox only after its result was written and its file was moved or
removed.  Where all of this happens (`Settles`), nothing is left that could carry it out again or
write another result over its own, and a run of polls executes every id at most once
(`executed_at_most_once`).

Every way out of it is open.  After an action that raised, a result that was not written, or a
file that could neither be moved nor removed, the next poll finds the command as it was.  And a
file of another name may state the id of an executed command: it is refused, but the refusal is
written where the result was.
-/

namespace ChronosHFT.Admin

open List

/-! ## Names of files -/

theorem isJson_iff {name : String} :
    isJson name = true ↔ ∃ root, name.toList = root ++ ".json".toList := by
  unfold isJson
  rw [isSuffixOf_iff_suffix]
  exact ⟨fun ⟨root, h⟩ => ⟨root, h.symm⟩, fun ⟨root, h⟩ => ⟨root, h.symm⟩⟩

/-- No command id has a dot in it. -/
theorem dot_not_mem {id : String} (h : isCommandId id = true) : '.' ∉ id.toList := by
  intro hdot
  unfold isCommandId at h
  rw [Bool.and_eq_true, all_eq_true] at h
  exact absurd (h.2 _ hdot) (by decide)

/-- **A command id tells the file.** -/
theorem stem_injective {a b : String} (ha : isJson a = true) (hb : isJson b = true)
    (hid : isCommandId (stem a) = true) (h : stem a = stem b) : a = b := by
  have hstem : ∀ {name : String}, isJson name = true → isCommandId (stem name) = true →
      name.toList = (stem name).toList ++ ".json".toList := by
    intro name hname hid
    obtain ⟨root, hroot⟩ := isJson_iff.mp hname
    have hlength : name.toList.length - 5 = root.length := by
      rw [hroot, length_append]
      exact Nat.add_sub_cancel _ _
    unfold stem at hid ⊢
    simp only [hlength] at hid ⊢
    rw [hroot, take_left'] at hid ⊢
    · split at hid
      · refine absurd ?_ (dot_not_mem hid)
        rw [hroot]
        exact mem_append_right _ (by decide)
      · rename_i hplain
        rw [if_neg hplain]
        exact congrArg (· ++ ".json".toList) String.toList_ofList.symm
    all_goals rfl
  apply String.toList_inj.mp
  rw [hstem ha hid, hstem hb (h ▸ hid), h]

/-! ## What handling a file changes -/

variable {st : AdminSettings}

/-- **The checks of a command** at its execution. -/
structure Execution.Valid (st : AdminSettings) (e : Execution) : Prop where
  schema : e.command.schema = some commandSchema
  id : isCommandId e.commandId = true
  fileName : AdminServer.commandId e.commandId e.command = e.commandId
  session : e.command.sessionId = st.sessionId
  deployment : e.command.deploymentId = st.deploymentId
  window : ∃ createdAt, e.command.createdAt = .ok createdAt ∧ st.startedAtWall ≤ createdAt + 1 ∧
    -1 ≤ e.now - createdAt ∧ e.now - createdAt ≤ st.commandTtlSec
  action : AdminServer.actionOf e.command = "rearm"

/-- A result that states what an execution returned. -/
def Execution.States (e : Execution) (result : AdminResult) : Prop :=
  ∃ accepted reason, e.outcome = .returned accepted reason ∧
    result = rearmResult e.commandId accepted reason

/-- **What may be different after a file was answered**: it may be gone, and the result of its id
may be the new one.  Both are so where the effects go well. -/
structure Answers (s s' : AdminServer) (name : String) (io : ProcessIo) (result : AdminResult) :
    Prop where
  inbox : ∀ other, s.inbox.get? other = none → s'.inbox.get? other = none
  results : ∀ id r, s'.results.get? id = some r →
    s.results.get? id = some r ∧ (id = result.id → io.written = none) ∨
      id = result.id ∧ r.content = result
  gone : io.written ≠ none → io.archived ≠ .stuck → s'.inbox.get? name = none

namespace AdminServer

theorem get?_pruned {α : Type} {directory directory' : Dict String (Stamped α)} {maxFiles : ℕ}
    {cutoff : ℚ} {evictions : Option ℕ} {removed : ℕ} {returned : Bool}
    (hpruned : pruneJsonDirectory directory maxFiles cutoff evictions =
      (directory', removed, returned)) {name : String} {file : Stamped α}
    (h : directory'.get? name = some file) : directory.get? name = some file := by
  have hfirst := congrArg Prod.fst hpruned
  rw [← show _ = directory' from hfirst] at h
  exact (Dict.get?_of_foldl_erase h).2

variable (st)

/-- Eviction takes results away, and leaves the inbox alone. -/
theorem pruneHistory_spec (s : AdminServer) (io : ProcessIo) :
    (s.pruneHistory st io).1.inbox = s.inbox ∧
      ∀ id r, (s.pruneHistory st io).1.results.get? id = some r →
        s.results.get? id = some r := by
  unfold pruneHistory
  dsimp only
  split
  · rename_i hpruned
    exact ⟨rfl, fun id r => get?_pruned hpruned⟩
  rename_i hpruned
  split
  · exact ⟨rfl, fun id r => get?_pruned hpruned⟩
  · exact ⟨rfl, fun id r => get?_pruned hpruned⟩

/-- Archiving takes the file out of the inbox, unless it is stuck. -/
theorem archiveCommand_spec (s : AdminServer) (name : String) (io : ProcessIo) :
    (∀ other, s.inbox.get? other = none →
        (s.archiveCommand st name io).1.inbox.get? other = none) ∧
      (∀ id r, (s.archiveCommand st name io).1.results.get? id = some r →
        s.results.get? id = some r) ∧
      (io.archived ≠ .stuck → (s.archiveCommand st name io).1.inbox.get? name = none) := by
  have herased : ∀ other, s.inbox.get? other = none →
      (s.inbox.erase name).get? other = none := by
    intro other hnone
    rw [Dict.get?_erase]
    split
    · rfl
    · exact hnone
  have hself : (s.inbox.erase name).get? name = none := by
    rw [Dict.get?_erase, if_pos rfl]
  unfold archiveCommand
  have hcleared : ∀ s₁ : AdminServer, s₁ =
      (if io.cleared then { s with archive := s.archive.erase name } else s) →
      s₁.inbox = s.inbox ∧ s₁.results = s.results := by
    rintro s₁ rfl
    split
    · exact ⟨rfl, rfl⟩
    · exact ⟨rfl, rfl⟩
  generalize hs₁ : (if io.cleared then { s with archive := s.archive.erase name } else s) = s₁
  obtain ⟨hinbox, hresults⟩ := hcleared s₁ hs₁.symm
  dsimp only
  rw [hinbox]
  cases harchived : io.archived with
  | moved =>
    cases hfile : s.inbox.get? name with
    | none =>
      dsimp only
      obtain ⟨hkept, hpruned⟩ := pruneHistory_spec st s₁ io
      rw [hkept, hinbox]
      exact ⟨fun _ h => h, fun id r h => hresults ▸ hpruned id r h, fun _ => hfile⟩
    | some file =>
      dsimp only
      obtain ⟨hkept, hpruned⟩ := pruneHistory_spec st
        { s₁ with inbox := s.inbox.erase name, archive := s₁.archive.set name file } io
      rw [hkept]
      exact ⟨herased, fun id r h => hresults ▸ hpruned id r h, fun _ => hself⟩
  | removed =>
    dsimp only
    obtain ⟨hkept, hpruned⟩ := pruneHistory_spec st
      { s₁ with inbox := s.inbox.erase name } io
    rw [hkept]
    exact ⟨herased, fun id r h => hresults ▸ hpruned id r h, fun _ => hself⟩
  | stuck =>
    dsimp only
    obtain ⟨hkept, hpruned⟩ := pruneHistory_spec st s₁ io
    rw [hkept, hinbox]
    exact ⟨fun _ h => h, fun id r h => hresults ▸ hpruned id r h, fun h => absurd rfl h⟩

theorem answer_spec (s : AdminServer) (name : String) (io : ProcessIo) (result : AdminResult) :
    Answers s (s.answer st name io result).1 name io result := by
  unfold answer
  cases hwritten : io.written with
  | none =>
    exact ⟨fun _ h => h, fun id r h => .inl ⟨h, fun _ => hwritten⟩, fun h => absurd hwritten h⟩
  | some mtime =>
    obtain ⟨hinbox, hresults, hgone⟩ := archiveCommand_spec st
      { s with results := s.results.set result.id ⟨mtime, result⟩ } name io
    refine ⟨hinbox, fun id r h => ?_, fun _ => hgone⟩
    have hset := hresults id r h
    rw [Dict.get?_set] at hset
    by_cases hid : id = result.id
    · rw [if_pos hid] at hset
      cases hset
      exact .inr ⟨hid, rfl⟩
    · rw [if_neg hid] at hset
      exact .inl ⟨hset, fun h => absurd h hid⟩

/-- A command that is carried out: it is read, its checks hold, and it is a rearm. -/
def Rearms (s : AdminServer) (name : String) (io : ProcessIo) : Prop :=
  ∃ command, s.load name io = .ok command ∧ checkCommand st (stem name) command io.now = .ok () ∧
    actionOf command = "rearm"

/-- The id a file is answered under. -/
def answerId (s : AdminServer) (name : String) (io : ProcessIo) : String :=
  match s.load name io with
  | .error _ => stem name
  | .ok command => invalidId (stem name) command

theorem checkCommand_eq_ok {fileId : String} {command : Command} {now : ℚ}
    (h : checkCommand st fileId command now = .ok ()) :
    command.schema = some commandSchema ∧ isCommandId fileId = true ∧
      commandId fileId command = fileId ∧ command.sessionId = st.sessionId ∧
      command.deploymentId = st.deploymentId ∧
      ∃ createdAt, command.createdAt = .ok createdAt ∧ st.startedAtWall ≤ createdAt + 1 ∧
        -1 ≤ now - createdAt ∧ now - createdAt ≤ st.commandTtlSec := by
  unfold checkCommand at h
  split at h
  · cases h
  rename_i hschema
  split at h
  · cases h
  rename_i hid
  rw [not_or, Bool.not_eq_false, not_not] at hid
  split at h
  · cases h
  rename_i hsession
  split at h
  · cases h
  rename_i hdeployment
  split at h
  · cases h
  rename_i createdAt hcreated
  split at h
  · cases h
  rename_i hstarted
  split at h
  · cases h
  rename_i hwindow
  rw [not_or, not_lt, not_lt] at hwindow
  exact ⟨not_not.mp hschema, hid.2 ▸ hid.1, hid.2, not_not.mp hsession, not_not.mp hdeployment,
    createdAt, hcreated, not_lt.mp hstarted, hwindow⟩

/-- **What handling a file comes to**: an answer, or a command that is carried out. -/
theorem processCommandFile_spec (s : AdminServer) (name : String) (io : ProcessIo) :
    (¬ s.Rearms st name io ∧ (s.processCommandFile st name io).execution = none ∧
        ∃ result, result.id = s.answerId name io ∧
          Answers s (s.processCommandFile st name io).server name io result) ∨
      s.Rearms st name io ∧ ∃ e : Execution, e.fileName = name ∧ e.Valid st ∧
        (s.processCommandFile st name io).execution = some e ∧ e.outcome = io.rearm ∧
        (io.rearm ≠ .raised → ∃ result, e.States result ∧ result.id = e.commandId ∧
          Answers s (s.processCommandFile st name io).server name io result) := by
  unfold processCommandFile answerId Rearms
  cases hload : s.load name io with
  | error err =>
    refine .inl ⟨fun ⟨command, h, _⟩ => (nomatch h), rfl, _, rfl, answer_spec st s name io _⟩
  | ok command =>
    dsimp only
    cases hcheck : checkCommand st (stem name) command io.now with
    | error err =>
      refine .inl ⟨?_, rfl, _, rfl, answer_spec st s name io _⟩
      rintro ⟨other, hother, hchecked, -⟩
      cases hother
      cases hcheck.symm.trans hchecked
    | ok u =>
      obtain ⟨hschema, hid, hname, hsession, hdeployment, hwindow⟩ :=
        checkCommand_eq_ok st hcheck
      have hanswer : invalidId (stem name) command = commandId (stem name) command := by
        unfold invalidId
        rw [hname, if_pos hid]
      dsimp only
      by_cases haction : actionOf command = "rearm"
      · refine .inr ⟨⟨command, rfl, hcheck, haction⟩, ⟨name, command, io.now, io.rearm⟩, rfl,
          ⟨hschema, hid, hname, hsession, hdeployment, hwindow, haction⟩, ?_⟩
        rw [if_pos haction]
        cases hrearm : io.rearm with
        | raised => exact ⟨rfl, rfl, fun h => absurd rfl h⟩
        | returned accepted reason =>
          exact ⟨rfl, rfl, fun _ => ⟨rearmResult (commandId (stem name) command) accepted
            reason, ⟨accepted, reason, rfl, congrArg (rearmResult · accepted reason) hname⟩,
            hname, answer_spec st s name io _⟩⟩
      · refine .inl ⟨?_, ?_⟩
        · rintro ⟨other, hother, -, hother_action⟩
          cases hother
          exact haction hother_action
        · rw [if_neg haction]
          split
          · exact ⟨rfl, _, hanswer.symm, answer_spec st s name io _⟩
          · exact ⟨rfl, _, hanswer.symm, answer_spec st s name io _⟩

end AdminServer

/-! ## What has to go well -/

/-- **Handling a file leaves nothing behind.**  A command that is carried out returns, its result
is written and its file leaves the inbox; and a file that states another id than its name does
not state one that was executed. -/
structure Settles (st : AdminSettings) (past : List Execution) (s : AdminServer) (name : String)
    (io : ProcessIo) : Prop where
  rearmed : s.Rearms st name io →
    io.rearm ≠ .raised ∧ io.written ≠ none ∧ io.archived ≠ .stuck
  foreign : s.answerId name io ≠ stem name → ∀ e ∈ past, e.commandId ≠ s.answerId name io

/-- The same for every file of a poll that is come to. -/
def PollSettles (st : AdminSettings) (io : String → ProcessIo) :
    List String → List Execution → AdminServer → Prop
  | [], _, _ => True
  | name :: rest, past, s =>
    Settles st past s name (io name) ∧
      let processed := s.processCommandFile st name (io name)
      processed.raised = false →
        PollSettles st io rest (past ++ processed.execution.toList) processed.server

/-- What can happen: a file appears in the inbox, or the server polls. -/
inductive AdminStep
  | appears (name : String) (file : Stamped CommandFile)
  | polls (io : PollIo)

/-- The server after a step, with what it executed. -/
def AdminServer.step (st : AdminSettings) (s : AdminServer) : AdminStep → Polled
  | .appears name file => ⟨{ s with inbox := s.inbox.set name file }, [], false⟩
  | .polls io => s.pollOnce st io

/-- **A step is in order**: a file that appears does not have the name of a command that was
executed, and a poll leaves nothing behind. -/
def StepSettles (st : AdminSettings) (past : List Execution) (s : AdminServer) : AdminStep → Prop
  | .appears name _ => ∀ e ∈ past, e.commandId ≠ stem name
  | .polls io =>
    let (published, returned) := s.publishSession st io
    s.closed = false → returned = true → io.listed = true →
      PollSettles st io.files published.commandNames past published

/-- The runs of a server in a session, with what it executed. -/
inductive AdminRun (st : AdminSettings) (keeps : List Execution → AdminServer → AdminStep → Prop)
    (s₀ : AdminServer) : List Execution → AdminServer → Prop
  | nil : AdminRun st keeps s₀ [] s₀
  | step {past : List Execution} {s : AdminServer} (h : AdminRun st keeps s₀ past s)
      (a : AdminStep) (hkeeps : keeps past s a) :
      AdminRun st keeps s₀ (past ++ (s.step st a).executions) (s.step st a).server

/-! ## The invariant -/

/-- **At most once, only when valid, and with the result of it.** -/
structure Executed (st : AdminSettings) (past : List Execution) (s : AdminServer) : Prop where
  once : (past.map Execution.commandId).Nodup
  valid : ∀ e ∈ past, e.Valid st
  stated : ∀ e ∈ past, ∀ r, s.results.get? e.commandId = some r → e.States r.content

/-- With this, the files of the commands that were executed are gone. -/
structure Handled (st : AdminSettings) (past : List Execution) (s : AdminServer) : Prop
    extends Executed st past s where
  gone : ∀ e ∈ past, ∀ name, isJson name = true → stem name = e.commandId →
    s.inbox.get? name = none

/-- The files still to be looked at are of commands that were not executed. -/
def Pending (past : List Execution) (names : List String) : Prop :=
  ∀ name ∈ names, ∀ e ∈ past, e.commandId ≠ stem name

variable {past : List Execution} {s : AdminServer}

theorem Handled.process {name : String} {io : ProcessIo}
    {rest : List String} (h : Handled st past s) (hsettles : Settles st past s name io)
    (hjson : ∀ other ∈ name :: rest, isJson other = true) (hnodup : (name :: rest).Nodup)
    (hpending : Pending past (name :: rest)) :
    Handled st (past ++ (s.processCommandFile st name io).execution.toList)
        (s.processCommandFile st name io).server ∧
      Pending (past ++ (s.processCommandFile st name io).execution.toList) rest := by
  have hname := hpending name mem_cons_self
  -- No result of an executed command is written over.
  have hkept : ∀ {result : AdminResult} {s' : AdminServer}, Answers s s' name io result →
      (∀ e ∈ past, e.commandId ≠ result.id) → Handled st past s' := by
    intro result s' hanswers hid
    refine ⟨⟨h.once, h.valid, fun e he r hr => ?_⟩, fun e he other hother hstem =>
      hanswers.inbox other (h.gone e he other hother hstem)⟩
    rcases hanswers.results _ r hr with ⟨hold, -⟩ | ⟨hsame, -⟩
    · exact h.stated e he r hold
    · exact absurd hsame (hid e he)
  rcases s.processCommandFile_spec st name io with
    ⟨-, hnone, result, hid, hanswers⟩ | ⟨hrearms, e, hfile, hvalid, hsome, houtcome, hreturned⟩
  · rw [hnone, Option.toList_none, append_nil]
    refine ⟨hkept hanswers fun e he hsame => ?_, fun other hother =>
      hpending other (mem_cons_of_mem name hother)⟩
    by_cases hforeign : s.answerId name io = stem name
    · exact hname e he (hsame.trans (hid.trans hforeign))
    · exact hsettles.foreign hforeign e he (hsame.trans hid)
  · obtain ⟨hreturns, hwritten, hunstuck⟩ := hsettles.rearmed hrearms
    obtain ⟨result, hstates, hid, hanswers⟩ := hreturned hreturns
    have hown : e.commandId = stem name := by rw [Execution.commandId, hfile]
    have hothers := hkept hanswers fun e' he' => by
      rw [hid, hown]
      exact hname e' he'
    rw [hsome, Option.toList_some]
    have hmem : ∀ {e'}, e' ∈ past ++ [e] → e' ∈ past ∨ e' = e := fun he' =>
      (mem_append.mp he').imp_right mem_singleton.mp
    refine ⟨⟨⟨?_, ?_, ?_⟩, ?_⟩, ?_⟩
    · rw [map_append, map_singleton, nodup_append]
      refine ⟨h.once, nodup_singleton _, ?_⟩
      intro id hpast id' hid'
      obtain ⟨e', he', rfl⟩ := mem_map.mp hpast
      rw [mem_singleton.mp hid', hown]
      exact hname e' he'
    · intro e' he'
      rcases hmem he' with hpast | rfl
      · exact h.valid e' hpast
      · exact hvalid
    · intro e' he' r hr
      rcases hmem he' with hpast | rfl
      · exact hothers.stated e' hpast r hr
      · rcases hanswers.results _ r hr with ⟨-, hfailed⟩ | ⟨-, hnew⟩
        · exact absurd (hfailed hid.symm) hwritten
        · exact hnew ▸ hstates
    · intro e' he' other hother hstem
      rcases hmem he' with hpast | rfl
      · exact hothers.gone e' hpast other hother hstem
      have hsame : other = name := by
        refine stem_injective hother (hjson name mem_cons_self) ?_ (hstem.trans hown)
        rw [hstem]
        exact hvalid.id
      rw [hsame]
      exact hanswers.gone hwritten hunstuck
    · intro other hother e' he'
      rcases hmem he' with hpast | rfl
      · exact hpending other (mem_cons_of_mem name hother) e' hpast
      intro hsame
      have hequal : name = other := by
        refine stem_injective (hjson name mem_cons_self)
          (hjson other (mem_cons_of_mem name hother)) ?_ (hown.symm.trans hsame)
        rw [← hown]
        exact hvalid.id
      exact (nodup_cons.mp hnodup).1 (hequal ▸ hother)

theorem Handled.pollFiles {io : String → ProcessIo} :
    ∀ {names : List String} {past : List Execution} {s : AdminServer}, Handled st past s →
      PollSettles st io names past s → (∀ name ∈ names, isJson name = true) → names.Nodup →
      Pending past names →
      Handled st (past ++ (s.pollFiles st io names).executions)
        (s.pollFiles st io names).server := by
  intro names
  induction names with
  | nil =>
    intro past s h _ _ _ _
    unfold AdminServer.pollFiles
    rw [append_nil]
    exact h
  | cons name rest ih =>
    intro past s h hsettles hjson hnodup hpending
    obtain ⟨hfirst, hrest⟩ := hsettles
    obtain ⟨hhandled, hremaining⟩ := h.process hfirst hjson hnodup hpending
    unfold AdminServer.pollFiles
    dsimp only
    split
    · exact hhandled
    rename_i hreturned
    rw [Bool.not_eq_true] at hreturned
    have hmore := ih hhandled (hrest hreturned)
      (fun other hother => hjson other (mem_cons_of_mem name hother))
      (nodup_cons.mp hnodup).2 hremaining
    rw [append_assoc] at hmore
    exact hmore

/-- The files a poll looks at have different names, and none of them was executed. -/
theorem Handled.commandNames (h : Handled st past s) :
    (∀ name ∈ s.commandNames, isJson name = true) ∧ s.commandNames.Nodup ∧
      Pending past s.commandNames := by
  have hperm : s.commandNames.Perm (s.inbox.keys.filter fun name => isJson name) :=
    perm_insertionSort _ _
  have hmem : ∀ name ∈ s.commandNames, name ∈ s.inbox.keys ∧ isJson name = true := by
    intro name hname
    exact mem_filter.mp (hperm.mem_iff.mp hname)
  refine ⟨fun name hname => (hmem name hname).2,
    hperm.nodup_iff.mpr (s.inbox.keys_nodup.filter _), fun name hname e he hsame => ?_⟩
  obtain ⟨hkey, hjson⟩ := hmem name hname
  have hnone := h.gone e he name hjson hsame.symm
  exact Dict.get?_eq_none_iff.mp hnone hkey

/-- Publishing a session changes nothing of it. -/
theorem publishSession_spec (s : AdminServer) (io : PollIo) :
    (s.publishSession st io).1.inbox = s.inbox ∧
      (s.publishSession st io).1.results = s.results := by
  unfold AdminServer.publishSession
  split
  · exact ⟨rfl, rfl⟩
  · split
    · exact ⟨rfl, rfl⟩
    · exact ⟨rfl, rfl⟩

/-- **A step that is in order keeps the invariant.** -/
theorem Handled.step (h : Handled st past s)
    (a : AdminStep) (hsettles : StepSettles st past s a) :
    Handled st (past ++ (s.step st a).executions) (s.step st a).server := by
  cases a with
  | appears name file =>
    show Handled st (past ++ []) _
    rw [append_nil]
    refine ⟨⟨h.once, h.valid, h.stated⟩, fun e he other hother hstem => ?_⟩
    have hne : other ≠ name := fun hsame => hsettles e he (hsame ▸ hstem.symm)
    show (s.inbox.set name file).get? other = none
    rw [Dict.get?_set_of_ne s.inbox file hne]
    exact h.gone e he other hother hstem
  | polls io =>
    show Handled st (past ++ (s.pollOnce st io).executions) (s.pollOnce st io).server
    have hnothing : ∀ s' : AdminServer, s'.inbox = s.inbox → s'.results = s.results →
        Handled st past s' := fun s' hinbox hresults =>
      ⟨⟨h.once, h.valid, hresults ▸ h.stated⟩, hinbox ▸ h.gone⟩
    unfold AdminServer.pollOnce
    split
    · rw [append_nil]
      exact h
    rename_i hopen
    obtain ⟨hinbox, hresults⟩ := publishSession_spec s io
    unfold StepSettles at hsettles
    cases hpublished : s.publishSession st io with
    | mk published returned =>
      rw [hpublished] at hinbox hresults
      dsimp only at hinbox hresults hsettles
      rw [hpublished] at hsettles
      have hhandled := hnothing published hinbox hresults
      cases returned with
      | false =>
        dsimp only
        rw [append_nil]
        exact hhandled
      | true =>
        dsimp only
        split
        · rw [append_nil]
          exact hhandled
        rename_i hlisted
        obtain ⟨hjson, hnodup, hpending⟩ := hhandled.commandNames
        exact hhandled.pollFiles
          (hsettles (Bool.not_eq_true _ ▸ hopen) rfl (Bool.not_eq_false _ ▸ hlisted))
          hjson hnodup hpending

/-- **Admin commands are executed at most once, only when valid, and their results say what came
of them**, in every run whose steps are in order. -/
theorem executed_at_most_once {s₀ s : AdminServer} {past : List Execution}
    (h : AdminRun st (StepSettles st) s₀ past s) : Executed st past s := by
  have hhandled : Handled st past s := by
    induction h with
    | nil =>
      exact ⟨⟨nodup_nil, fun e he => absurd he not_mem_nil,
        fun e he => absurd he not_mem_nil⟩, fun e he => absurd he not_mem_nil⟩
    | step _ a hkeeps ih => exact ih.step a hkeeps
  exact hhandled.toExecuted

/-! ## A session -/

/-- A session that started at 100. -/
def sampleSettings : AdminSettings where
  sessionId := "session"
  deploymentId := "deployment"
  startedAtWall := 100
  commandTtlSec := 10
  sessionHeartbeatIntervalSec := 1
  maxRetainedResults := 256
  maxRetainedArchives := 256
  retentionMaxAgeSec := 1000
  results_pos := by decide
  archives_pos := by decide

/-- The id of a command. -/
def sampleId : String := "0123456789abcdef0123456789abcdef"

/-- A rearm command of the session. -/
def sampleCommand : CommandFile := .command {
  schema := some commandSchema
  id := sampleId
  sessionId := "session"
  deploymentId := "deployment"
  action := "rearm"
  reason := "operator_ack"
  createdAt := .ok 101 }

/-- The command appears. -/
def commandAppears : AdminStep :=
  .appears "0123456789abcdef0123456789abcdef.json" ⟨101, sampleCommand⟩

/-- The effects of a poll at 102 whose rearm is accepted. -/
def ioWith (archived : ArchiveOutcome) : PollIo where
  nowMonotonic := 0
  files := fun _ => {
    now := 102
    rearm := .returned true "coordinated_rearm_completed"
    written := some 102
    archived := archived
    pruneNow := 102 }

/-- The server when the command has appeared. -/
def appearedServer : AdminServer := (AdminServer.step sampleSettings {} commandAppears).server

/-- A poll that finds the command, and reports it as executed. -/
def polledServer (archived : ArchiveOutcome) : Polled :=
  appearedServer.step sampleSettings (.polls (ioWith archived))

/-- The result for a command whose file is moved away. -/
theorem executed_at_most_once_moved :
    (polledServer .moved).executions.map Execution.commandId = [sampleId] ∧
      Executed sampleSettings (polledServer .moved).executions (polledServer .moved).server ∧
      ((polledServer .moved).server.results.get? sampleId).map (fun r => r.content.status) =
        some "ok" := by
  have happeared : AdminRun sampleSettings (StepSettles sampleSettings) {} ([] ++ [])
      appearedServer :=
    .step .nil commandAppears fun e he => absurd he not_mem_nil
  have hpublished : appearedServer.publishSession sampleSettings (ioWith .moved) =
      (appearedServer, true) := if_pos (by decide +kernel)
  have hnames : appearedServer.commandNames = ["0123456789abcdef0123456789abcdef.json"] := by
    decide +kernel
  refine ⟨by decide +kernel, executed_at_most_once (.step happeared (.polls (ioWith .moved)) ?_),
    by decide +kernel⟩
  unfold StepSettles
  dsimp only
  rw [hpublished]
  intro _ _ _
  dsimp only
  rw [hnames]
  exact ⟨⟨fun _ => ⟨nofun, nofun, nofun⟩, fun _ e he => absurd he not_mem_nil⟩,
    fun _ => trivial⟩

/-- **A file that is stuck is executed again**: neither the move nor the removal went through,
and the next poll finds the command as it was. -/
theorem stuck_executed_twice :
    ∃ past s, AdminRun sampleSettings (fun _ _ _ => True) {} past s ∧
      past.map Execution.commandId = [sampleId, sampleId] ∧
      ¬ Executed sampleSettings past s := by
  have hfirst : AdminRun sampleSettings (fun _ _ _ => True) {}
      ([] ++ (polledServer .stuck).executions) (polledServer .stuck).server :=
    .step (.step .nil commandAppears trivial) (.polls (ioWith .stuck)) trivial
  have htwice : (([] ++ (polledServer .stuck).executions) ++
      ((polledServer .stuck).server.step sampleSettings (.polls (ioWith .moved))).executions).map
        Execution.commandId = [sampleId, sampleId] := by
    decide +kernel
  refine ⟨_, _, .step hfirst (.polls (ioWith .moved)) trivial, htwice, fun h => ?_⟩
  have honce := h.once
  rw [htwice] at honce
  exact (nodup_cons.mp honce).1 (mem_singleton.mpr rfl)

end ChronosHFT.Admin

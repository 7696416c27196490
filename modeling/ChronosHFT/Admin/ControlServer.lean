import ChronosHFT.Lib.Dict
import ChronosHFT.Lib.Text

/-!
# The admin control server

`AdminControlServer` of `infrastructure/admin_control.py`: commands are files in an inbox, and a
poll takes them in the order of their names.  A command is read, checked and carried out; its
result is written to a file of its own, the command is moved to an archive, and old results and
archives are evicted.

These are separate effects, and each can fail: the read, the action, the write of the result, the
move, the removal that is to make up for a move that failed, and every eviction.  How they go is
an input (`ProcessIo`).  The file in the inbox is all that says that a command is still to be
done.

What `coordinated_rearm` does is not looked at here: it comes back with an answer, or an
exception escapes from it. -/

namespace ChronosHFT.Admin

/-! ## Commands and results -/

/-- The schema of commands. -/
def commandSchema : String := "chronoshft.admin_command.v1"

/-- `^[0-9a-f]{32}$`. -/
def isCommandId (id : String) : Bool :=
  id.toList.length = 32 && id.toList.all fun c => "0123456789abcdef".toList.contains c

/-- Is the file a command? -/
def isJson (name : String) : Bool := ".json".toList.isSuffixOf name.toList

/-- `os.path.splitext(name)[0]`, for the name of a command; dots alone are no name before an
extension. -/
def stem (name : String) : String :=
  let root := name.toList.take (name.toList.length - 5)
  if root.all (· = '.') then name else String.ofList root

/-- A command as it is read: every field is `str(command.get(field, "") or "")`, and the time is
read by `_parse_utc_timestamp`. -/
structure Command where
  schema : Option String
  id : String
  sessionId : String
  deploymentId : String
  action : String
  reason : String
  createdAt : Except String ℚ

/-- What a file in the inbox holds. -/
inductive CommandFile
  | unreadable (error : String)
  | command (command : Command)

/-- A file with the time of its last change. -/
structure Stamped (α : Type) where
  mtime : ℚ
  content : α

/-- A result, without the time and the snapshot. -/
structure AdminResult where
  id : String
  accepted : Bool
  status : String
  message : String
  deriving DecidableEq

/-- What becomes of `coordinated_rearm`. -/
inductive RearmOutcome
  | returned (accepted : Bool) (reason : String)
  | raised
  deriving DecidableEq

/-- The result of a rearm that returned. -/
def rearmResult (commandId : String) (accepted : Bool) (reason : String) : AdminResult where
  id := commandId
  accepted := accepted
  status := if accepted then "ok" else "rejected"
  message :=
    if accepted then "Coordinated OMS and risk rearm completed." else "Rearm refused: " ++ reason

/-! ## The server -/

/-- The settings and the session of a server. -/
structure AdminSettings where
  sessionId : String
  deploymentId : String
  startedAtWall : ℚ
  commandTtlSec : ℚ
  sessionHeartbeatIntervalSec : ℚ
  maxRetainedResults : ℕ
  maxRetainedArchives : ℕ
  retentionMaxAgeSec : ℚ
  results_pos : 0 < maxRetainedResults
  archives_pos : 0 < maxRetainedArchives

/-- A server with its directories; a result is known by the id in the name of its file. -/
structure AdminServer where
  closed : Bool := false
  lastSessionPublishMonotonic : ℚ := 0
  retentionEvictions : ℕ := 0
  inbox : Dict String (Stamped CommandFile) := ∅
  results : Dict String (Stamped AdminResult) := ∅
  archive : Dict String (Stamped CommandFile) := ∅

/-- Where a command ends up: in the archive; removed, because it cannot be moved; or where it
was, because that fails as well. -/
inductive ArchiveOutcome
  | moved
  | removed
  | stuck
  deriving DecidableEq

/-- How the effects of handling one file go. -/
structure ProcessIo where
  /-- An error of reading the file. -/
  readError : Option String := none
  now : ℚ
  rearm : RearmOutcome := .raised
  /-- The time of the result's file, where it is written. -/
  written : Option ℚ := some 0
  /-- Is an older file of that name in the archive removed? -/
  cleared : Bool := false
  archived : ArchiveOutcome := .moved
  pruneNow : ℚ := 0
  /-- How many evictions go through before one raises. -/
  resultEvictions : Option ℕ := none
  archiveEvictions : Option ℕ := none

/-- A rearm that was carried out: the file, the command in it, the time of its checks, and what
came of it. -/
structure Execution where
  fileName : String
  command : Command
  now : ℚ
  outcome : RearmOutcome

/-- The id of the command that was executed. -/
def Execution.commandId (e : Execution) : String := stem e.fileName

/-- What handling a file comes to. -/
structure Processed where
  server : AdminServer
  execution : Option Execution := none
  raised : Bool

/-- How the effects of a poll go. -/
structure PollIo where
  nowMonotonic : ℚ
  /-- Is the session published, where it is due? -/
  published : Bool := true
  /-- Is the inbox listed? -/
  listed : Bool := true
  files : String → ProcessIo

/-- What a poll comes to. -/
structure Polled where
  server : AdminServer
  executions : List Execution
  raised : Bool

/-! ## Eviction -/

/-- What `_prune_json_directory` removes: the files that are too old, then the oldest of the
others. -/
def doomed {α : Type} (directory : Dict String (Stamped α)) (maxFiles : ℕ) (cutoff : ℚ) :
    List String :=
  let aged := directory.items.filter fun entry => entry.2.mtime < cutoff
  let retained := directory.items.filter fun entry => ¬ entry.2.mtime < cutoff
  let sorted := retained.insertionSort fun a b =>
    a.2.mtime < b.2.mtime ∨ a.2.mtime = b.2.mtime ∧ a.1 ≤ b.1
  aged.map Prod.fst ++ (sorted.take (sorted.length - maxFiles)).map Prod.fst

/-- `_prune_json_directory`: the directory, how many were removed, and whether it returned. -/
def pruneJsonDirectory {α : Type} (directory : Dict String (Stamped α)) (maxFiles : ℕ)
    (cutoff : ℚ)
    (evictions : Option ℕ) : Dict String (Stamped α) × ℕ × Bool :=
  let names := doomed directory maxFiles cutoff
  let removed := match evictions with
    | none => names
    | some n => names.take n
  (removed.foldl Dict.erase directory, removed.length, decide (removed.length = names.length))

namespace AdminServer

variable (st : AdminSettings)

/-- `_prune_history`; `false` when an exception escapes. -/
def pruneHistory (s : AdminServer) (io : ProcessIo) : AdminServer × Bool :=
  let cutoff := io.pruneNow - st.retentionMaxAgeSec
  match pruneJsonDirectory s.results st.maxRetainedResults cutoff io.resultEvictions with
  | (results, _, false) => ({ s with results := results }, false)
  | (results, removed, true) =>
    let s := { s with
      results := results
      retentionEvictions := s.retentionEvictions + removed }
    match pruneJsonDirectory s.archive st.maxRetainedArchives cutoff io.archiveEvictions with
    | (archive, _, false) => ({ s with archive := archive }, false)
    | (archive, removed, true) =>
      ({ s with
          archive := archive
          retentionEvictions := s.retentionEvictions + removed }, true)

/-! ## Handling one file -/

/-- `_archive_command`; `false` when an exception escapes. -/
def archiveCommand (s : AdminServer) (name : String) (io : ProcessIo) : AdminServer × Bool :=
  let s := if io.cleared then { s with archive := s.archive.erase name } else s
  let s := match io.archived, s.inbox.get? name with
    | .moved, some file =>
      { s with inbox := s.inbox.erase name, archive := s.archive.set name file }
    | .removed, _ => { s with inbox := s.inbox.erase name }
    | _, _ => s
  s.pruneHistory st io

/-- `_write_result` and `_archive_command`; `false` when an exception escapes. -/
def answer (s : AdminServer) (name : String) (io : ProcessIo) (result : AdminResult) :
    AdminServer × Bool :=
  match io.written with
  | none => (s, false)
  | some mtime =>
    ({ s with results := s.results.set result.id ⟨mtime, result⟩ } : AdminServer).archiveCommand
      st name io

/-- `_load_strict_json_object`. -/
def load (s : AdminServer) (name : String) (io : ProcessIo) : Except String Command :=
  match io.readError, s.inbox.get? name with
  | some error, _ => .error error
  | none, none => .error "FileNotFoundError"
  | none, some ⟨_, .unreadable error⟩ => .error error
  | none, some ⟨_, .command command⟩ => .ok command

/-- The id of a command; one without an id has that of its file. -/
def commandId (fileId : String) (command : Command) : String :=
  if command.id = "" then fileId else command.id

/-- The checks of `_process_command_file`. -/
def checkCommand (fileId : String) (command : Command) (now : ℚ) : Except String Unit :=
  if command.schema ≠ some commandSchema then .error "admin command schema is invalid"
  else if isCommandId (commandId fileId command) = false ∨ commandId fileId command ≠ fileId then
    .error "admin command ID does not match its file name"
  else if command.sessionId ≠ st.sessionId then
    .error "admin command belongs to an inactive session"
  else if command.deploymentId ≠ st.deploymentId then
    .error "admin command belongs to another deployment"
  else
    match command.createdAt with
    | .error err => .error err
    | .ok createdAt =>
      if createdAt + 1 < st.startedAtWall then
        .error "admin command predates the active session"
      else if now - createdAt < -1 ∨ st.commandTtlSec < now - createdAt then
        .error "admin command is outside its validity window"
      else .ok ()

/-- The id an invalid command is answered under. -/
def invalidId (fileId : String) (command : Command) : String :=
  if isCommandId (commandId fileId command) then commandId fileId command else fileId

/-- The action of a command. -/
def actionOf (command : Command) : String := (Text.strip command.action).toLower

/-- `_process_command_file`. -/
def processCommandFile (s : AdminServer) (name : String) (io : ProcessIo) : Processed :=
  let fileId := stem name
  let answered (execution : Option Execution) (result : AdminResult) : Processed :=
    let (server, returned) := s.answer st name io result
    { server := server, execution := execution, raised := !returned }
  match s.load name io with
  | .error err =>
    answered none ⟨fileId, false, "invalid", "Failed to load admin command: " ++ err⟩
  | .ok command =>
    match checkCommand st fileId command io.now with
    | .error err => answered none ⟨invalidId fileId command, false, "invalid", err⟩
    | .ok () =>
      let id := commandId fileId command
      if actionOf command = "rearm" then
        let execution : Execution := ⟨name, command, io.now, io.rearm⟩
        match io.rearm with
        | .raised => { server := s, execution := some execution, raised := true }
        | .returned accepted reason => answered (some execution) (rearmResult id accepted reason)
      else if actionOf command = "status" then
        answered none ⟨id, true, "ok", "OMS status snapshot."⟩
      else
        answered none ⟨id, false, "unsupported", "Unsupported admin action: " ++
          (if actionOf command = "" then "empty" else actionOf command)⟩

/-! ## Polling -/

/-- The loop of `poll_once`; an exception ends it. -/
def pollFiles (s : AdminServer) (io : String → ProcessIo) : List String → Polled
  | [] => ⟨s, [], false⟩
  | name :: rest =>
    let processed := s.processCommandFile st name (io name)
    if processed.raised then ⟨processed.server, processed.execution.toList, true⟩
    else
      let polled := processed.server.pollFiles io rest
      { polled with executions := processed.execution.toList ++ polled.executions }

/-- `_publish_session`, where it is due; `false` when an exception escapes. -/
def publishSession (s : AdminServer) (io : PollIo) : AdminServer × Bool :=
  if io.nowMonotonic - s.lastSessionPublishMonotonic < st.sessionHeartbeatIntervalSec then
    (s, true)
  else if io.published = false then (s, false)
  else ({ s with lastSessionPublishMonotonic := io.nowMonotonic }, true)

/-- The files a poll looks at. -/
def commandNames (s : AdminServer) : List String :=
  (s.inbox.keys.filter fun name => isJson name).insertionSort (· ≤ ·)

/-- `poll_once`. -/
def pollOnce (s : AdminServer) (io : PollIo) : Polled :=
  if s.closed then ⟨s, [], false⟩
  else
    match s.publishSession st io with
    | (s, false) => ⟨s, [], true⟩
    | (s, true) =>
      if io.listed = false then ⟨s, [], true⟩ else s.pollFiles st io.files s.commandNames

end AdminServer

end ChronosHFT.Admin

import AgentTranscript.Proofs.Session.Intake
import AgentTranscript.Proofs.Session.Routing

/-! Showing one session. What the command then leaves behind follows from the records of that
session and the settings alone, so logs that have these records in common are shown alike. -/
namespace AgentTranscript.CommandLine

def sessionText (settings : Settings) (id : String) (json live : Bool)
    (records : List UpdateRecord) : String :=
  let messages := aggregate { settings.options with closeFinalTurn := !live } records
  if json then
    Json.pretty (.ofMembers
      [("sessionId", .string id), ("state", (SessionState.ofLog records).toJson),
        ("messages", Message.listToJson messages)]) ++ "\n"
  else
    let lines := Display.render settings.theme.palette settings.width messages
    String.join (lines.map fun l => l.plain ++ "\n")

/-- What the command leaves behind that is to show a session with these records. -/
def sessionOutcome (settings : Settings) (id : String) (json live : Bool)
    (records : List UpdateRecord) : Outcome :=
  if records.isEmpty then ⟨1, "", report (Failure.noUpdates id).causes⟩
  else success (sessionText settings id json live records)

/-- Whether the command is to show this session, without being strict, and finds a log of these
bytes. -/
def Shows (around : Surroundings) (arguments : List String) (id : String) (json live : Bool)
    (bytes : List UInt8) : Prop :=
  ∃ path, Arguments.parse arguments = .ok (.run { path, session := some id, json, live }) ∧
    readInput around { path } = .ok bytes

theorem showSession_eq {store : SessionStore} (h : store.Sound) {args : Arguments}
    {settings : Settings} (hoptions : store.options = options args settings) {id : String}
    (hsession : args.session = some id) :
    showSession args settings store =
      if (store.updates id).isEmpty then .error (.noUpdates id)
      else .ok (sessionText settings id args.json args.live (store.updates id)) := by
  have hmessages := h.messages_eq id
  rw [hoptions] at hmessages
  rw [showSession, hsession, Option.some_or]
  dsimp only [jsonOutput, textOutput, sessionText]
  rw [hmessages]
  cases args.json <;> rfl

theorem updates_extend_new (options : Options) (records : List UpdateRecord) (id : String) :
    (({ options } : SessionStore).extend records).updates id = records.filter (·.IsOf id) := by
  have hnew : ({ options } : SessionStore).updates id = [] :=
    (SessionStore.sound_new options).listed.updates_of_not_mem List.not_mem_nil
  rw [SessionStore.updates_extend, hnew, List.nil_append]
  simp only [UpdateRecord.session_eq_iff]

theorem runWith_eq {around : Surroundings} {args : Arguments} {id : String}
    (hsession : args.session = some id) (hstrict : args.strict = false)
    (hlist : args.listSessions = false) {bytes : List UInt8}
    (hread : readInput around args = .ok bytes) :
    runWith around args =
      let records := (UpdateLog.readLenient bytes).filter (·.IsOf id)
      let settings := Settings.ofEnvironment around.environment
      if records.isEmpty then .error (.noUpdates id)
      else .ok (sessionText settings id args.json args.live records) := by
  have hnew := SessionStore.sound_new (options args (.ofEnvironment around.environment))
  have hshow := showSession_eq (hnew.extend (UpdateLog.readLenient bytes))
    (SessionStore.options_extend _ _) hsession
  rw [updates_extend_new] at hshow
  simp only [runWith, bind, Except.bind, hread, SessionStore.load_lenient hstrict, hlist]
  exact hshow

theorem run_eq_sessionOutcome {around : Surroundings} {arguments : List String} {id : String}
    {json live : Bool} {bytes : List UInt8} (h : Shows around arguments id json live bytes) :
    run around arguments =
      sessionOutcome (.ofEnvironment around.environment) id json live
        ((UpdateLog.readLenient bytes).filter (·.IsOf id)) := by
  obtain ⟨path, hparse, hread⟩ := h
  have hrun := @runWith_eq around { path, session := some id, json, live } id rfl rfl rfl _ hread
  rw [run, hparse, sessionOutcome]
  dsimp only at hrun ⊢
  rw [hrun]
  cases ((UpdateLog.readLenient bytes).filter (·.IsOf id)).isEmpty <;> rfl

/-- The records of other sessions, malformed and blank lines, and the order in which sessions come
by turns do not show: what the command leaves behind that shows a session is told from its records
alone, so it is the same for logs that have these in common, wherever they are read from. -/
theorem other_sessions_do_not_show {around around' : Surroundings}
    {arguments arguments' : List String} {id : String} {json live : Bool}
    {bytes bytes' : List UInt8} (henvironment : around.environment = around'.environment)
    (h : Shows around arguments id json live bytes)
    (h' : Shows around' arguments' id json live bytes')
    (hrecords : (UpdateLog.readLenient bytes).filter (·.IsOf id) =
      (UpdateLog.readLenient bytes').filter (·.IsOf id)) :
    run around arguments = run around' arguments' ∧
      run around arguments =
        sessionOutcome (.ofEnvironment around.environment) id json live
          ((UpdateLog.readLenient bytes).filter (·.IsOf id)) := by
  have hrun := run_eq_sessionOutcome h
  have hrun' := run_eq_sessionOutcome h'
  rw [← henvironment, ← hrecords] at hrun'
  exact ⟨hrun.trans hrun'.symm, hrun⟩

/-- A file in which a record of another session, a malformed line and a blank one stand before what
standard input has. -/
theorem other_sessions_do_not_show_in_a_longer_log :
    let bytes (s : String) : List UInt8 := s.toUTF8.data.toList
    let own := bytes <| "\x7b\"sessionUpdate\":\"agent_message_chunk\"," ++
      "\"content\":\x7b\"text\":\"a\"\x7d\x7d\n"
    let foreign := bytes ("\x7b\"sessionUpdate\":\"error\",\"message\":\"x\"," ++
      "\"sessionId\":\"b\"\x7d\n") ++ [0xFF, 10, 10]
    let around : Surroundings := ⟨fun _ => none, fun _ => none, own⟩
    let around' : Surroundings := ⟨fun _ => none, fun _ => some (foreign ++ own), []⟩
    let arguments := ["-s", "default"]
    let arguments' := ["-s", "b", "log", "--session", "default"]
    Shows around arguments "default" false false own ∧
      Shows around' arguments' "default" false false (foreign ++ own) ∧
      (UpdateLog.readLenient own).filter (·.IsOf "default") =
        (UpdateLog.readLenient (foreign ++ own)).filter (·.IsOf "default") ∧
      ((UpdateLog.readLenient own).length, (UpdateLog.readLenient foreign).length) = (1, 1) ∧
      run around arguments = run around' arguments' ∧
      run around arguments = success "[agent]\na\n" := by
  intro bytes own foreign around around' arguments arguments'
  have hshows : Shows around arguments "default" false false own := ⟨none, rfl, rfl⟩
  have hshows' : Shows around' arguments' "default" false false (foreign ++ own) :=
    ⟨some "log", rfl, rfl⟩
  have hrecords : (UpdateLog.readLenient own).filter (·.IsOf "default") =
      (UpdateLog.readLenient (foreign ++ own)).filter (·.IsOf "default") := by
    have hended : UpdateLog.Ended foreign := by simp [UpdateLog.Ended, foreign]
    have hnone : (UpdateLog.readLenient foreign).filter (·.IsOf "default") = [] := by
      decide +kernel
    rw [UpdateLog.readLenient_append_of_ended hended, List.filter_append, hnone, List.nil_append]
  have henvironment : around.environment = around'.environment := rfl
  obtain ⟨hsame, houtcome⟩ := other_sessions_do_not_show henvironment hshows hshows' hrecords
  have hshown : run around arguments = success "[agent]\na\n" := by
    rw [houtcome]
    decide +kernel
  exact ⟨hshows, hshows', hrecords, by decide +kernel, hsame, hshown⟩

end AgentTranscript.CommandLine

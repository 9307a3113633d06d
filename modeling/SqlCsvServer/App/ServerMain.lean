import Mathlib.Data.List.Basic
import SqlCsvServer.Common.StrictInt
import SqlCsvServer.Server.Ownership

/-!
# The server program: `app/sqlapi_server_main.c`

It reads its options, creates the server, starts it, waits for its end and gives it back.
-/

namespace SqlCsvServer
namespace App
namespace ServerMain

open Foundation Common Ledger
open Server.Lifecycle

/-!
## The program
-/

/-- The options of the program. -/
inductive ServerOption where
  | host
  | port
  | workerCount
  | queueCapacity
  | schemaDir
  | dataDir
deriving DecidableEq

def ServerOption.name : ServerOption -> Bytes
  | .host => ascii "--host"
  | .port => ascii "--port"
  | .workerCount => ascii "--worker-count"
  | .queueCapacity => ascii "--queue-capacity"
  | .schemaDir => ascii "--schema-dir"
  | .dataDir => ascii "--data-dir"

def optionOf (argument : Bytes) : Option ServerOption :=
  [ServerOption.host, .port, .workerCount, .queueCapacity, .schemaDir, .dataDir].find?
    fun option => argument = option.name

/-- `print_usage`. -/
def usageText (programName : Bytes) : Bytes :=
  ascii "Usage: " ++ programName ++
    ascii " [--host HOST] [--port PORT] [--worker-count N] [--queue-capacity N] " ++
    ascii "[--schema-dir DIR] [--data-dir DIR]\n"

/-- What is printed where an option has no value. -/
def ServerOption.missing (programName : Bytes) : ServerOption -> Bytes
  | .host => ascii "missing value for --host\n" ++ usageText programName
  | .port => ascii "invalid value for --port\n"
  | .workerCount => ascii "invalid value for --worker-count\n"
  | .queueCapacity => ascii "invalid value for --queue-capacity\n"
  | .schemaDir => ascii "missing value for --schema-dir\n"
  | .dataDir => ascii "missing value for --data-dir\n"

def ServerOption.store (value : Bytes) (config : SqlApiServerConfig) :
    ServerOption -> Option SqlApiServerConfig
  | .host => some { config with host := value }
  | .port => (parseIntStrict value).map fun number => { config with port := number }
  | .workerCount =>
      (parseIntStrict value).map fun number => { config with workerCount := number }
  | .queueCapacity =>
      (parseIntStrict value).map fun number => { config with queueCapacity := number }
  | .schemaDir => some { config with schemaDir := value }
  | .dataDir => some { config with dataDir := value }

/-- The loop of `main` over its arguments. -/
def readOptions (programName : Bytes) :
    List Bytes -> SqlApiServerConfig -> Except Bytes SqlApiServerConfig
  | [], config => .ok config
  | argument :: arguments, config =>
      match optionOf argument with
      | none =>
          .error (ascii "unknown option: " ++ argument ++ ascii "\n" ++ usageText programName)
      | some option =>
          match arguments with
          | [] => .error (option.missing programName)
          | value :: arguments =>
              match option.store value config with
              | none => .error (option.missing programName)
              | some config => readOptions programName arguments config

/-- Where `main` returns. -/
inductive ServerExit where
  | badOptions (text : Bytes)
  | notCreated (error : Bytes)
  | notStarted (error : Bytes)
  | ended
deriving DecidableEq

def ServerExit.code : ServerExit -> Nat
  | .badOptions _ | .notCreated _ | .notStarted _ => 1
  | .ended => 0

def ServerExit.printed : ServerExit -> Bytes
  | .badOptions text => text
  | .notCreated error | .notStarted error => error ++ ascii "\n"
  | .ended => []

/-- An option with the value behind it. -/
structure Setting where
  option : ServerOption
  value : Bytes

def Setting.arguments (setting : Setting) : List Bytes :=
  [setting.option.name, setting.value]

def ServerOption.IsNumber : ServerOption -> Prop
  | .host | .schemaDir | .dataDir => False
  | .port | .workerCount | .queueCapacity => True

/-- Where a number is wanted, there is a strict integer, with blanks in front or not. -/
def Setting.Valid (setting : Setting) : Prop :=
  setting.option.IsNumber ->
    exists number, StrictInt (setting.value.dropWhile isSpace) number

def ServerOption.Reads (value : Bytes) (config : SqlApiServerConfig) :
    ServerOption -> Prop
  | .host => config.host = value
  | .port => StrictInt (value.dropWhile isSpace) config.port
  | .workerCount => StrictInt (value.dropWhile isSpace) config.workerCount
  | .queueCapacity => StrictInt (value.dropWhile isSpace) config.queueCapacity
  | .schemaDir => config.schemaDir = value
  | .dataDir => config.dataDir = value

def ServerOption.Same (before after : SqlApiServerConfig) : ServerOption -> Prop
  | .host => after.host = before.host
  | .port => after.port = before.port
  | .workerCount => after.workerCount = before.workerCount
  | .queueCapacity => after.queueCapacity = before.queueCapacity
  | .schemaDir => after.schemaDir = before.schemaDir
  | .dataDir => after.dataDir = before.dataDir

def lastSetting (option : ServerOption) (settings : List Setting) : Option Setting :=
  settings.reverse.find? fun setting => setting.option = option

/-- The last setting of each option counts, and there are no others. -/
structure Settles (settings : List Setting) (before after : SqlApiServerConfig) :
    Prop where
  option : forall option,
    match lastSetting option settings with
    | some setting => option.Reads setting.value after
    | none => option.Same before after
  requestBodyLimit : after.requestBodyLimit = before.requestBodyLimit
  sqlLengthLimit : after.sqlLengthLimit = before.sqlLengthLimit
  headerLimit : after.headerLimit = before.headerLimit

/-- Arguments that start with what `main` complains about, and its complaint. -/
inductive Complaint (programName : Bytes) : List Bytes -> Bytes -> Prop where
  | unknown {argument : Bytes} (rest : List Bytes)
      (h : forall option : ServerOption, argument ≠ option.name) :
      Complaint programName (argument :: rest)
        (ascii "unknown option: " ++ argument ++ ascii "\n" ++ usageText programName)
  | missing (option : ServerOption) :
      Complaint programName [option.name] (option.missing programName)
  | invalid {setting : Setting} (rest : List Bytes) (h : ¬ setting.Valid) :
      Complaint programName (setting.arguments ++ rest)
        (setting.option.missing programName)

section Options

variable {programName : Bytes} {option : ServerOption} {setting : Setting}
  {config before after : SqlApiServerConfig}

theorem optionOf_name (option : ServerOption) : optionOf option.name = some option := by
  cases option <;> decide

theorem optionOf_eq_none {argument : Bytes} :
    optionOf argument = none <-> forall option : ServerOption, argument ≠ option.name := by
  constructor
  · rintro h option rfl
    rw [optionOf_name] at h
    nomatch h
  · intro h
    unfold optionOf
    rw [List.find?_eq_none]
    intro option _
    simpa using h option

theorem optionOf_eq_some {argument : Bytes} (h : optionOf argument = some option) :
    argument = option.name := by
  have hfound := List.find?_some h
  simpa using hfound

theorem store_settles {value : Bytes} (h : option.store value before = some after) :
    option.Reads value after ∧
      (forall other, other ≠ option -> other.Same before after) ∧
      after.requestBodyLimit = before.requestBodyLimit ∧
      after.sqlLengthLimit = before.sqlLengthLimit ∧
      after.headerLimit = before.headerLimit := by
  cases option with
  | host | schemaDir | dataDir =>
      cases h
      refine ⟨rfl, fun other hother => ?_, rfl, rfl, rfl⟩
      cases other <;> first | rfl | exact absurd rfl hother
  | port | workerCount | queueCapacity =>
      rcases Option.map_eq_some_iff.mp h with ⟨number, hnumber, rfl⟩
      refine ⟨parseIntStrict_eq_some_iff.mp hnumber, fun other hother => ?_, rfl, rfl, rfl⟩
      cases other <;> first | rfl | exact absurd rfl hother

theorem valid_iff_stored (before : SqlApiServerConfig) :
    setting.Valid <-> exists after, setting.option.store setting.value before = some after := by
  rcases setting with ⟨option, value⟩
  cases option with
  | host | schemaDir | dataDir => exact ⟨fun _ => ⟨_, rfl⟩, fun _ hnumber => hnumber.elim⟩
  | port | workerCount | queueCapacity =>
      constructor
      · intro h
        rcases h trivial with ⟨number, hnumber⟩
        exact ⟨_, Option.map_eq_some_iff.mpr
          ⟨number, parseIntStrict_eq_some_iff.mpr hnumber, rfl⟩⟩
      · rintro ⟨after, hafter⟩ _
        rcases Option.map_eq_some_iff.mp hafter with ⟨number, hnumber, _⟩
        exact ⟨number, parseIntStrict_eq_some_iff.mp hnumber⟩

def storeAll (settings : List Setting) (config : SqlApiServerConfig) :
    Option SqlApiServerConfig :=
  settings.foldlM (fun config setting => setting.option.store setting.value config) config

theorem ServerOption.Same.trans {between : SqlApiServerConfig}
    (h : option.Same before between) (hafter : option.Same between after) :
    option.Same before after := by
  cases option <;> exact Eq.trans hafter h

theorem ServerOption.Reads.of_same {value : Bytes} (h : option.Reads value before)
    (hsame : option.Same before after) : option.Reads value after := by
  cases option with
  | host | schemaDir | dataDir => exact Eq.trans hsame h
  | port | workerCount | queueCapacity =>
      unfold ServerOption.Same at hsame
      unfold ServerOption.Reads at h ⊢
      rwa [hsame]

theorem lastSetting_cons (settings : List Setting) :
    lastSetting option (setting :: settings) =
      (lastSetting option settings).or
        (if setting.option = option then some setting else none) := by
  unfold lastSetting
  rw [List.reverse_cons, List.find?_append]
  congr 1
  by_cases h : setting.option = option
  · simp [h]
  · simp [h]

theorem storeAll_settles {settings : List Setting}
    (h : storeAll settings before = some after) : Settles settings before after := by
  induction settings generalizing before with
  | nil =>
      cases h
      exact ⟨fun option => by cases option <;> rfl, rfl, rfl, rfl⟩
  | cons setting settings ih =>
      rcases Option.bind_eq_some_iff.mp h with ⟨between, hfirst, hrest⟩
      rcases store_settles hfirst with ⟨hreads, hothers, hbody, hsql, hheader⟩
      have hsettles := ih hrest
      refine ⟨fun option => ?_, hsettles.requestBodyLimit.trans hbody,
        hsettles.sqlLengthLimit.trans hsql, hsettles.headerLimit.trans hheader⟩
      have hoption := hsettles.option option
      rw [lastSetting_cons]
      cases hlast : lastSetting option settings with
      | some last =>
          rw [hlast] at hoption
          exact hoption
      | none =>
          rw [hlast] at hoption
          by_cases heq : setting.option = option
          · rw [if_pos heq]
            exact (heq ▸ hreads).of_same hoption
          · rw [if_neg heq]
            exact (hothers option (Ne.symm heq)).trans hoption

theorem strictInt_unique {text : Bytes} {a b : Int}
    (ha : StrictInt (text.dropWhile isSpace) a) (hb : StrictInt (text.dropWhile isSpace) b) :
    a = b :=
  Option.some.inj ((parseIntStrict_eq_some_iff.mpr ha).symm.trans
    (parseIntStrict_eq_some_iff.mpr hb))

theorem ServerOption.Reads.same {value : Bytes} (h : option.Reads value before)
    (hafter : option.Reads value after) : option.Same before after := by
  cases option with
  | host | schemaDir | dataDir => exact Eq.trans hafter (Eq.symm h)
  | port | workerCount | queueCapacity => exact strictInt_unique hafter h

theorem ServerOption.Same.symm (h : option.Same before after) :
    option.Same after before := by
  cases option <;> exact Eq.symm h

theorem Settles.unique {settings : List Setting} {other : SqlApiServerConfig}
    (h : Settles settings before after) (hother : Settles settings before other) :
    after = other := by
  have hsame : forall option : ServerOption, option.Same other after := by
    intro option
    have hafter := h.option option
    have hotherOption := hother.option option
    cases hlast : lastSetting option settings with
    | some last =>
        rw [hlast] at hafter hotherOption
        exact hotherOption.same hafter
    | none =>
        rw [hlast] at hafter hotherOption
        exact hotherOption.symm.trans hafter
  exact SqlApiServerConfig.ext (hsame .host) (hsame .port) (hsame .workerCount)
    (hsame .queueCapacity) (hsame .schemaDir) (hsame .dataDir)
    (h.requestBodyLimit.trans hother.requestBodyLimit.symm)
    (h.sqlLengthLimit.trans hother.sqlLengthLimit.symm)
    (h.headerLimit.trans hother.headerLimit.symm)

theorem readOptions_setting (rest : List Bytes)
    (h : setting.option.store setting.value before = some after) :
    readOptions programName (setting.arguments ++ rest) before =
      readOptions programName rest after := by
  unfold Setting.arguments
  rw [List.cons_append, List.cons_append, List.nil_append, readOptions, optionOf_name]
  simp only [h]

theorem readOptions_settings (rest : List Bytes) {settings : List Setting}
    (h : storeAll settings before = some after) :
    readOptions programName (settings.flatMap Setting.arguments ++ rest) before =
      readOptions programName rest after := by
  induction settings generalizing before with
  | nil =>
      cases h
      rfl
  | cons setting settings ih =>
      rcases Option.bind_eq_some_iff.mp h with ⟨between, hfirst, hrest⟩
      rw [List.flatMap_cons, List.append_assoc, readOptions_setting _ hfirst, ih hrest]

theorem exists_storeAll {settings : List Setting}
    (h : forall setting, setting ∈ settings -> setting.Valid)
    (before : SqlApiServerConfig) : exists after, storeAll settings before = some after := by
  induction settings generalizing before with
  | nil => exact ⟨before, rfl⟩
  | cons setting settings ih =>
      rcases (valid_iff_stored before).mp (h setting (List.mem_cons_self ..)) with
        ⟨between, hfirst⟩
      rcases ih (fun other hother => h other (List.mem_cons_of_mem _ hother)) between with
        ⟨after, hafter⟩
      exact ⟨after, Option.bind_eq_some_iff.mpr ⟨between, hfirst, hafter⟩⟩

theorem Complaint.readOptions {rest : List Bytes} {text : Bytes}
    (h : Complaint programName rest text) (config : SqlApiServerConfig) :
    readOptions programName rest config = .error text := by
  cases h with
  | unknown rest h =>
      rw [ServerMain.readOptions, optionOf_eq_none.mpr h]
  | missing option =>
      rw [ServerMain.readOptions, optionOf_name]
  | @invalid setting rest h =>
      have hnone : setting.option.store setting.value config = none := by
        rw [Option.eq_none_iff_forall_ne_some]
        exact fun after hafter => h ((valid_iff_stored config).mpr ⟨after, hafter⟩)
      unfold Setting.arguments
      rw [List.cons_append, List.cons_append, List.nil_append, ServerMain.readOptions,
        optionOf_name]
      simp only [hnone]

theorem settings_then (programName : Bytes) (arguments : List Bytes)
    (config : SqlApiServerConfig) :
    exists (settings : List Setting) (rest : List Bytes),
      arguments = settings.flatMap Setting.arguments ++ rest ∧
        (forall setting, setting ∈ settings -> setting.Valid) ∧
        (rest = [] ∨ exists text, Complaint programName rest text) := by
  induction arguments, config using readOptions.induct with
  | case1 config => exact ⟨[], [], rfl, List.forall_mem_nil _, .inl rfl⟩
  | case2 argument arguments config hnone =>
      exact ⟨[], argument :: arguments, rfl, List.forall_mem_nil _,
        .inr ⟨_, .unknown arguments (optionOf_eq_none.mp hnone)⟩⟩
  | case3 argument config option hoption =>
      rw [optionOf_eq_some hoption]
      exact ⟨[], _, rfl, List.forall_mem_nil _, .inr ⟨_, .missing option⟩⟩
  | case4 argument config option hoption value arguments hstore =>
      rw [optionOf_eq_some hoption]
      have hinvalid : ¬ (Setting.mk option value).Valid := by
        rw [valid_iff_stored config, hstore]
        rintro ⟨after, hafter⟩
        nomatch hafter
      exact ⟨[], _, rfl, List.forall_mem_nil _,
        .inr ⟨_, .invalid arguments hinvalid⟩⟩
  | case5 argument config option hoption value arguments after hstore ih =>
      rw [optionOf_eq_some hoption]
      rcases ih with ⟨settings, rest, hrest, hvalid, hend⟩
      refine ⟨⟨option, value⟩ :: settings, rest, ?_, ?_, hend⟩
      · rw [hrest]
        rfl
      · intro setting hmem
        rcases List.mem_cons.mp hmem with rfl | hmem
        · exact (valid_iff_stored config).mpr ⟨after, hstore⟩
        · exact hvalid setting hmem

/--
The arguments that `main` accepts are options with values, the last of each counting;
any others start so up to what it complains about.
-/
theorem options_read (programName : Bytes) (arguments : List Bytes)
    (before : SqlApiServerConfig) :
    (forall config, readOptions programName arguments before = .ok config <->
      exists settings : List Setting,
        arguments = settings.flatMap Setting.arguments ∧
          (forall setting, setting ∈ settings -> setting.Valid) ∧
          Settles settings before config) ∧
    (forall text, readOptions programName arguments before = .error text <->
      exists (settings : List Setting) (rest : List Bytes),
        arguments = settings.flatMap Setting.arguments ++ rest ∧
          (forall setting, setting ∈ settings -> setting.Valid) ∧
          Complaint programName rest text) := by
  rcases settings_then programName arguments before with ⟨settings, rest, hread, hvalid, hend⟩
  rcases exists_storeAll hvalid before with ⟨stored, hstored⟩
  have hrun : readOptions programName arguments before =
      readOptions programName rest stored := by
    rw [hread]
    exact readOptions_settings rest hstored
  refine ⟨fun config => ⟨fun h => ?_, ?_⟩, fun text => ⟨fun h => ?_, ?_⟩⟩
  · rcases hend with rfl | ⟨text, hcomplaint⟩
    · rw [List.append_nil] at hread
      rw [hrun] at h
      cases h
      exact ⟨settings, hread, hvalid, storeAll_settles hstored⟩
    · rw [hrun, hcomplaint.readOptions] at h
      nomatch h
  · rintro ⟨others, rfl, hothers, hsettles⟩
    rcases exists_storeAll hothers before with ⟨after, hafter⟩
    rw [hsettles.unique (storeAll_settles hafter), ← List.append_nil (List.flatMap _ _),
      readOptions_settings _ hafter]
    rfl
  · rcases hend with rfl | ⟨complaint, hcomplaint⟩
    · rw [hrun] at h
      nomatch h
    · rw [hrun, hcomplaint.readOptions] at h
      cases h
      exact ⟨settings, rest, hread, hvalid, hcomplaint⟩
  · rintro ⟨others, more, rfl, hothers, hcomplaint⟩
    rcases exists_storeAll hothers before with ⟨after, hafter⟩
    rw [readOptions_settings _ hafter]
    exact hcomplaint.readOptions after

end Options

/-!
## What is still held at the end
-/

section Main

variable {environment : StartEnvironment} {signals : Signals} {events : List ServerEvent}

def keptSocket (environment : StartEnvironment) (signals : Signals) : Option Nat :=
  if signals.beforeStart then boundCandidate environment else none

structure Unstarted (signals : Signals) (server : SqlApiServer) : Prop where
  socket : server.listenSocket = none
  down : server.shuttingDown = signals.beforeStart
  started : server.started = false
  silentClient : server.silentClient = false
  fits : server.tables.length ≤ server.registryCapacity

structure Running (environment : StartEnvironment) (signals : Signals) (workerCount : Nat)
    (server : SqlApiServer) : Prop where
  serving : Serving (keptSocket environment signals) workerCount server
  down : server.shuttingDown =
    (signals.beforeStart || signals.listening || signals.poolStarted)
  silentClient : server.silentClient = false

theorem Unstarted.running {server : SqlApiServer} {candidate : Nat}
    (h : Unstarted signals server) (hbound : boundCandidate environment = some candidate) :
    Running environment signals server.workerCount (server.startedAt signals candidate) := by
  have hfirst := signalled_signalled
    { server with listenSocket := some candidate : SqlApiServer } signals.listening
  have hsecond := signalled_signalled
    ({ server with listenSocket := some candidate : SqlApiServer }.signalled signals.listening)
      signals.poolStarted
  have hdown : (server.startedAt signals candidate).shuttingDown =
      (signals.beforeStart || signals.listening || signals.poolStarted) := by
    rw [← h.down]
    exact hsecond.shuttingDown.trans (by rw [hfirst.shuttingDown])
  have hlisten : (server.startedAt signals candidate).listenSocket =
      if signals.poolStarted && !(signals.beforeStart || signals.listening) then none
      else if signals.listening && !signals.beforeStart then none else some candidate := by
    rw [← h.down]
    exact hsecond.listenSocket.trans (by rw [hfirst.shuttingDown, hfirst.listenSocket])
  refine ⟨⟨rfl, hsecond.workerCount.trans hfirst.workerCount, ?_, fun hopen => ?_,
    fun hshut => ?_⟩, hdown, hsecond.silentClient.trans (hfirst.silentClient.trans
      h.silentClient)⟩
  · show (SqlApiServer.signalled _ _).tables.length ≤
      (SqlApiServer.signalled _ _).registryCapacity
    rw [hsecond.tables, hsecond.registryCapacity, hfirst.tables, hfirst.registryCapacity]
    exact h.fits
  · rw [hdown, Bool.or_assoc, Bool.or_eq_false_iff] at hopen
    rw [keptSocket, hopen.1]
    rfl
  · rw [hdown] at hshut
    rw [hlisten, keptSocket, hbound]
    revert hshut
    cases signals.beforeStart <;> cases signals.listening <;> cases signals.poolStarted <;>
      simp

end Main

end ServerMain
end App
end SqlCsvServer

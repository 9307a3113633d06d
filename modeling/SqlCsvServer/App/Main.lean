import SqlCsvServer.Engine.Adapter
import SqlCsvServer.Foundation.LineReader

/-!
# The command line: `app/main.c`

What the program is started with decides where its SQL comes from: options, a file, the
standard input, or the lines of a session.  Each text goes through lexer, parser and
executor, and what is left behind is the engine.
-/

namespace SqlCsvServer
namespace App

open Foundation Common Storage Index Sql Execution

/-!
## The environment
-/

/-- What `stat` says about a path that exists. -/
inductive FileKind where
  | regular
  | directory
  | other
deriving DecidableEq

/-- The call of `read_entire_file` that fails. -/
inductive ReadFailure where
  | fopen (errno : Errno)
  | fseekEnd
  | ftell
  | fseekStart
  | malloc
  | fread
deriving DecidableEq

/-- What one execution meets: its faults, and the time it takes in millionths of a second. -/
structure CliCall where
  faults : Faults
  elapsed : Int

/--
The surroundings of a program run.  A path may name a file that the engine writes, so what
is found under it depends on the data directory.
-/
structure CliEnvironment where
  schemaDir : SchemaDir
  stat : DataDir -> Bytes -> Except Errno FileKind
  file : DataDir -> Bytes -> Except ReadFailure Bytes
  /-- What the standard input has to give, and whether it then fails or ends. -/
  stdin : Bytes
  stdinFails : Bool
  stdinIsTerminal : Bool

/-!
## Texts
-/

def utf8 (text : String) : Bytes :=
  text.toList.flatMap String.utf8EncodeChar

def decimalMillionths (n : Int) : Bytes :=
  (if n < 0 then ascii "-" else []) ++ decimalNat (n.natAbs / 1000000) ++
    ascii "." ++ decimalNat (n.natAbs / 100000 % 10) ++
      decimalNat (n.natAbs / 10000 % 10) ++ decimalNat (n.natAbs / 1000 % 10) ++
        decimalNat (n.natAbs / 100 % 10) ++ decimalNat (n.natAbs / 10 % 10) ++
          decimalNat (n.natAbs % 10)

/-- `print_usage`. -/
def usageText (programName : Bytes) : Bytes :=
  let bar := ascii "============================================================\n"
  bar ++ utf8 " SQL Processor 도움말\n" ++ bar ++ ascii "\n" ++
    utf8 "[사용법]\n  " ++ programName ++ utf8 " [옵션]... [SQL_또는_파일]\n  " ++
      programName ++ ascii "\n\n" ++
    utf8 "[옵션]\n" ++
    utf8 "  -e, --execute SQL   SQL 문장을 직접 실행합니다\n" ++
    utf8 "  -f, --file PATH     PATH에서 SQL 파일을 읽어 실행합니다\n" ++
    utf8 "  -h, --help          이 도움말을 출력합니다\n\n" ++
    utf8 "[대화형 모드]\n" ++
    utf8 "  터미널에서 인자 없이 실행하면 대화형 모드가 시작됩니다.\n" ++
    utf8 "  대화형 모드에서는 SQL 문장 또는 SQL 파일 경로를 입력할 수 있습니다.\n" ++
    utf8 "  프롬프트를 종료하려면 .exit, .quit, exit, quit 중 하나를 입력하세요.\n\n" ++
    utf8 "[예시]\n  " ++ programName ++ ascii " -e \"SELECT * FROM student;\"\n  " ++
      programName ++ ascii " -f examples/select_name_age.sql\n" ++
    ascii "  echo \"SELECT name FROM student;\" | " ++ programName ++ ascii "\n\n" ++ bar

def isBlankString (text : Bytes) : Bool :=
  (cString text).all isSpace

/-!
## Where the SQL comes from
-/

/-- `format_system_error` for any path. -/
def systemError (action path : Bytes) (errno : Errno) : Bytes :=
  if path = [] then message (action ++ ascii ": " ++ strerror errno)
  else formatSystemError action path errno

/--
`resolve_bare_argument_file`: whether the argument is to be read as a file.  What
`stat` does not know is left to be SQL.
-/
def resolveBareArgumentFile (environment : CliEnvironment) (dataDir : DataDir)
    (path : Bytes) : Except Bytes Bool :=
  match environment.stat dataDir path with
  | .ok .regular => .ok true
  | .ok .directory =>
      .error (message (ascii "path is a directory, not a SQL file: " ++ path))
  | .ok .other => .error (message (ascii "path is not a regular file: " ++ path))
  | .error .noEntry => .ok false
  | .error .notDirectory => .ok false
  | .error .illegalSequence => .ok false
  | .error errno => .error (systemError (ascii "failed to access SQL path") path errno)

def readEntireFile (environment : CliEnvironment) (dataDir : DataDir) (path : Bytes) :
    Except Bytes Bytes :=
  match environment.file dataDir path with
  | .ok contents => .ok (cString contents)
  | .error (.fopen errno) =>
      .error (systemError (ascii "failed to open SQL file") path errno)
  | .error .fseekEnd => .error (message (ascii "failed to seek SQL file: " ++ path))
  | .error .ftell => .error (message (ascii "failed to measure SQL file: " ++ path))
  | .error .fseekStart => .error (message (ascii "failed to rewind SQL file: " ++ path))
  | .error .malloc => .error (ascii "out of memory while reading SQL file")
  | .error .fread => .error (message (ascii "failed to read SQL file: " ++ path))

def loadSqlFromArgument (environment : CliEnvironment) (dataDir : DataDir) (value : Bytes)
    (forceFile : Bool) : Except Bytes Bytes :=
  if forceFile then readEntireFile environment dataDir value
  else
    match resolveBareArgumentFile environment dataDir value with
    | .error text => .error text
    | .ok true => readEntireFile environment dataDir value
    | .ok false => .ok value

/-- What `load_noninteractive_sql` comes to. -/
inductive SqlSource where
  | help
  | sql (text : Bytes)
  | failed (text : Bytes)
deriving DecidableEq

def SqlSource.of : Except Bytes Bytes -> SqlSource
  | .ok text => .sql text
  | .error text => .failed text

def successText (printed text : Bytes) (elapsed : Int) : Bytes :=
  printed ++ (if text = [] then [] else text ++ ascii "\n") ++
    ascii "Elapsed time: " ++ decimalMillionths elapsed ++ ascii " sec\n"

def executeSqlText (schemaDir : SchemaDir) (call : CliCall) (sqlText : Bytes)
    (state : EngineState) : EngineState × Bytes × Option Bytes :=
  if isBlankString sqlText then (state, [], some (ascii "missing SQL statement"))
  else
    match lexSql sqlText with
    | .error text => (state, [], some text)
    | .ok tokens =>
        match parseStatement tokens with
        | .error text => (state, [], some (message text))
        | .ok statement =>
            match executeStatement schemaDir statement call.faults state with
            | (after, executed, printed) =>
                if executed.ok then
                  (after, successText printed executed.message call.elapsed, none)
                else (after, printed, some (message executed.message))

/-- What a run of the program has printed and left behind. -/
structure CliRun where
  state : EngineState
  out : Bytes
  err : Bytes

def errorLine (text : Bytes) : Bytes :=
  ascii "error: " ++ text ++ ascii "\n"

def executeArgumentOrSql (environment : CliEnvironment) (call : CliCall) (value : Bytes)
    (forceFile : Bool) (state : EngineState) : CliRun × Bool :=
  match loadSqlFromArgument environment state.dataDir value forceFile with
  | .error text => ({ state := state, out := [], err := errorLine text }, false)
  | .ok sqlText =>
      match executeSqlText environment.schemaDir call sqlText state with
      | (after, printed, none) => ({ state := after, out := printed, err := [] }, true)
      | (after, printed, some text) =>
          ({ state := after, out := printed, err := errorLine text }, false)

inductive LineKind where
  | blank
  | leave
  | help
  | execute (input : Bytes)
deriving DecidableEq

/-- A line of the session, behind `strip_line_endings` and `trim_whitespace`. -/
def lineKind (line : Bytes) : LineKind :=
  let input := trimWhitespace (stripLineEndings (cString line))
  if input = [] then .blank
  else if input ∈ [ascii ".exit", ascii ".quit", ascii "exit", ascii "quit"] then .leave
  else if input ∈ [ascii ".help", ascii "help"] then .help
  else .execute input

/-- The size of the line buffer of `run_repl`. -/
def replLineSize : Nat := 4096

def CliRun.behind (out err : Bytes) (run : CliRun) : CliRun :=
  { run with out := out ++ run.out, err := err ++ run.err }

end App
end SqlCsvServer

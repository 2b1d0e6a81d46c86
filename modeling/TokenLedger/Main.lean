import TokenLedger.Startup

/-!
# The program

Starts a node in the home directory given as the first argument, and ends when the genesis state is
loaded. Everything but reading files, variables and arguments is decided in `Startup.run`.
-/

namespace TokenLedger.Program

/-- Why a file could not be read, in the terms of a start. -/
def failureOf : IO.Error → ReadFailure
  | .noFileOrDirectory .. => .notFound
  | .inappropriateType _ code details =>
    if code = 20 then .notDirectory else if code = 21 then .isDirectory else .other details
  | .invalidArgument _ code details => if code = 36 then .nameTooLong else .other details
  | failure => .other (toString failure)

/-- Reads a file. -/
def readFile (path : String) : IO FileRead := do
  if path.toList.contains '\x00' then return .error .nulInPath
  try
    let bytes ← IO.FS.readBinFile path
    match String.fromUTF8? bytes with
    | some text => return .ok text
    | none => return .error .notText
  catch failure => return .error (failureOf failure)

/-- The variables a start looks at. -/
def watched : List String :=
  ["BK_CHAIN_ID", "BK_HOME", "BK_GENESIS", "BK_SERVICE_NAME", "BK_LOG_LEVEL", "BK_JSON_LOGS",
    "RUST_LOG", "KUBERNETES_SERVICE_HOST", "DOCKER_CONTAINER"] ++
    NodeConfig.heightVariables.map NodeConfig.HeightVariable.name

/-- The environment of the process. -/
def environment : IO Environment := do
  let values ← watched.mapM fun name => return (name, ← IO.getEnv name)
  return fun name => (values.lookup name).join

/-- The record of the end as a line. -/
def line (started : Started) : String :=
  let height := Decimal.text started.result.height.toNat
  if started.telemetry.jsonLogs then
    (Json.record [("message", .text Started.message), ("height", .text height),
      ("app_hash", .text started.hashText)]).compact
  else Started.message ++ " height=" ++ height ++ " app_hash=" ++ started.hashText

end TokenLedger.Program

open TokenLedger in
/-- Starts a node. -/
def main (arguments : List String) : IO UInt32 := do
  match ← (Startup.run Program.readFile arguments.head? (← Program.environment)).run with
  | .ok started =>
    if started.recorded then IO.println (Program.line started)
    return 0
  | .error cause =>
    IO.eprintln cause.report
    return cause.exitCode.toUInt32

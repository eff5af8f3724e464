import SqlFrontEnd.CommandLine.Run

/-!
# The program

The thin layer around a run: it asks the system for the files that the command line names, reads
standard input if the run may want it, and tells what the run reports.  What is to be served it only
announces; serving it is left to whoever embeds the site.  A line of the log starts with the time in
milliseconds.
-/

open SqlFrontEnd CommandLine

/-- The error that a failure of the system is. -/
def SqlFrontEnd.FileError.ofSystem : IO.Error → FileError
  | .noFileOrDirectory _ code wording | .interrupted _ code wording
  | .invalidArgument _ code wording | .permissionDenied _ code wording
  | .resourceExhausted _ code wording | .inappropriateType _ code wording
  | .noSuchThing _ code wording | .alreadyExists _ code wording
  | .otherError code wording | .resourceBusy code wording | .resourceVanished code wording
  | .unsupportedOperation code wording | .hardwareFault code wording
  | .unsatisfiedConstraints code wording | .illegalOperation code wording
  | .protocolError code wording | .timeExpired code wording => ⟨code.toNat, wording⟩
  | .unexpectedEof => ⟨5, "Input/output error"⟩
  | .userError wording => ⟨5, wording⟩

/-- The outcome of an action, with its failure as an error. -/
def answerOf {α : Type} (action : IO α) : IO (Except FileError α) := do
  try
    return .ok (← action)
  catch failure =>
    return .error (.ofSystem failure)

/-- What the system answers on a path. -/
structure SystemAnswer where
  regular : Except FileError Bool
  content : Except FileError (List UInt8)

/-- Asks the system about a path. -/
def askSystem (path : Path) : IO SystemAnswer := do
  let text := path.toString
  let regular ← answerOf do
    match (← (← IO.FS.realPath text).metadata).type with
    | .file => return true
    | _ => return false
  let content ← answerOf do
    return (← IO.FS.readBinFile text).toList
  return ⟨regular, content⟩

/-- The libraries of this program word nothing further, and do not run out of stack. -/
def ownLibraries : Libraries where
  malformed _ := "not well-formed"
  invalid _ details := String.intercalate "\n" (details.map (·.fault.message))
  exhausted? _ := none

/-- What the system has for a command line. -/
def systemSurroundings (words : List String) : IO Surroundings := do
  let invocation? := (Invocation.ofWords words).toOption
  let directory := Path.ofString (← IO.currentDir).toString
  let paths := ((invocation?.map (·.paths directory)).getD []).filter (!·.hasNull)
  let answers ← paths.mapM fun path => return (path, ← askSystem path)
  let answer (path : Path) : SystemAnswer :=
    (answers.lookup path).getD ⟨.error .notFound, .error .notFound⟩
  let octets ← if invocation?.any (·.readsInput) then
      answerOf do return (← (← IO.getStdin).readBinToEnd).toList
    else pure (.ok [])
  return {
    files := ⟨fun path => (answer path).regular, fun path => (answer path).content⟩
    directory
    input := ⟨octets, .strict, false⟩
    libraries := ownLibraries }

/-- The program. -/
def main (words : List String) : IO UInt32 := do
  let time := Decimal.text (← IO.monoMsNow)
  match run words (← systemSurroundings words) with
  | .error cause =>
    IO.eprintln cause.message
    return 1
  | .ok report =>
    IO.eprint (report.standardError time)
    IO.print report.output.asString
    return UInt32.ofNat report.exit

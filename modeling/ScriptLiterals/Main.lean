import ScriptLiterals.CommandLine.Run

/-!
# The program

Reads files and the standard input, prints, and exits. Everything else is
`ScriptLiterals.CommandLine.run`.
-/

set_option autoImplicit false

namespace ScriptLiterals.CommandLine

/-- The text of some bytes, if they are text. -/
def decodeText (bytes : ByteArray) : Except ReadFault (List Char) :=
  match String.fromUTF8? bytes with
  | some text => .ok text.toList
  | none => .error .notText

/-- The fault that an error of the system is. -/
def readFaultOf : IO.Error → ReadFault
  | .noFileOrDirectory .. => .missing
  | .inappropriateType .. => .directory
  | .noSuchThing .. => .notDirectory
  | e => .other (toString e)

/-- The contents of a file. -/
def readTextFile (path : String) : IO (Except ReadFault (List Char)) :=
  try
    pure (decodeText (← IO.FS.readBinFile path))
  catch e =>
    pure (.error (readFaultOf e))

/-- All of the standard input. What is not text is as good as absent. -/
def readStandardInput : IO (List Char) := do
  let bytes ← (← IO.getStdin).readBinToEnd
  pure ((decodeText bytes).toOption.getD [])

/-- Runs the program and prints what it has to say. -/
def runAndPrint (arguments : List String) : IO UInt32 := do
  let outcome ← run readTextFile readStandardInput arguments
  (← IO.getStdout).putStr outcome.out
  (← IO.getStderr).putStr outcome.err
  pure outcome.exitCode.toUInt32

end ScriptLiterals.CommandLine

/-- The program. -/
def main (arguments : List String) : IO UInt32 := ScriptLiterals.CommandLine.runAndPrint arguments

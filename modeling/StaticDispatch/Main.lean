import StaticDispatch.CommandLine.Run

/-!
Contract: the program around the command line.

The two files that the options name are read up front, so that the run itself is
a function of what they hold.

Owns: reading files, printing and the exit code.
Does not own: anything that the run decides.
-/

namespace StaticDispatch.CommandLine

def faultOfError : IO.Error → FileFault
  | .inappropriateType _ code _ => if code = 21 then .isFolder else .notFolder
  | .invalidArgument _ code _ => if code = 36 then .nameTooLong else .notFound
  | _ => .notFound

def readBytes (path : String) : IO (Except FileFault (List UInt8)) := do
  try
    let bytes ← IO.FS.readBinFile path
    return .ok bytes.toList
  catch fault =>
    return .error (faultOfError fault)

def namedPaths (words : List String) : List String :=
  match Options.read words with
  | .error _ => []
  | .ok options => (options.source :: options.config.toList).map plainPath

def crashMessage : Crash → String
  | .undecodable fault => "UnicodeDecodeError: " ++ fault.message
  | .tooManyDigits fault => "ValueError: " ++ fault.message
  | .tooDeep container => "RecursionError: " ++ container.depthMessage
  | .nullInPath => "ValueError: embedded null byte"
  | .noValue name => noValueMessage name
  | .literal .malformedText => "SyntaxError"
  | .literal fault => "ValueError: " ++ fault.message
  | .types fault => fault.message
  | .resolution fault => fault.message
  | .wrapper fault => fault.message

end StaticDispatch.CommandLine

open StaticDispatch.CommandLine

def main (words : List String) : IO UInt32 := do
  let files ← (namedPaths words).mapM fun path => return (path, ← readBytes path)
  let reader : Reader := fun path => (files.lookup path).getD (.error .notFound)
  match run reader words with
  | .ok output =>
      (← IO.getStdout).putStr output.stdout
      (← IO.getStderr).putStr output.stderr
      return output.exitCode.toUInt32
  | .error crash =>
      (← IO.getStderr).putStr (crashMessage crash ++ "\n")
      return 1

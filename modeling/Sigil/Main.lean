import Sigil.CommandLine.Run
import Sigil.Server.Wire

/-! # The program

    Reads files, standard input and the command line, and prints what the library
    makes of them. -/

namespace Sigil

/-- What kept a file from being read. -/
def failureOf : IO.Error → ReadFailure
  | .noFileOrDirectory .. => .notFound
  | .permissionDenied .. => .permissionDenied
  | .inappropriateType _ code _ => if code = 21 then .isDirectory else .notDirectory
  | .invalidArgument .. => .nameTooLong
  | .interrupted .. => .interrupted
  | .timeExpired .. => .timedOut
  | _ => .unexpectedEnd

/-- Read a file. -/
def readFile (path : Text) : IO (Except ReadFailure Text) := do
  try
    return Text.decode (← IO.FS.readBinFile (String.ofList path))
  catch e =>
    return .error (failureOf e)

/-- Read some files, and answer for them from then on. -/
def readFiles (paths : List Text) : IO (Text → Except ReadFailure Text) := do
  let entries ← paths.mapM fun path => do
    return (path, ← readFile path)
  return fun path => (Table.get? path entries).getD (.error .notFound)

/-- Read exactly this many bytes, or fewer at the end of the input. -/
partial def readExactly (input : IO.FS.Stream) (count : Nat) (before : ByteArray) :
    IO ByteArray := do
  if count = 0 then return before
  let bytes ← input.read count.toUSize
  if bytes.isEmpty then return before
  readExactly input (count - bytes.size) (before ++ bytes)

/-- Read the lines before a message, for the number of its bytes. -/
partial def readLength (input : IO.FS.Stream) (length? : Option Nat) : IO (Option Nat) := do
  let line ← input.getLine
  if line.isEmpty then return none
  let line := Text.trim line.toList
  if line.isEmpty then return length?
  readLength input (Wire.contentLength? line <|> length?)

/-- Read a message, unless the input ends. -/
def readMessage (input : IO.FS.Stream) : IO (Option Message) := do
  match ← readLength input none with
  | none => return none
  | some length =>
    match Text.decode (← readExactly input length ByteArray.empty) with
    | .ok body => return Wire.message? body
    | .error _ => return none

/-- Take part in a connection until it ends. -/
partial def converse (input output : IO.FS.Stream) (c : Connection) : IO Connection := do
  if !c.isOpen then return c
  match ← readMessage input with
  | none => return c
  | some m =>
    let (next, replies) := c.step (← readFiles (c.wanted? m).toList) m
    for reply in replies do
      output.putStr (String.ofList (Wire.encode reply))
    output.flush
    converse input output next

/-- Print what a command leaves behind. -/
def finish (outcome : Outcome) : IO UInt32 := do
  (← IO.getStdout).putStr (String.ofList outcome.output)
  (← IO.getStderr).putStr (String.ofList outcome.errors)
  return outcome.exitCode.toUInt32

/-- Serve an editor on standard input and output. -/
def serve (read : Text → Except ReadFailure Text) (options : Options) : IO UInt32 := do
  match options.loadCatalog read with
  | .error line => finish { exitCode := 1, output := [], errors := unlines [line] }
  | .ok catalog =>
    let last ← converse (← IO.getStdin) (← IO.getStdout) (.waiting catalog)
    return if last.isComplete then 0 else 1

end Sigil

open Sigil in
/-- The program. -/
def main (args : List String) : IO UInt32 := do
  match Command.parse (args.map String.toList) with
  | .error error => finish error.outcome
  | .ok command =>
    let read ← readFiles command.paths
    match command with
    | .language options => serve read options
    | command => finish (command.run read)

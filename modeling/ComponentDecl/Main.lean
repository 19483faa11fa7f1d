import ComponentDecl.Command

/-!
# The program

Reads files and the standard input, and writes what the command says.
-/

namespace ComponentDecl

def textOfBytes (bytes : ByteArray) : Except ReadFault Text :=
  match String.fromUTF8? bytes with
  | some s => .ok s.toList
  | none => .error .notText

def faultOf : IO.Error → ReadFault
  | .noFileOrDirectory _ _ _ => .absent
  | .inappropriateType _ code _ => if code == 20 then .notFolder else .isFolder
  | _ => .absent

def readFile (path : Text) : IO (Except ReadFault Text) := do
  let name := if path.isEmpty then "." else String.ofList path
  try
    return textOfBytes (← IO.FS.readBinFile name)
  catch e => return .error (faultOf e)

def canOpen (path : Text) : IO Bool := do
  let name := if path.isEmpty then "." else String.ofList path
  try
    let _ ← IO.FS.Handle.mk name .read
    return true
  catch _ => return false

partial def readStream (s : IO.FS.Stream) (bytes : ByteArray) : IO ByteArray := do
  let more ← s.read 65536
  if more.isEmpty then return bytes else readStream s (bytes ++ more)

def realDisk : IO (Disk IO) := do
  return {
    folder := (← IO.currentDir).toString.toList
    holds := canOpen
    read := readFile
    input := do return textOfBytes (← readStream (← IO.getStdin) ByteArray.empty) }

end ComponentDecl

def main (arguments : List String) : IO UInt32 := do
  let disk ← ComponentDecl.realDisk
  let outcome ← ComponentDecl.Outcome.run disk (arguments.map String.toList)
  (← IO.getStdout).putStr (String.ofList outcome.output)
  (← IO.getStderr).putStr (String.ofList outcome.errors)
  return outcome.status.toUInt32

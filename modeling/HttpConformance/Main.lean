import HttpConformance.Host.Files
import HttpConformance.Host.Network
import HttpConformance.Program

/-!
# The command

The program on the machine it is started on.
-/

namespace HttpConformance

/-- The environment of the process, as far as the program reads it. -/
def Host.environment : IO Configuration.Environment := do
  let values ← Configuration.environmentVariables.mapM fun name => do
    return (name, (← IO.getEnv (String.ofList name)).map String.toList)
  return fun name => (values.lookup name).join

/-- A random identifier, written in hexadecimal digits in five groups. -/
def Host.freshId : IO Text := do
  let bytes := (← IO.getRandomBytes 16).toList.map UInt8.toNat
  let digits := bytes.zipIdx.flatMap fun (byte, place) =>
    let byte := if place = 6 then 64 + byte % 16 else if place = 8 then 128 + byte % 64 else byte
    [Nat.digitChar (byte / 16), Nat.digitChar (byte % 16)]
  let group (start size : Nat) : Text := (digits.drop start).take size
  return Text.join ['-'] [group 0 8, group 8 4, group 12 4, group 16 4, group 20 12]

/-- The machine that the program is started on. -/
def Host.machine : IO (Machine IO) := do
  return {
    files := Host.files
    network := Host.network
    environment := ← Host.environment
    freshId := Host.freshId
    print := fun text => do
      IO.print (String.ofList text)
      (← IO.getStdout).flush
    complain := fun text => IO.eprint (String.ofList text) }

end HttpConformance

/-- Runs the program with the arguments of the command line. -/
def main (arguments : List String) : IO UInt32 := do
  let machine ← HttpConformance.Host.machine
  return (← HttpConformance.Program.run machine (arguments.map String.toList)).toUInt32

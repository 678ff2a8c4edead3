import TypeRepair.Program.Machine
import TypeRepair.Repair.Rehearsal

/-!
# Rehearsals of the program

A machine whose checker and network answer from scripts, and which keeps what was executed and
sent.
-/

namespace TypeRepair.Host

/-- A network whose services answer from a script. -/
structure Network where
  /-- Whether a connection can be made at all. -/
  reachable : Bool
  /-- What comes of each request that is received; the last delivery stays. -/
  deliveries : List Http.Delivery
  /-- The requests that were received. -/
  received : List Http.Request

namespace Network

/-- The delivery of a script that holds none: success with an empty body. -/
def silence : Http.Delivery := .answered (.ofText 200 "")

/-- Sends a request. Without a connection nothing is received. -/
def send (network : Network) (request : Http.Request) : Http.Delivery × Network :=
  if network.reachable then
    let (delivery, rest) := Repair.nextOf silence network.deliveries
    (delivery, { network with deliveries := rest, received := network.received ++ [request] })
  else (.unanswered, network)

end Network

/-- A checker that answers from a script. -/
structure ScriptedChecker where
  /-- Whether its program can be found. -/
  installed : Bool
  /-- What each pass leaves; the last output stays. -/
  outputs : List Checker.Output
  /-- The arguments of the passes that were made. -/
  executed : List (List String)

/-- Starts the program of a scripted checker. -/
def ScriptedChecker.execute (checker : ScriptedChecker) (arguments : List String) :
    Except SystemFault Checker.Output × ScriptedChecker :=
  if arguments.any fun argument => argument.toList.contains '\x00' then
    (.error .nulInArgument, checker)
  else if checker.installed then
    let (output, rest) := Repair.nextOf ⟨[], [], some 0⟩ checker.outputs
    (.ok output, { checker with outputs := rest, executed := checker.executed ++ [arguments] })
  else (.error .notFound, checker)

/-- What is outside of a rehearsed machine. -/
structure Script where
  checker : ScriptedChecker
  network : Network

/-- Programs and services that answer from a script; every program is the checker. -/
def scripted : Outside Script where
  execute _ arguments _ script :=
    let (answer, checker) := script.checker.execute arguments
    (answer, { script with checker := checker })
  send request script :=
    let (delivery, network) := script.network.send request
    (delivery, { script with network := network })

end TypeRepair.Host

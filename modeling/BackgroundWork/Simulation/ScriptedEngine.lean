import BackgroundWork.Engine.Bridge

set_option autoImplicit false

/-!
An engine that answers by script. Each entry point has a list of answers, used in order, the last
of which is used again and again; an answer that is added later takes its place. The engine counts
the responses that it hands out and gets back.
-/

namespace BackgroundWork.Simulation

open Engine (Bridge.Op Buffer Call RawReply)
open Text (Terminated)

/-- A scripted answer. -/
structure ScriptedReply where
  status : Int32
  /-- The response, up to its first zero. -/
  body : Option (List UInt8)
  /-- What the engine has to say about its last failure from then on. -/
  lastError : Option String
  /-- The engine does not come back but fails with this message. -/
  panic : Option String

/-- The answer of an entry point without a script. -/
def ScriptedReply.usual (call : Call) : ScriptedReply where
  status := 0
  body := if call.returnsPayload then some (Text.Utf8.encode "\x7b\x7d") else none
  lastError := none
  panic := none

/-- The answers of an entry point. -/
structure Script where
  /-- The answer used last. -/
  used : Option ScriptedReply
  /-- The answers to come. -/
  coming : List ScriptedReply

/-- An engine that answers by script. -/
structure ScriptedEngine where
  scripts : List (Call × Script)
  lastError : Option String
  /-- The responses that were not given back, by their addresses. -/
  memory : List (Nat × Terminated)
  /-- How many responses were handed out. -/
  buffers : Nat
  lastErrorReads : Nat

namespace ScriptedEngine

/-- An engine without a script. -/
def new : ScriptedEngine := ⟨[], none, [], 0, 0⟩

/-- The script of an entry point. -/
def script (engine : ScriptedEngine) (call : Call) : Script :=
  ((engine.scripts.find? (·.1 == call)).map Prod.snd).getD ⟨none, []⟩

/-- Replaces the script of an entry point. -/
def setScript (engine : ScriptedEngine) (call : Call) (script : Script) : ScriptedEngine :=
  { engine with scripts := (call, script) :: engine.scripts.filter (·.1 != call) }

/-- Adds an answer to the script of an entry point. -/
def add (engine : ScriptedEngine) (call : Call) (reply : ScriptedReply) : ScriptedEngine :=
  let script := engine.script call
  engine.setScript call { script with coming := script.coming ++ [reply] }

/-- The next answer of an entry point. -/
def next (engine : ScriptedEngine) (call : Call) : ScriptedReply × ScriptedEngine :=
  let script := engine.script call
  match script.coming, script.used with
  | reply :: coming, _ => (reply, engine.setScript call ⟨some reply, coming⟩)
  | [], some reply => (reply, engine)
  | [], none => (.usual call, engine)

/-- Puts a response into memory. -/
def allocate (engine : ScriptedEngine) (content : Terminated) : Nat × ScriptedEngine :=
  (engine.buffers,
    { engine with
      memory := (engine.buffers, content) :: engine.memory
      buffers := engine.buffers + 1 })

/-- Answers at an entry point. -/
def invoke (engine : ScriptedEngine) (call : Call) : Except String RawReply × ScriptedEngine :=
  let (reply, engine) := engine.next call
  let engine := { engine with lastError := reply.lastError.or engine.lastError }
  match reply.panic, reply.body with
  | some message, _ => (.error message, engine)
  | none, none => (.ok (.statusOnly reply.status), engine)
  | none, some body =>
    let (address, engine) := engine.allocate (.cut body)
    (.ok ⟨reply.status, some ⟨address, call.deallocator⟩⟩, engine)

/-- The response at an address. -/
def read (engine : ScriptedEngine) (address : Nat) : Terminated :=
  ((engine.memory.find? (·.1 == address)).map Prod.snd).getD (.cut [])

/-- Takes a response back. -/
def release (engine : ScriptedEngine) (address : Nat) : ScriptedEngine :=
  { engine with memory := engine.memory.filter (·.1 != address) }

/-- What the engine answers at the boundary. -/
def answer (op : Engine.Bridge.interface.Op) (engine : ScriptedEngine) :
    Engine.Bridge.interface.Answer op × ScriptedEngine :=
  match op with
  | .invoke call _ _ => engine.invoke call
  | .read buffer => (engine.read buffer.address, engine)
  | .release buffer => ((), engine.release buffer.address)
  | .lastError =>
    (engine.lastError, { engine with lastErrorReads := engine.lastErrorReads + 1 })

end ScriptedEngine
end BackgroundWork.Simulation

import BackgroundWork.Engine.Client
import BackgroundWork.Engine.Native
import BackgroundWork.Simulation.ScriptedEngine

set_option autoImplicit false

/-!
One call through the engine's symbols, with a note of each use of a symbol.
-/

namespace BackgroundWork.Simulation.Symbols

open Engine (Call Deallocator Native.bridged)
open Text (Terminated)

/-- What the engine's symbols do. -/
structure Behaviour where
  status : Int32
  /-- What entry points that have a response write. -/
  body : Option (List UInt8)
  lastError : Option (List UInt8)

/-- A function that the engine exports. -/
structure Function where
  symbol : String

/-- A use of a symbol. -/
inductive Use where
  | entered (function : Function) (payload token : Option Terminated)
  | freed (deallocator : Deallocator) (content : Terminated)
  | askedLastError

/-- The engine's memory and the uses of its symbols so far. -/
structure World where
  behaviour : Behaviour
  memory : List (Nat × Terminated)
  fresh : Nat
  uses : List Use

namespace World

/-- Notes a use. -/
def note (world : World) (use : Use) : World :=
  { world with uses := world.uses ++ [use] }

/-- Puts a text into memory, if there is one. -/
def allocate (world : World) : Option (List UInt8) → Option Nat × World
  | none => (none, world)
  | some bytes =>
    (some world.fresh,
      { world with
        memory := (world.fresh, .cut bytes) :: world.memory
        fresh := world.fresh + 1 })

/-- The text at an address. -/
def content (world : World) (address : Nat) : Terminated :=
  ((world.memory.find? (·.1 == address)).map Prod.snd).getD (.cut [])

/-- What the engine's symbols answer. -/
def answer (op : Engine.Native.interface.Op) (world : World) :
    Engine.Native.interface.Answer op × World :=
  match op with
  | .enter symbol arguments =>
    -- Where a token is handed over, it comes after the request.
    let texts := arguments.filterMap fun
      | .text content => some content
      | .place => none
    let world := world.note (.entered ⟨symbol⟩ texts[0]? texts[1]?)
    let (address, world) :=
      world.allocate (if .place ∈ arguments then world.behaviour.body else none)
    ((world.behaviour.status, address), world)
  | .read address => (world.content address, world)
  | .free deallocator address =>
    let world := world.note (.freed deallocator (world.content address))
    ((), { world with memory := world.memory.filter (·.1 != address) })
  | .getLastError => (world.note .askedLastError).allocate world.behaviour.lastError

end World

/-- What a bare call comes to. -/
structure BareReply where
  status : Int32
  body : Option (Except Text.Utf8.Fault String)
  /-- What the engine had to say about its last failure, if it was asked. -/
  lastError : Option (Option String)

/-- A bare call, after which the engine may be asked for its last failure. -/
def bare (call : Call) (payload : String) (token : Option String) (asksLastError : Bool) :
    Program Engine.Bridge.interface (Except String BareReply) := do
  match ← Engine.Bridge.invoke call payload token with
  | .error message => return .error message
  | .ok raw =>
    let body : Option (Except Text.Utf8.Fault String) ←
      match raw.buffer with
      | none => pure none
      | some buffer => (Engine.Bridge.takeText buffer).bind fun text => pure (some text)
    let lastError : Option (Option String) ←
      if asksLastError then Engine.Bridge.lastError.bind fun text => pure (some text)
      else pure none
    return .ok { status := raw.status, body, lastError }

/-- What a program comes to at new symbols, and how it used them. -/
def run {α : Type} (behaviour : Behaviour) (program : Program Engine.Bridge.interface α) :
    α × List Use :=
  let (value, world) := (Native.bridged program).run World.answer ⟨behaviour, [], 0, []⟩
  (value, world.uses)

/-! ### A single response -/

/-- Where a response comes from. -/
inductive Source where
  /-- A text of the application's own. -/
  | text (text : String)
  /-- The engine wrote no response. -/
  | nothing
  /-- The engine's memory. -/
  | memory (bytes : List UInt8)

/-- What is seen of a response. -/
structure ResponseReport where
  text : Option (Except Text.Utf8.Fault String)
  /-- How often the engine's deallocator was called before the response was let go of. -/
  releasedBefore : Nat
  /-- How often the engine's deallocator was called. -/
  released : Nat

/-- Reads a response and lets go of it. -/
def response : Source → ResponseReport
  | .text text => ⟨(Terminated.ofText? text).map Terminated.text, 0, 0⟩
  | .nothing => ⟨none, 0, 0⟩
  | .memory bytes =>
    let (address, engine) := ScriptedEngine.new.allocate (.cut bytes)
    let text := (engine.read address).text
    let after := engine.release address
    ⟨some text, engine.buffers - engine.memory.length, after.buffers - after.memory.length⟩

/-- A response as text, for logs, without its address. -/
def ResponseReport.debugText (report : ResponseReport) : String :=
  if report.text.isSome then "Some(EngineBuffer \x7b ptr: 0x# \x7d)" else "None"

end BackgroundWork.Simulation.Symbols

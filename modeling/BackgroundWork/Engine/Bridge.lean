import BackgroundWork.Engine.Call
import BackgroundWork.Program
import BackgroundWork.Text.Terminated

set_option autoImplicit false

/-!
The boundary to the engine. An entry point answers with a status and, if it wrote a response, with
a buffer that the caller owns: the buffer is read in place and has to be given back once, to the
deallocator that belongs to it.
-/

namespace BackgroundWork.Engine

open Text (Terminated)

/-- What a text in shared memory is given back to. -/
inductive Deallocator where
  | compression
  | exports
  /-- For texts that describe the last error. -/
  | errorText
  deriving DecidableEq, Repr

/-- The symbol under which the engine exports a deallocator. -/
def Deallocator.symbol : Deallocator → String
  | compression => "compression_free"
  | exports => "export_free"
  | errorText => "free_string"

/-- The deallocator for the responses of an entry point. -/
def Call.deallocator : Call → Deallocator
  | exportByIds _ | getExportStatus => .exports
  | _ => .compression

/-- A response in shared memory. -/
structure Buffer where
  address : Nat
  deallocator : Deallocator
  deriving DecidableEq, Repr

/-- What an entry point answers with. -/
structure RawReply where
  status : Int32
  buffer : Option Buffer
  deriving DecidableEq, Repr

/-- An answer without a response. -/
def RawReply.statusOnly (status : Int32) : RawReply :=
  ⟨status, none⟩

namespace Bridge

/-- What can be asked at the boundary. -/
inductive Op where
  /-- Enters the engine with a request and perhaps a token. -/
  | invoke (call : Call) (payload : String) (token : Option String)
  | read (buffer : Buffer)
  | release (buffer : Buffer)
  /-- What the engine has to say about the last failure. -/
  | lastError
  deriving DecidableEq, Repr

/-- The boundary. An invocation that does not come back leaves a message. -/
@[reducible] def interface : Interface where
  Op := Op
  Answer
    | .invoke .. => Except String RawReply
    | .read _ => Terminated
    | .release _ => Unit
    | .lastError => Option String

/-- Enters the engine. -/
def invoke (call : Call) (payload : String) (token : Option String) :
    Program interface (Except String RawReply) :=
  .ask (.invoke call payload token) .done

/-- The text of a buffer, which is given back as soon as it is read. -/
def takeText (buffer : Buffer) : Program interface (Except Text.Utf8.Fault String) :=
  .ask (.read buffer) fun content => .ask (.release buffer) fun () => .done content.text

/-- What the engine has to say about the last failure. -/
def lastError : Program interface (Option String) :=
  .ask .lastError .done

end Bridge
end BackgroundWork.Engine

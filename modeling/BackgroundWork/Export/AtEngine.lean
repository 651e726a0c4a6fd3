import BackgroundWork.Engine.Client
import BackgroundWork.Export.Process

set_option autoImplicit false

/-!
Exports whose jobs run in the engine. A job is submitted through its domain's entry point, which is
the only one that is handed the token.
-/

namespace BackgroundWork.Export

open Engine (Call Client.callJson)

/-- A request for the status of a job. -/
def statusRequest (job : Uuid) : String :=
  String.ofList (Json.objectText [("job_id", Uuid.codec.encode job)])

namespace Capability

/-- What submitting a job and checking its status mean to the engine. -/
def atEngine (domain : Domain) :
    (op : interface.Op) → Program Engine.Bridge.interface (interface.Answer op)
  | .submit request =>
    Client.callJson Job.envelope.codec (.exportByIds domain)
      (.ok (String.ofList request.options)) (some request.authToken)
  | .poll job => Client.callJson Job.envelope.codec .getExportStatus (.ok (statusRequest job)) none

end Capability

/-- An export whose job runs in the engine. -/
def Process.atEngine (domain : Domain) (process : Process) :
    Program (Surroundings.interface.sum Engine.Bridge.interface) (Except ServiceError Outcome) :=
  process.translateRight (Capability.atEngine domain)

end BackgroundWork.Export

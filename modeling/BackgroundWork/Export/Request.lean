import BackgroundWork.Export.Format
import BackgroundWork.Text.Quoted

set_option autoImplicit false

/-!
A request for an export. The token goes to the engine beside the request; it is neither part of
the request's JSON nor shown in logs.
-/

namespace BackgroundWork.Export

open Json

/-- A request for an export. -/
structure Request where
  ids : List String
  includeBlobs : Bool
  format : Format
  targetPath : String
  authToken : String
  deriving DecidableEq, Repr

namespace Request

/-- The request as JSON. -/
def options (request : Request) : List Char :=
  objectText
    [("ids", listText (request.ids.map stringText)),
      ("include_blobs", boolText request.includeBlobs),
      ("target_path", stringText request.targetPath),
      ("format", request.format.encode)]

/-- The request as text, for logs. -/
def text (request : Request) : String :=
  "ExportRequest \x7b " ++ s!"ids: {Text.quotedList request.ids}, " ++
    s!"include_blobs: {request.includeBlobs}, format: {request.format.text}, " ++
    s!"target_path: {Text.quoted request.targetPath}, " ++
    "auth_token: \"<redacted>\" \x7d"

end Request
end BackgroundWork.Export

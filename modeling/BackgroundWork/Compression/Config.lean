import BackgroundWork.Json.Record

set_option autoImplicit false

/-!
How a document is to be compressed.
-/

namespace BackgroundWork.Compression

open Json

/-- What kind of compression is applied. -/
inductive Method where
  | lossless
  | lossy
  | pdfOptimize
  | officeOptimize
  | videoOptimize
  /-- No compression. -/
  | none
  deriving DecidableEq, Repr

namespace Method

/-- The spelling of a method. -/
def name : Method → String
  | lossless => "Lossless"
  | lossy => "Lossy"
  | pdfOptimize => "PdfOptimize"
  | officeOptimize => "OfficeOptimize"
  | videoOptimize => "VideoOptimize"
  | none => "None"

/-- The methods by name. -/
def enumeration : Enumeration Method where
  names := [lossless, lossy, pdfOptimize, officeOptimize, videoOptimize, none].map
    fun method => (method.name, method)
  name := name

end Method

/-- How a document is to be compressed. -/
structure Config where
  method : Method
  qualityLevel : Int32
  /-- Smaller documents are left as they are. -/
  minSizeBytes : Int64
  deriving DecidableEq, Repr

namespace Config

/-- The usual way. -/
def default : Config :=
  ⟨.lossless, 75, 10240⟩

/-- The way of compression as a record. -/
def record : Record Config where
  name := "CompressionConfig"
  types := [Method, Int32, Int64]
  fields :=
    .cons (.required "method" Method.enumeration.codec) <|
    .cons (.required "quality_level" .int32) <|
    .cons (.required "min_size_bytes" .int64) .nil
  make := fun (method, qualityLevel, minSizeBytes, ()) => { method, qualityLevel, minSizeBytes }
  parts config := (config.method, config.qualityLevel, config.minSizeBytes, ())
  isClosed := false

end Config
end BackgroundWork.Compression

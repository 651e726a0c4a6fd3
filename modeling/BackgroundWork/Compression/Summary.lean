import BackgroundWork.Compression.Config

set_option autoImplicit false

/-!
What compressing a document came to. The engine has several spellings for the members, all of
which are read.
-/

namespace BackgroundWork.Compression

open Json Numeric

/-- What compressing a document came to. -/
structure Summary where
  documentId : Option String
  bytesBefore : Int64
  bytesAfter : Int64
  percentSaved : Binary64
  compressedFilePath : Option String
  methodUsed : Option Method
  durationMs : Option Int64
  deriving DecidableEq

namespace Summary

/-- A summary as a record. -/
def record : Record Summary where
  name := "CompressionResult"
  types := [Option String, Int64, Int64, Binary64, Option String, Option Method, Option Int64]
  fields :=
    .cons (.optional "document_id" .string) <|
    .cons ((Field.required "bytes_before" .int64).orNamed ["original_size", "bytesBefore"]) <|
    .cons ((Field.required "bytes_after" .int64).orNamed ["compressed_size", "bytesAfter"]) <|
    .cons ((Field.required "percent_saved" .binary64).orNamed
      ["space_saved_percentage", "percentSaved"]) <|
    .cons (.optional "compressed_file_path" .string) <|
    .cons (.optional "method_used" Method.enumeration.codec) <|
    .cons (.optional "duration_ms" .int64) .nil
  make := fun (documentId, bytesBefore, bytesAfter, percentSaved, compressedFilePath, methodUsed,
      durationMs, ()) =>
    { documentId, bytesBefore, bytesAfter, percentSaved, compressedFilePath, methodUsed,
      durationMs }
  parts summary := (summary.documentId, summary.bytesBefore, summary.bytesAfter,
    summary.percentSaved, summary.compressedFilePath, summary.methodUsed, summary.durationMs, ())
  isClosed := false

/-- How much smaller the document became; nothing if it grew. The difference is one of 64 bits and
wraps. -/
def bytesSaved (summary : Summary) : Int :=
  (max (summary.bytesBefore - summary.bytesAfter) 0).toInt

end Summary
end BackgroundWork.Compression

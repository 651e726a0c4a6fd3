import BackgroundWork.Json.Value

set_option autoImplicit false

/-!
The file formats of exports, with the options of each. As JSON a format with options stands
under its name, and the options under `_0`.
-/

namespace BackgroundWork.Export

open Json
open Numeric (natText)

/-- Options for files of comma-separated values. -/
structure CsvOptions where
  delimiter : UInt8
  quoteChar : UInt8
  escapeChar : Option UInt8
  compress : Bool
  deriving DecidableEq, Repr

namespace CsvOptions

/-- Commas and double quotes, nothing escaped or compressed. -/
def default : CsvOptions := ⟨44, 34, none, false⟩

/-- The options as JSON. -/
def encode (options : CsvOptions) : List Char :=
  objectText
    [("delimiter", natText options.delimiter.toNat),
      ("quote_char", natText options.quoteChar.toNat),
      ("escape_char",
        match options.escapeChar with
        | some char => natText char.toNat
        | none => nullText),
      ("compress", boolText options.compress)]

/-- The options as text, for logs. -/
def text (options : CsvOptions) : String :=
  let escape :=
    match options.escapeChar with
    | some char => s!"Some({char})"
    | none => "None"
  "CsvOptions \x7b " ++ s!"delimiter: {options.delimiter}, quote_char: {options.quoteChar}, " ++
    s!"escape_char: {escape}, compress: {options.compress}" ++ " \x7d"

end CsvOptions

/-- How the columns of a Parquet file are compressed. -/
inductive ParquetCompression where
  | none
  | snappy
  | gzip
  | lzo
  | brotli
  | lz4
  | zstd
  deriving DecidableEq, Repr

namespace ParquetCompression

/-- All ways of compression. -/
def all : List ParquetCompression := [none, snappy, gzip, lzo, brotli, lz4, zstd]

/-- The spelling of a way of compression. -/
def name : ParquetCompression → String
  | none => "None"
  | snappy => "Snappy"
  | gzip => "Gzip"
  | lzo => "Lzo"
  | brotli => "Brotli"
  | lz4 => "Lz4"
  | zstd => "Zstd"

end ParquetCompression

/-- Options for Parquet files. -/
structure ParquetOptions where
  compression : ParquetCompression
  rowGroupSize : UInt64
  enableStatistics : Bool
  deriving DecidableEq, Repr

namespace ParquetOptions

/-- Snappy in groups of ten thousand rows, with statistics. -/
def default : ParquetOptions := ⟨.snappy, 10000, true⟩

/-- The options as JSON. -/
def encode (options : ParquetOptions) : List Char :=
  objectText
    [("compression", stringText options.compression.name),
      ("row_group_size", natText options.rowGroupSize.toNat),
      ("enable_statistics", boolText options.enableStatistics)]

/-- The options as text, for logs. -/
def text (options : ParquetOptions) : String :=
  "ParquetOptions \x7b " ++ s!"compression: {options.compression.name}, " ++
    s!"row_group_size: {options.rowGroupSize}, " ++
    s!"enable_statistics: {options.enableStatistics}" ++ " \x7d"

end ParquetOptions

/-- The format of an exported file. -/
inductive Format where
  | jsonLines
  | csv (options : CsvOptions)
  | parquet (options : ParquetOptions)
  deriving DecidableEq, Repr

namespace Format

/-- The format unless another is asked for. -/
def default : Format := jsonLines

/-- How the names of files of a format end. -/
def fileExtension : Format → String
  | jsonLines => "jsonl"
  | csv _ => "csv"
  | parquet _ => "parquet"

/-- Options under the name of their format. -/
def associated (name : String) (options : List Char) : List Char :=
  objectText [(name, objectText [("_0", options)])]

/-- A format as JSON. -/
def encode : Format → List Char
  | jsonLines => stringText "jsonLines"
  | csv options => associated "csv" options.encode
  | parquet options => associated "parquet" options.encode

/-- A format as text, for logs. -/
def text : Format → String
  | jsonLines => "JsonLines"
  | csv options => s!"Csv({options.text})"
  | parquet options => s!"Parquet({options.text})"

end Format
end BackgroundWork.Export

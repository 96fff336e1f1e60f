import SiteSnapshot.Export.Report
import SiteSnapshot.Json.Write

/-!
# Printing a report

A report is printed for people, as a table of the failed pages and a summary, or as JSON.
-/

namespace SiteSnapshot.Cli

/-- A text filled up with spaces to a width. -/
def padRight (width : Nat) (text : String) : String :=
  text ++ String.ofList (List.replicate (width - text.length) ' ')

/-- A row of the table. -/
def row (page error : String) : String :=
  padRight 50 page ++ " " ++ padRight 55 error

/-- The path of a page, cut so that the columns line up. -/
def shortPath (path : String) : String :=
  if path.length > 47 then String.ofList (path.toList.take 47) ++ "..." else path

/-- The table of the failed pages, if there are any. -/
def failureLines (failures : List PageFailure) : List String :=
  if failures.isEmpty then []
  else
    [row "PAGE" "ERROR", String.ofList (List.replicate 105 '=')] ++
      failures.map (fun f => row (shortPath f.path) f.cause.message) ++ [""]

/-- The summary. -/
def summaryLines (r : Report) (out : FilePath) : List String :=
  ["📊 Summary:",
   "   📄 Pages written: " ++ toString r.pagesWritten,
   "   📦 Assets written: " ++ toString r.assetsWritten,
   "   ❌ Failed pages: " ++ toString r.failures.length,
   "   📁 Output: " ++ out]

/-- Lines as text. -/
def printLines (lines : List String) : String :=
  String.join (lines.map (· ++ "\n"))

/-- A report for people. -/
def printTable (r : Report) (out : FilePath) : String :=
  printLines (failureLines r.failures ++ summaryLines r out)

/-- A natural number in JSON. -/
def jsonOfNat (n : Nat) : Json :=
  .number (.ofNat n)

/-- A report as JSON. -/
def jsonOfReport (r : Report) : Json :=
  .object
    [("pages_written", jsonOfNat r.pagesWritten),
     ("assets_written", jsonOfNat r.assetsWritten),
     ("failures", .array (r.failures.map fun f =>
        .object [("url_path", .string f.path), ("error", .string f.cause.message)] none) none)]
    none

/-- A list of paths as JSON. -/
def jsonOfPaths (paths : List String) : Json :=
  .array (paths.map .string) none

/-- A value of JSON as it is printed. -/
def printJson (value : Json) : String :=
  value.write ++ "\n"

end SiteSnapshot.Cli

import PageHarvest.Script.Statement
import PageHarvest.Job.Basic

namespace PageHarvest.Script

/-- Printed by a script that collected nothing. -/
def noDataNotice : String := "No data extracted."

def outputModule? : OutputFormat → Option String
  | .csv => some "csv"
  | .json => some "json"
  | .print => none

def isSimple (e : Extraction) : Bool :=
  e.mode == .simple

/-- Opens the output file for what `body` writes; `options` go between the mode and the encoding. -/
def openOutput (options : List Piece) (body : List Statement) : Statement :=
  .block
    ([.code "with open(output_path, ", .quoted "w", .code ", "] ++ options ++
      [.code "encoding=", .quoted "utf-8", .code ") as handle:"])
    body

def csvOutput (e : Extraction) : Statement :=
  openOutput [.code "newline=", .quoted "", .code ", "]
    (if isSimple e then
      [ .code "writer = csv.writer(handle)",
        .line [.code "writer.writerow([", .quoted e.simpleField.name, .code "])"],
        .code "writer.writerows([value] for value in all_data)" ]
    else
      [ .line [
          .code "writer = csv.DictWriter(handle, fieldnames=list(all_data[0].keys()), ",
          .code "extrasaction=",
          .quoted "ignore", .code ")"],
        .code "writer.writeheader()",
        .code "writer.writerows(all_data)" ])

def jsonOutput (e : Extraction) : Statement :=
  openOutput []
    [ if isSimple e then
        .line [
          .code "json.dump(\x7b", .quoted e.simpleField.name,
          .code ": all_data\x7d, handle, indent=2, ensure_ascii=False)"]
      else .code "json.dump(all_data, handle, indent=2, ensure_ascii=False)" ]

def printOutput (e : Extraction) : List Statement :=
  let noun := if isSimple e then "values" else "records"
  [ .under "for index, item in enumerate(all_data, start=1):"
      [.print [.hole "index", .plain ": ", .hole "item"]],
    .print [.hole "len(all_data)", .plain (" " ++ noun ++ " extracted.")] ]

def savedOutput (fileName : String) (writing : Statement) : List Statement :=
  [ .code "os.makedirs(PROJECT_FOLDER, exist_ok=True)",
    .line [.code "output_path = os.path.join(PROJECT_FOLDER, ", .quoted fileName, .code ")"],
    writing,
    .print [
      .plain "Saved ", .hole "len(all_data)", .plain " records to ", .hole "output_path"] ]

def outputBody (e : Extraction) : OutputFormat → List Statement
  | .csv => savedOutput "output.csv" (csvOutput e)
  | .json => savedOutput "output.json" (jsonOutput e)
  | .print => printOutput e

def outputStatements (e : Extraction) (format : OutputFormat) : List Statement :=
  [ .under "if not all_data:" [.line [.code "print(", .quoted noDataNotice, .code ")"]],
    .under "else:" (outputBody e format) ]

end PageHarvest.Script

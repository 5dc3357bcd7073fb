import PageHarvest.Proofs.Script.Controls

namespace PageHarvest

def Python.comment? (line : List Char) : Option (List Char) :=
  match line.dropWhile Text.isBlank with
  | '#' :: ' ' :: text => some text
  | '#' :: text => some text
  | _ => none

namespace Script

open Python

mutual

def Statement.comments : Statement → List String
  | .comment text => [text]
  | .line _ | .blank => []
  | .block _ body => allComments body

def allComments : List Statement → List String
  | [] => []
  | s :: rest => s.comments ++ allComments rest

end

namespace Row

variable {tabs : Bool} {r : Row}

def comment? : Row → Option (List Char)
  | comment _ text => some text
  | gap | code _ _ => none

end Row

mutual

theorem comments_rows {s : Statement} (h : s.isTidy = true) (depth : Nat) :
    (s.rows depth).filterMap Row.comment? = s.comments.map String.toList := by
  cases s with
  | line pieces => rfl
  | comment text =>
    rw [Statement.rows, commentRows_of_isTidy h]
    rfl
  | blank => rfl
  | block header body =>
    simp only [Statement.isTidy, Bool.and_eq_true] at h
    cases body with
    | nil => rfl
    | cons s rest =>
      have inside := comments_rowsAll h.2 (depth + 1)
      rw [Statement.rows, List.filterMap_cons, inside]
      rfl

theorem comments_rowsAll {script : List Statement} (h : allTidy script = true) (depth : Nat) :
    (rowsAll depth script).filterMap Row.comment? = (allComments script).map String.toList := by
  cases script with
  | nil => rfl
  | cons s rest =>
    simp only [allTidy, Bool.and_eq_true] at h
    rw [rowsAll, List.filterMap_append, comments_rows h.1, comments_rowsAll h.2, allComments,
      List.map_append]

end

@[simp] theorem allComments_nil : allComments [] = [] := by
  rw [allComments]

@[simp] theorem allComments_cons (s : Statement) (rest : List Statement) :
    allComments (s :: rest) = s.comments ++ allComments rest := by
  rw [allComments]

@[simp] theorem comments_comment (text : String) : (Statement.comment text).comments = [text] := by
  rw [Statement.comments]

@[simp] theorem comments_blank : Statement.blank.comments = [] := by
  rw [Statement.comments]

@[simp] theorem comments_line (pieces : List Piece) : (Statement.line pieces).comments = [] := by
  rw [Statement.comments]

@[simp] theorem comments_block (header : List Piece) (body : List Statement) :
    (Statement.block header body).comments = allComments body := by
  rw [Statement.comments]

@[simp] theorem comments_code (text : String) : (Statement.code text).comments = [] := by
  rw [Statement.code, comments_line]

@[simp] theorem comments_under (header : String) (body : List Statement) :
    (Statement.under header body).comments = allComments body := by
  rw [Statement.under, comments_block]

@[simp] theorem comments_assign (name value : String) :
    (Statement.assign name value).comments = [] := by
  rw [Statement.assign, comments_line]

@[simp] theorem comments_print (parts : List Part) : (Statement.print parts).comments = [] := by
  rw [Statement.print, comments_line]

def untaggedRemark (f : FieldDescriptor) : String :=
  "Field " ++ commentText f.name ++ " has no tag configured."

def pageComments (e : Extraction) (baseKnown : Bool) : List String :=
  match e.mode with
  | .structured => if e.fields.isEmpty then [noFieldsNotice] else (remarked e).map untaggedRemark
  | .simple => []
  | .links => if baseKnown then [] else [unresolvedLinksNotice]

def clickComments (p : Pagination) : List String :=
  if !p.usesUrlPattern && p.usesNextButton then [staticClickNotice] else []

end Script

namespace Job

open Script

def comments (j : Job) : List String :=
  match j.plan with
  | .guidance reason =>
    [ guidanceNotice ++ ": " ++ reason.message ++ ".",
      "Complete the configuration and generate the script again." ]
  | .capture _ => []
  | .fetchLive => pageComments j.extraction true ++ clickComments j.pagination
  | .readSaved => pageComments j.extraction j.project.baseUrl?.isSome

end Job
end PageHarvest

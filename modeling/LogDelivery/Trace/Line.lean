import LogDelivery.Notice
import LogDelivery.Trace.Record

/-!
# Lines

A trace record as one line: its level, the spans around it with their values, and its own values. The
message stands for itself, and every other value behind its name.
-/
namespace LogDelivery

namespace FieldValue

/-- A value as it stands in a line; an error is followed by its causes, under a name of their own. -/
def lineText (name : String) : FieldValue → String
  | .text s => Text.quoted s
  | .error message [] => Text.plain message
  | .error message causes =>
    Text.plain message ++ " " ++ name ++ ".sources=[" ++ ", ".intercalate (causes.map Text.plain) ++ "]"
  | value => value.plain

end FieldValue

namespace Field

def bareName (name : String) : String :=
  if "r#".isPrefixOf name then String.ofList (name.toList.drop 2) else name

def lineText (f : Field) : String :=
  if f.isMessage then
    match f.value with
    | .text s => Text.plain s
    | value => Text.plain (value.lineText f.name)
  else bareName f.name ++ "=" ++ f.value.lineText f.name

def lineTexts (fields : List Field) : String := " ".intercalate (fields.map lineText)

end Field

def Span.lineText (s : Span) : String :=
  let inside := Field.lineTexts s.fields
  s.name ++ (if inside.isEmpty then "" else "\x7b" ++ inside ++ "\x7d") ++ ": "

def TraceRecord.lineText (r : TraceRecord) (spans : List Span) : String :=
  Notice.lineStart ++ " | " ++ r.level.name ++ " | " ++ String.join (spans.map Span.lineText) ++
    Field.lineTexts r.fields

end LogDelivery

import BlockHeap.Trace.Parser

/-!
# Traces in files

A trace file has to be there, and its bytes have to be a text in UTF-8.
-/

namespace BlockHeap

/-- Why a file gives no bytes. -/
inductive FileError where
  | notFound
  | forbidden
  | notDirectory
  | isDirectory
  | nameTooLong
  deriving DecidableEq, Repr

/-- The text of the error. -/
def FileError.message : FileError → String
  | notFound => "No such file or directory (os error 2)"
  | forbidden => "Permission denied (os error 13)"
  | notDirectory => "Not a directory (os error 20)"
  | isDirectory => "Is a directory (os error 21)"
  | nameTooLong => "File name too long (os error 36)"

/-- Why a file gives no trace: it cannot be read, its bytes are no text, or the text is no trace. -/
inductive LoadError where
  | unreadable (error : FileError)
  | notText
  | malformed (error : ParseError)
  deriving DecidableEq, Repr

namespace LoadError

/-- The text of the cause of bytes that are no text. -/
def notTextMessage : String := "stream did not contain valid UTF-8"

/-- The text of the error. -/
def message : LoadError → String
  | unreadable error => "failed to read trace: " ++ error.message
  | notText => "failed to read trace: " ++ notTextMessage
  | malformed error => error.message

/-- The text of the error, then those of its causes. -/
def chain : LoadError → List String
  | unreadable error => [message (unreadable error), error.message]
  | notText => [message notText, notTextMessage]
  | malformed error => [error.message]

end LoadError

namespace Trace

/-- The trace in the bytes of a file, if the file could be read. -/
def ofFile (content : Except FileError ByteArray) : Except LoadError Trace :=
  match content with
  | .error error => .error (.unreadable error)
  | .ok bytes =>
    match String.fromUTF8? bytes with
    | none => .error .notText
    | some text =>
      match parse text with
      | .error error => .error (.malformed error)
      | .ok trace => .ok trace

end Trace

end BlockHeap

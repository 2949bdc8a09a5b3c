import Crowfoot.Ddl.Source
import Crowfoot.Document.Interchange
import Crowfoot.Json.Reader

/-
Requests to the server and its replies. A reply that refuses a request says why; a fault is not answered at all.
-/

namespace Crowfoot.Server

structure Request where
  method : String
  path : String
  /-- the parameters after the path, in order -/
  query : List (String × String)
  body : String
  deriving DecidableEq, Repr

/-- why a request that is well formed is refused -/
inductive Refused where
  | document (error : Document.FormatError)
  /-- the body has an integer with too many digits in it -/
  | overlong
  | script (error : Ddl.ImportError)
  | dialect (error : Ddl.UnknownDialect)
  | noTables
  deriving DecidableEq, Repr

def Refused.message : Refused → String
  | document e => e.message
  | overlong => "There was an error parsing the body"
  | script e => e.message
  | dialect e => e.message
  | noTables => "No tables to layout"

/-- what stops the server in the middle of a request -/
inductive Crash where
  | notIterable (cause : Document.Uniterable)
  | placing (cause : NotFinite)
  | layout (cause : Layout.Fault String)
  | assembly (cause : Ddl.AssemblyError)
  /-- the reply has a number in it that JSON does not have -/
  | unsendable
  /-- the reply has an integer with too many digits in it -/
  | overlong (cause : Decimal.Overlong)
  deriving DecidableEq, Repr

inductive Reply where
  | done (body : Json)
  | refused (cause : Refused)
  | flawed (flaws : List Document.Flaw)
  | notFound
  | wrongMethod
  | moved (path : String)
  | crashed (cause : Crash)

namespace Reply

/-- the number by which a reply is known; a crash has none -/
def status? : Reply → Option Nat
  | done _ => some 200
  | refused _ => some 400
  | flawed _ => some 422
  | notFound => some 404
  | wrongMethod => some 405
  | moved _ => some 307
  | crashed _ => none

def detail (v : Json) : Json := .object [("detail", v)]

def body : Reply → Json
  | done v => v
  | refused c => detail (.text c.message)
  | flawed fs => detail (Document.flawsJson fs)
  | notFound => detail (.text "Not Found")
  | wrongMethod => detail (.text "Method Not Allowed")
  | moved _ => .null
  | crashed _ => .null

/-- a result that can be sent, or the crash that sending it is -/
def ofResult (v : Json) : Reply :=
  if !v.isWritable then crashed (.overlong .written) else if v.isFinite then done v else crashed .unsendable

end Reply

/-! ## Reading requests -/

open Document

/-- the text without the mark that may stand at the start of a file -/
def withoutMark (cs : List Char) : List Char :=
  match cs with
  | '\ufeff' :: rest => rest
  | _ => cs

/-- a value from the body of a request, which must be JSON and not null; there is none where the text of the body cannot
be taken in at all -/
def readBody? {α : Type} (read : Json → Reading α) (body : String) : Option (Reading α) :=
  let place (r : Reading α) : Reading α := Reading.within (.key "body") r
  if body = "" then some (place (Reading.flaw .missing))
  else
    let cs := withoutMark body.toList
    match Json.parseChars cs with
    | .error (.malformed f) => some (place (Reading.within (.index (cs.length - f.left)) (Reading.flaw .jsonInvalid)))
    | .error (.overlong _) => none
    | .ok .null => some (place (Reading.flaw .missing))
    | .ok v => some (place (read v))

/-- the last parameter with a name -/
def parameter? (query : List (String × String)) (name : String) : Option String := query.reverse.lookup name

end Crowfoot.Server

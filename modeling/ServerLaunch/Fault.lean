import ServerLaunch.Files.Errno
import ServerLaunch.Text.Quoted

/-!
# Faults

What can go wrong outside the launcher: in the operating system, on the network, in a
value handed over, or in the program that calls. A launch error may name a fault as
its cause; a fault that no launch error covers reaches the caller as it is.

## Main definitions

* `TransportKind`: how an exchange with the registry can fail.
* `Fault`: a fault, with its message.
* `Fault.isSystem`, `Fault.isRequestFault`, `Fault.isValueFault`: the families that
  callers tell apart.
-/
namespace ServerLaunch

/-- The report of a system error. -/
def OsError.message : OsError → String
  | failed number none => "[Errno " ++ toString number.number ++ "] " ++ number.text
  | failed number (some path) =>
    "[Errno " ++ toString number.number ++ "] " ++ number.text ++ ": " ++ Text.quote path
  | notLinked number target path =>
    "[Errno " ++ toString number.number ++ "] " ++ number.text ++ ": " ++ Text.quote target ++
      " -> " ++ Text.quote path
  | reported _ message => message

/-- How an exchange over the network can fail. -/
inductive TransportKind where
  | request
  | connection
  | proxy
  | ssl
  | timeout
  | connectTimeout
  | readTimeout
  | http
  | tooManyRedirects
  | retry
  | chunkedEncoding
  | contentDecoding
  | missingSchema
  | invalidSchema
  | invalidUrl
  | invalidHeader
deriving DecidableEq, Repr

/-- A fault outside the launcher. -/
inductive Fault where
  | os (error : OsError)
  | value (message : String)
  | unicode (message : String)
  | runtime (message : String)
  | transport (kind : TransportKind) (message : String)
  | malformedDocument (message : String)
  | tooDeep (message : String)
deriving DecidableEq, Repr

namespace Fault

/-- The message of a fault. -/
def message : Fault → String
  | os error => error.message
  | value message => message
  | unicode message => message
  | runtime message => message
  | transport _ message => message
  | malformedDocument message => message
  | tooDeep message => message

/-- Whether the fault is one that the operating system reports. -/
def isSystem : Fault → Bool
  | os _ => true
  | _ => false

/-- Whether the fault belongs to the exchange with a server, a document that cannot be
read included. -/
def isRequestFault : Fault → Bool
  | transport _ _ => true
  | malformedDocument _ => true
  | _ => false

/-- Whether the fault is about a value that cannot be used. -/
def isValueFault : Fault → Bool
  | value _ => true
  | unicode _ => true
  | malformedDocument _ => true
  | _ => false

/-- A path with a NUL character cannot be handed to the system. -/
def nulInPath : Fault := .value "embedded null byte"

/-- What is said when the program would be nested more deeply than the machine lets it. -/
def nestingReport : String := "maximum recursion depth exceeded"

/-- The fault of a system error on a path. -/
def onPath (number : Errno) (path : String) : Fault := .os (.failed number (some path))

end Fault

/-! ## Outcomes of several steps -/

variable {ε ε' α β : Type}

/-- What goes well in two steps goes well in each of them. -/
theorem bind_eq_ok {first : Except ε α} {next : α → Except ε β} {result : β}
    (h : first.bind next = .ok result) :
    ∃ value, first = .ok value ∧ next value = .ok result := by
  cases first with
  | error fault => cases h
  | ok value => exact ⟨value, rfl, h⟩

/-- What goes well under another name for its failures goes well. -/
theorem mapError_eq_ok {outcome : Except ε α} {f : ε → ε'} {value : α}
    (h : outcome.mapError f = .ok value) : outcome = .ok value := by
  cases outcome with
  | error fault => cases h
  | ok found =>
    cases h
    rfl

end ServerLaunch

import Conformance.Name

/-!
# Instances, failures and outcomes

What producers hand out, why a test can fail, and how each failure is worded.
-/

namespace Conformance

/-- The types that an instance can have. -/
inductive InstanceKind where
  | integer
  | truth
  | character
deriving DecidableEq

/-- How a failure names the type that was asked for. -/
def InstanceKind.label : InstanceKind → String
  | .integer => "i64"
  | .truth => "bool"
  | .character => "char"

/-- A value handed to a test. Its type is known only to the value itself. -/
inductive Instance where
  | integer (value : Int)
  | truth (value : Bool)
  | character (value : Char)
deriving DecidableEq

/-- The type of an instance. -/
def Instance.kind : Instance → InstanceKind
  | .integer _ => .integer
  | .truth _ => .truth
  | .character _ => .character

/-- What a panic carries: a text, or something without a text. Of a caught panic only the text is
used, and the rest is dropped. Things whose dropping panics in turn are not covered: such a panic is
another one, raised where the first has been caught already. -/
inductive Payload where
  | text (message : String)
  | wordless
deriving DecidableEq

/-- The text under which a panic is reported. -/
def Payload.message : Payload → String
  | .text message => message
  | .wordless => "non-string panic payload"

/-- Why a test fails. -/
inductive Failure where
  /-- The test found what it must not find. -/
  | assertion (message : String)
  /-- The producer could not make an instance. -/
  | production (reason : String)
  /-- The producer made an instance of another type than the one asked for. -/
  | mismatch (expected : String)
  /-- The implementation has no producer for the suite. -/
  | unbound (suite : Name)
  /-- The suite is malformed and was never started. -/
  | malformed (suite : Name) (messages : List String)
  /-- A body panicked. -/
  | panicked (message : String)
  /-- The implementation could not be resolved or set up. -/
  | initialization (message : String)
deriving DecidableEq

/-- The wording of a production failure, also outside tests. -/
def productionMessage (reason : String) : String := "producer failed: " ++ reason

/-- The wording of a failure. -/
def Failure.message : Failure → String
  | .assertion message => "assertion failed: " ++ message
  | .production reason => productionMessage reason
  | .mismatch expected => "produced instance is not a `" ++ expected ++ "`"
  | .unbound suite => "no producer is bound for " ++ suite.text
  | .malformed suite messages =>
    "errors during parsing of suite " ++ suite.text ++ ": " ++ String.intercalate "; " messages
  | .panicked message => "test panicked: " ++ message
  | .initialization message => "initialization failed: " ++ message

/-- How a test ended. -/
inductive Outcome where
  | passed
  | failed (failure : Failure)
deriving DecidableEq

def Outcome.isPassed : Outcome → Bool
  | .passed => true
  | .failed _ => false

/-- The failure of a test that failed. -/
def Outcome.failure? : Outcome → Option Failure
  | .passed => none
  | .failed failure => some failure

/-- A test passes unless something failed. -/
def Outcome.ofFailure? : Option Failure → Outcome
  | none => .passed
  | some failure => .failed failure

/-- How a computation that may fail or panic ends. -/
inductive Ending (α : Type) where
  | value (result : α)
  | failed (failure : Failure)
  | panicked (payload : Payload)

/-- The failure that a guarded computation reports; a panic is a failure like any other. -/
def Ending.failure? {α : Type} : Ending α → Option Failure
  | .value _ => none
  | .failed failure => some failure
  | .panicked payload => some (.panicked payload.message)

end Conformance

/-!
# Outcomes

Two kinds of failure are told apart.  A fault is a failure of an operation on
values, and only its kind is kept.  A user error is a message written for the
person who wrote the fragment: it has a code, may quote the fragment it is
about, and may give a hint.

A function may also end the program.  That is no failure of an operation, and
what guards calls against faults lets it pass.
-/

namespace Wrangle

/-!
# Faults
-/

/-- The kinds of failure of operations on values, files and texts. -/
inductive Fault where
  | badType
  | badValue
  | tooManyDigits
  | divisionByZero
  | overflow
  | missingKey
  | badIndex
  | missingAttribute
  | badPattern
  | unknownField
  | exhausted
  | aborted
  | invalidDecimal
  | decimalDivision
  | decimalOverflow
  | unknownName
  | undecodable
  | unmarked
  | unencodable
  | directoryInPlace
  | noSuchFile
  | malformedRow
  | unsupported
  | dataless
  | outOfMemory
  deriving DecidableEq, Repr

def Fault.kind : Fault -> String
  | badType => "TypeError"
  | badValue => "ValueError"
  | tooManyDigits => "ValueError"
  | divisionByZero => "ZeroDivisionError"
  | overflow => "OverflowError"
  | missingKey => "KeyError"
  | badIndex => "IndexError"
  | missingAttribute => "AttributeError"
  | badPattern => "error"
  | unknownField => "FieldSelectionError"
  | exhausted => "StopIteration"
  | aborted => "RuntimeError"
  | invalidDecimal => "InvalidOperation"
  | decimalDivision => "DivisionByZero"
  | decimalOverflow => "Overflow"
  | unknownName => "LookupError"
  | undecodable => "UnicodeDecodeError"
  | unmarked => "UnicodeError"
  | unencodable => "UnicodeEncodeError"
  | directoryInPlace => "IsADirectoryError"
  | noSuchFile => "FileNotFoundError"
  | malformedRow => "Error"
  | unsupported => "NotImplementedError"
  | dataless => "StatisticsError"
  | outOfMemory => "MemoryError"

/-- What gets out of a computation to the host: a fault, or the end of the program. -/
inductive HostFault where
  | raised (f : Fault)
  | exit
  deriving DecidableEq, Repr

namespace HostFault

instance : Coe Fault HostFault := ⟨.raised⟩

def kind : HostFault -> String
  | raised f => f.kind
  | exit => "SystemExit"

/-- What is not supported. -/
abbrev unsupported : HostFault := .raised .unsupported

end HostFault

/-!
# User errors
-/

inductive ErrorKind where
  | general
  | interpolation
  | unsupported
  | nonBoolean
  | mixedSign
  | option
  deriving DecidableEq, Repr

def ErrorKind.code : ErrorKind -> String
  | general => "E_TIDY"
  | interpolation => "E_INTERPOLATION"
  | unsupported => "E_UNSUPPORTED_EXPR"
  | nonBoolean => "E_NON_BOOLEAN_PREDICATE"
  | mixedSign => "E_SLICE_MIXED_SIGN"
  | option => "E_INVALID_OPTION"

structure UserError where
  kind : ErrorKind
  code : String
  message : String
  hint : Option String
  fragment : Option String
  deriving DecidableEq, Repr

namespace UserError

def coded (code message : String) (hint fragment : Option String) : UserError :=
  { kind := .general, code := code, message := message, hint := hint, fragment := fragment }

def ofKind (kind : ErrorKind) (message : String) (hint fragment : Option String) : UserError :=
  { kind := kind, code := kind.code, message := message, hint := hint, fragment := fragment }

def unsupported (message : String) (hint : Option String) : UserError :=
  ofKind .unsupported message hint none

def withFragment (source : String) (e : UserError) : UserError :=
  match e.fragment with
  | none => { e with fragment := some source }
  | some _ => e

def labelled (label : String) : Option String -> String
  | none => ""
  | some text => if text.isEmpty then "" else "\n" ++ label ++ ": " ++ text

def render (e : UserError) : String :=
  "[" ++ e.code ++ "] " ++ e.message ++ labelled "Fragment" e.fragment ++ labelled "Hint" e.hint

theorem withFragment_of_some {source text : String} {e : UserError}
    (h : e.fragment = some text) : e.withFragment source = e := by
  simp [withFragment, h]

end UserError

/-!
# Failures and outcomes
-/

inductive Failure where
  | user (e : UserError)
  | fault (f : HostFault)
  deriving DecidableEq, Repr

def Failure.withFragment (source : String) : Failure -> Failure
  | .user e => .user (e.withFragment source)
  | .fault f => .fault f

abbrev Outcome (alpha : Type) := Except Failure alpha

namespace Outcome

def inFragment (source : String) (outcome : Outcome alpha) : Outcome alpha :=
  match outcome with
  | .ok value => .ok value
  | .error failure => .error (failure.withFragment source)

def ofFault : Except Fault alpha -> Outcome alpha
  | .ok value => .ok value
  | .error f => .error (.fault (.raised f))

def reject (e : UserError) : Outcome alpha :=
  .error (.user e)

@[simp] theorem inFragment_ok (source : String) (value : alpha) :
    inFragment source (.ok value) = .ok value := rfl

@[simp] theorem inFragment_user (source : String) (e : UserError) :
    (inFragment source (.error (.user e)) : Outcome alpha) =
      .error (.user (e.withFragment source)) := rfl

end Outcome

end Wrangle

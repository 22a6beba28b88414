import Condense.Text.Basic

/-!
# Checked values

The outcome of checking a document against a schema: a value, or all the issues that were found,
each with the place where it was found.
-/

namespace Condense

/-- What is wrong with a value. -/
inductive IssueKind where
  | boolType
  | boolParsing
  | intType
  | intParsing
  | intParsingSize
  | intFromFloat
  | finiteNumber
  | floatType
  | floatParsing
  | stringType
  | stringUnicode
  | literalError
  | modelType
  | dictType
  | lessThanEqual
  | lessThan
  | greaterThanEqual
  | greaterThan
  | extraForbidden
  | valueError
  deriving DecidableEq, Repr

def IssueKind.name : IssueKind → String
  | .boolType => "bool_type"
  | .boolParsing => "bool_parsing"
  | .intType => "int_type"
  | .intParsing => "int_parsing"
  | .intParsingSize => "int_parsing_size"
  | .intFromFloat => "int_from_float"
  | .finiteNumber => "finite_number"
  | .floatType => "float_type"
  | .floatParsing => "float_parsing"
  | .stringType => "string_type"
  | .stringUnicode => "string_unicode"
  | .literalError => "literal_error"
  | .modelType => "model_type"
  | .dictType => "dict_type"
  | .lessThanEqual => "less_than_equal"
  | .lessThan => "less_than"
  | .greaterThanEqual => "greater_than_equal"
  | .greaterThan => "greater_than"
  | .extraForbidden => "extra_forbidden"
  | .valueError => "value_error"

/-- Something wrong, and the names that lead to it. -/
structure Issue where
  path : List Text
  kind : IssueKind
  deriving DecidableEq, Repr

/-- A value, or what is wrong with it. -/
def Checked (α : Type) : Type := Except (List Issue) α

namespace Checked

variable {α β : Type}

def ok (value : α) : Checked α := Except.ok value

def issue (kind : IssueKind) : Checked α := Except.error [⟨[], kind⟩]

/-- Goes on with a value that is right so far. -/
def andThen (checked : Checked α) (next : α → Checked β) : Checked β := Except.bind checked next

def map (f : α → β) (checked : Checked α) : Checked β := Except.map f checked

def under (name : Text) (checked : Checked α) : Checked α :=
  Except.mapError (List.map fun issue => { issue with path := name :: issue.path }) checked

/-- Adds one more part. The issues of all parts are collected in order. -/
def part (whole : Checked (α → β)) (next : Checked α) : Checked β :=
  match whole, next with
  | .ok f, .ok value => .ok (f value)
  | .error issues, .ok _ => .error issues
  | .ok _, .error issues => .error issues
  | .error issues, .error more => .error (issues ++ more)

/-- Adds issues that concern no part. -/
def also (checked : Checked α) (issues : List Issue) : Checked α :=
  match checked, issues with
  | checked, [] => checked
  | .ok _, issues => .error issues
  | .error found, issues => .error (found ++ issues)

/-- Checks the parts of a list, each under its own name as it can be shown. -/
def all (check : β → Checked α) : List (Text × β) → Checked (List (Text × α))
  | [] => .ok []
  | (name, value) :: rest =>
    part (map (fun a more => (name, a) :: more) (under (Text.shown name) (check value)))
      (all check rest)

end Checked

end Condense

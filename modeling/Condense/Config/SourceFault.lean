/-!
# Faults of sources

Why a document does not say where settings come from.
-/

namespace Condense

/-- Why a document does not say where settings come from. -/
inductive SourceFault where
  | reserved (name : String)
  | noLength (kind : String)
  | noDifference (kind : String)
  | notIterable (kind : String)
  | notPath (kind : String)
  | notText (kind : String)
  | notInteger (kind : String)
  | notOrdered (kind : String)
  | notUnpackable (kind : String)
  | notCallable (kind : String)
  | notString (kind : String)
  | noAttribute (kind name : String)
  | tooLarge
  | nameTooLong
  /-- A path begins in the home of an account that is unknown. -/
  | noHome
  /-- The arguments end the program, with this status. -/
  | exit (status : Nat)
  /-- An option has a value that is of no use for it. -/
  | invalid
  deriving DecidableEq, Repr

namespace SourceFault

def message : SourceFault → String
  | .reserved name => "BaseSettings.__init__() got multiple values for argument '" ++ name ++ "'"
  | .noLength kind => "object of type '" ++ kind ++ "' has no len()"
  | .noDifference kind => "unsupported operand type(s) for -: '" ++ kind ++ "' and 'int'"
  | .notIterable kind => "'" ++ kind ++ "' object is not iterable"
  | .notPath kind => "expected str, bytes or os.PathLike object, not " ++ kind
  | .notText kind => "must be str or None, not " ++ kind
  | .notInteger kind => "'" ++ kind ++ "' object cannot be interpreted as an integer"
  | .notOrdered kind => "'<=' not supported between instances of '" ++ kind ++ "' and 'int'"
  | .notUnpackable kind => "cannot unpack non-iterable " ++ kind ++ " object"
  | .notCallable kind => "'" ++ kind ++ "' object is not callable"
  | .notString kind => "expected string or bytes-like object, got '" ++ kind ++ "'"
  | .noAttribute kind name => "'" ++ kind ++ "' object has no attribute '" ++ name ++ "'"
  | .tooLarge => "Python int too large to convert to C ssize_t"
  | .nameTooLong => "File name too long"
  | .noHome => "Could not determine home directory."
  | .exit status => toString status
  | .invalid => "the value is of no use"

end SourceFault

end Condense

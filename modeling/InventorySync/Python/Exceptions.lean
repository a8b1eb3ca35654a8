import Mathlib.Tactic.Common

/-!
# Exceptions

The exception classes that the sync engine raises, catches or lets pass, with their class
hierarchy, since every `except` clause of the source is a question about it. An exception is an
instance of a class together with its message.
-/

namespace Python

/-- The exception classes of Python, `requests`, `pydantic` and this repository that the modelled
code can meet; `other` is any further class derived from `Exception`. -/
inductive ExceptionClass
  | attributeError
  | keyError
  | typeError
  | valueError
  | overflowError
  | fileNotFoundError
  | requestException
  | httpError
  | connectionError
  | proxyError
  | sslError
  | timeout
  | connectTimeout
  | readTimeout
  | retryError
  | invalidJSONError
  | invalidHeader
  | chunkedEncodingError
  | validationError
  | authenticationError
  | dataverseAuthenticationError
  | recordValidationError
  | other (name : String)
  deriving DecidableEq

namespace ExceptionClass

/-- The `__name__` of the class. -/
def name : ExceptionClass → String
  | attributeError => "AttributeError"
  | keyError => "KeyError"
  | typeError => "TypeError"
  | valueError => "ValueError"
  | overflowError => "OverflowError"
  | fileNotFoundError => "FileNotFoundError"
  | requestException => "RequestException"
  | httpError => "HTTPError"
  | connectionError => "ConnectionError"
  | proxyError => "ProxyError"
  | sslError => "SSLError"
  | timeout => "Timeout"
  | connectTimeout => "ConnectTimeout"
  | readTimeout => "ReadTimeout"
  | retryError => "RetryError"
  | invalidJSONError => "InvalidJSONError"
  | invalidHeader => "InvalidHeader"
  | chunkedEncodingError => "ChunkedEncodingError"
  | validationError => "ValidationError"
  | authenticationError => "AuthenticationError"
  | dataverseAuthenticationError => "DataverseAuthenticationError"
  | recordValidationError => "RecordValidationError"
  | other name => name

/-- The class and its ancestors below `Exception` and `OSError`. -/
def mro : ExceptionClass → List ExceptionClass
  | httpError => [httpError, requestException]
  | connectionError => [connectionError, requestException]
  | proxyError => [proxyError, connectionError, requestException]
  | sslError => [sslError, connectionError, requestException]
  | timeout => [timeout, requestException]
  | connectTimeout => [connectTimeout, connectionError, timeout, requestException]
  | readTimeout => [readTimeout, timeout, requestException]
  | retryError => [retryError, requestException]
  | invalidJSONError => [invalidJSONError, requestException]
  | invalidHeader => [invalidHeader, requestException, valueError]
  | chunkedEncodingError => [chunkedEncodingError, requestException]
  | validationError => [validationError, valueError]
  | dataverseAuthenticationError => [dataverseAuthenticationError, authenticationError]
  | c => [c]

end ExceptionClass

/-- An instance of an exception class. -/
structure PyException where
  cls : ExceptionClass
  message : String
  deriving DecidableEq

/-- `isinstance(self, classes)`, which is what an `except classes` clause asks. -/
def PyException.isInstance (e : PyException) (classes : List ExceptionClass) : Bool :=
  classes.any fun c => e.cls.mro.contains c

/-- An `except` clause with more classes catches more. -/
theorem PyException.isInstance_mono {e : PyException} {classes classes' : List ExceptionClass}
    (hsub : classes ⊆ classes') (h : e.isInstance classes = true) :
    e.isInstance classes' = true := by
  obtain ⟨c, hc, hmro⟩ := List.any_eq_true.1 h
  exact List.any_eq_true.2 ⟨c, hsub hc, hmro⟩

end Python

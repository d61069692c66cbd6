import Mathlib.Data.List.Basic

/-! # Exceptions

The exceptions the host code raises, catches or lets through, as the leaves of
Python's class hierarchy: a handler names a class and catches every leaf below
it. Cancellation is not an `Exception`.
-/

namespace FlipperMcp

/-- The exceptions of the host code, with their texts where the code sets one. -/
inductive Exn
  | osError (text : String)
  /-- `ConnectionResetError` and `BrokenPipeError`. -/
  | connectionError (text : String)
  | timeoutError
  | runtimeError (text : String)
  | flashError (text : String)
  | valueError (text : String)
  | attributeError (text : String)
  | keyError (text : String)
  | typeError (text : String)
  | decodeError
  | cancelledError
  | flipperNotConnectedError (text : String)
  | flipperConnectionError (text : String)
  | flipperTimeoutError (text : String)
  | flipperProtocolError (text : String)
  | flipperCLIUnavailableError (text : String)
  | flipperCLIRefusedError (text : String)
  | bundleError (text : String)
  | toolError (text : String)
  /-- An exception of a library, by its class. -/
  | libraryError (name text : String)
  deriving DecidableEq

namespace Exn

/-- `except Exception`. -/
def isException : Exn → Bool
  | cancelledError => false
  | _ => true

/-- `except OSError`; `TimeoutError` and `SerialException` are `OSError`s. -/
def isOSError : Exn → Bool
  | osError _ | connectionError _ | timeoutError => true
  | _ => false

/-- `except (OSError, RuntimeError)`; `FlashError` and `BundleError` are
`RuntimeError`s. -/
def isOSOrRuntimeError : Exn → Bool
  | osError _ | connectionError _ | timeoutError | runtimeError _ | flashError _ | bundleError _ => true
  | _ => false

/-- The text of an exception, `str(exc)`. -/
def text : Exn → String
  | osError text | connectionError text | runtimeError text | flashError text | valueError text
  | attributeError text | keyError text | typeError text | libraryError _ text
  | flipperNotConnectedError text | flipperConnectionError text | flipperTimeoutError text
  | flipperProtocolError text | flipperCLIUnavailableError text | flipperCLIRefusedError text
  | bundleError text | toolError text => text
  | timeoutError | decodeError | cancelledError => ""

end Exn

end FlipperMcp

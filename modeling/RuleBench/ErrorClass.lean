/-!
# Error classes

The classes of errors that exist without being declared, each below one other class. A class is
named by a text, so that declared classes fit in beside them.
-/

namespace RuleBench.ErrorClass

/-- Each class with the class it extends. -/
def parents : List (String × String) := [
  ("BaseExceptionGroup", "BaseException"), ("Exception", "BaseException"),
  ("GeneratorExit", "BaseException"), ("KeyboardInterrupt", "BaseException"),
  ("SystemExit", "BaseException"), ("CancelledError", "BaseException"),
  ("ArithmeticError", "Exception"), ("FloatingPointError", "ArithmeticError"),
  ("OverflowError", "ArithmeticError"), ("ZeroDivisionError", "ArithmeticError"),
  ("AssertionError", "Exception"), ("AttributeError", "Exception"), ("BufferError", "Exception"),
  ("EOFError", "Exception"), ("ExceptionGroup", "BaseExceptionGroup"),
  ("ImportError", "Exception"), ("ModuleNotFoundError", "ImportError"),
  ("LookupError", "Exception"), ("IndexError", "LookupError"), ("KeyError", "LookupError"),
  ("MemoryError", "Exception"), ("NameError", "Exception"), ("UnboundLocalError", "NameError"),
  ("OSError", "Exception"), ("BlockingIOError", "OSError"), ("ChildProcessError", "OSError"),
  ("ConnectionError", "OSError"), ("BrokenPipeError", "ConnectionError"),
  ("ConnectionAbortedError", "ConnectionError"), ("ConnectionRefusedError", "ConnectionError"),
  ("ConnectionResetError", "ConnectionError"), ("FileExistsError", "OSError"),
  ("FileNotFoundError", "OSError"), ("InterruptedError", "OSError"),
  ("IsADirectoryError", "OSError"), ("NotADirectoryError", "OSError"),
  ("PermissionError", "OSError"), ("ProcessLookupError", "OSError"), ("TimeoutError", "OSError"),
  ("ReferenceError", "Exception"), ("RuntimeError", "Exception"),
  ("NotImplementedError", "RuntimeError"), ("RecursionError", "RuntimeError"),
  ("StopAsyncIteration", "Exception"), ("StopIteration", "Exception"),
  ("SyntaxError", "Exception"), ("IndentationError", "SyntaxError"),
  ("TabError", "IndentationError"),
  ("SystemError", "Exception"), ("TypeError", "Exception"), ("ValueError", "Exception"),
  ("UnicodeError", "ValueError"), ("UnicodeDecodeError", "UnicodeError"),
  ("UnicodeEncodeError", "UnicodeError"), ("UnicodeTranslateError", "UnicodeError"),
  ("Warning", "Exception"), ("BytesWarning", "Warning"), ("DeprecationWarning", "Warning"),
  ("EncodingWarning", "Warning"), ("FutureWarning", "Warning"), ("ImportWarning", "Warning"),
  ("PendingDeprecationWarning", "Warning"), ("ResourceWarning", "Warning"),
  ("RuntimeWarning", "Warning"), ("SyntaxWarning", "Warning"), ("UnicodeWarning", "Warning"),
  ("UserWarning", "Warning")]

def parent? (name : String) : Option String := parents.lookup name

/-- The longest chain of classes has six links. -/
def greatestHeight : Nat := 8

/-- A class and all that it extends, from itself upwards, for at most `fuel` links. -/
def chain : Nat → String → List String
  | 0, name => [name]
  | fuel + 1, name => name :: ((parent? name).map (chain fuel)).getD []

def ancestors (name : String) : List String := chain greatestHeight name

def isKnown (name : String) : Bool := name == "BaseException" || (parent? name).isSome

/-- Whether a class is another one or extends it. -/
def extend (name ancestor : String) : Bool := (ancestors name).contains ancestor

/-- What an error asks for that is never taken for a failure of the rule. -/
inductive Passage where
  /-- To end everything. -/
  | interrupt
  /-- To end the work it was raised in. -/
  | cancellation
deriving Repr, DecidableEq

/-- What a class of errors asks for, told by what it extends. -/
def passageOf (extending : String → Bool) : Option Passage :=
  if extending "CancelledError" then some .cancellation
  else if extending "KeyboardInterrupt" then some .interrupt
  else none

def passage? (name : String) : Option Passage := passageOf (extend name)

/-- The class of a system error by its number. -/
def ofErrorNumber : Int → String
  | 1 => "PermissionError"
  | 2 => "FileNotFoundError"
  | 3 => "ProcessLookupError"
  | 4 => "InterruptedError"
  | 10 => "ChildProcessError"
  | 11 => "BlockingIOError"
  | 13 => "PermissionError"
  | 17 => "FileExistsError"
  | 20 => "NotADirectoryError"
  | 21 => "IsADirectoryError"
  | 32 => "BrokenPipeError"
  | 103 => "ConnectionAbortedError"
  | 104 => "ConnectionResetError"
  | 108 => "BrokenPipeError"
  | 110 => "TimeoutError"
  | 111 => "ConnectionRefusedError"
  | 114 => "BlockingIOError"
  | 115 => "BlockingIOError"
  | _ => "OSError"

end RuleBench.ErrorClass

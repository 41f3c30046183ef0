import RuleBench.Execution.Kind

/-!
# Names of methods

Which methods a known class has. What they do is told by the module of the class.
-/

namespace RuleBench.Execution

/-- Operations that every value has. -/
def objectOperations : List String := [
  "__init__", "__new__", "__str__", "__repr__", "__eq__", "__ne__", "__hash__", "__lt__", "__le__",
  "__gt__", "__ge__", "__format__", "__setattr__", "__getattribute__", "__delattr__", "__dir__",
  "__init_subclass__", "__sizeof__", "__reduce__", "__reduce_ex__", "__subclasshook__"]

def textMethods : List String := [
  "capitalize", "casefold", "center", "count", "encode", "endswith", "expandtabs", "find", "format",
  "format_map", "index", "isalnum", "isalpha", "isascii", "isdecimal", "isdigit", "isidentifier",
  "islower", "isnumeric", "isprintable", "isspace", "istitle", "isupper", "join", "ljust", "lower",
  "lstrip", "maketrans", "partition", "removeprefix", "removesuffix", "replace", "rfind", "rindex",
  "rjust", "rpartition", "rsplit", "rstrip", "split", "splitlines", "startswith", "strip",
  "swapcase", "title", "translate", "upper", "zfill", "__len__", "__contains__", "__iter__",
  "__getitem__", "__add__", "__mul__", "__rmul__", "__mod__", "__rmod__", "__getnewargs__"]

def listMethods : List String := [
  "append", "clear", "copy", "count", "extend", "index", "insert", "pop", "remove", "reverse",
  "sort",
  "__len__", "__contains__", "__iter__", "__getitem__", "__setitem__", "__delitem__", "__add__",
  "__iadd__", "__mul__", "__imul__", "__rmul__", "__reversed__", "__class_getitem__"]

def tupleMethods : List String := [
  "count", "index", "__len__", "__contains__", "__iter__", "__getitem__", "__add__", "__mul__",
  "__rmul__", "__class_getitem__", "__getnewargs__"]

def dictMethods : List String := [
  "clear", "copy", "fromkeys", "get", "items", "keys", "pop", "popitem", "setdefault", "update",
  "values", "__len__", "__contains__", "__iter__", "__getitem__", "__setitem__", "__delitem__",
  "__or__", "__ror__", "__ior__", "__reversed__", "__class_getitem__"]

def frozenMethods : List String := [
  "copy", "difference", "intersection", "isdisjoint", "issubset", "issuperset",
  "symmetric_difference", "union", "__len__", "__contains__", "__iter__", "__and__", "__or__",
  "__sub__", "__xor__"]

def setMethods : List String := frozenMethods ++ [
  "add", "clear", "difference_update", "discard", "intersection_update", "pop", "remove",
  "symmetric_difference_update", "update", "__iand__", "__ior__", "__isub__", "__ixor__"]

def numberOperations : List String := [
  "__add__", "__radd__", "__sub__", "__rsub__", "__mul__", "__rmul__", "__truediv__",
  "__rtruediv__",
  "__floordiv__", "__rfloordiv__", "__mod__", "__rmod__", "__pow__", "__rpow__", "__divmod__",
  "__neg__", "__pos__", "__abs__", "__bool__", "__int__", "__float__", "__round__", "__trunc__"]

def viewMethods : List String := ["__len__", "__contains__", "__iter__", "isdisjoint", "mapping"]

/-- The methods that a known class declares itself. -/
def methodsOf (className : String) : List String :=
  match className with
  | "object" => objectOperations
  | "str" => textMethods
  | "bytes" => ["decode", "hex", "__len__", "__contains__", "__iter__", "__getitem__", "__add__",
      "__mul__", "count", "endswith", "find", "index", "join", "lower", "replace", "split",
      "startswith", "strip", "upper"]
  | "list" => listMethods
  | "tuple" => tupleMethods
  | "dict" => dictMethods
  | "set" => setMethods
  | "frozenset" => frozenMethods
  | "int" => numberOperations ++ ["bit_length", "bit_count", "conjugate", "as_integer_ratio",
      "to_bytes", "from_bytes", "__index__", "__and__", "__or__", "__xor__", "__lshift__",
      "__rshift__", "__invert__"]
  | "float" => numberOperations ++ ["is_integer", "hex", "fromhex", "conjugate", "as_integer_ratio"]
  | "complex" => ["conjugate", "__add__", "__mul__", "__sub__", "__truediv__", "__abs__", "__neg__"]
  | "range" =>
    ["count", "index", "__len__", "__contains__", "__iter__", "__getitem__", "__reversed__"]
  | "generator" => ["send", "throw", "close", "__iter__", "__next__"]
  | "coroutine" => ["send", "throw", "close", "__await__"]
  | "async_generator" => ["asend", "athrow", "aclose", "__aiter__", "__anext__"]
  | "dict_keys" => viewMethods ++ ["__and__", "__or__", "__sub__", "__xor__"]
  | "dict_items" => viewMethods ++ ["__and__", "__or__", "__sub__", "__xor__"]
  | "dict_values" => ["__len__", "__iter__", "mapping"]
  | "function" => ["__call__", "__get__"]
  | "method" => ["__call__"]
  | "builtin_function_or_method" => ["__call__"]
  | "type" =>
    ["__call__", "mro", "__subclasses__", "__instancecheck__", "__subclasscheck__", "__or__"]
  | "property" => ["setter", "getter", "deleter", "__get__", "__set__", "__delete__"]
  | "staticmethod" => ["__call__", "__get__"]
  | "classmethod" => ["__get__"]
  | "slice" => ["indices"]
  | "BaseException" => ["with_traceback", "add_note", "__setstate__"]
  | "BaseModel" => ["model_dump", "model_copy", "dict", "copy", "__iter__"]
  | name =>
    if ["list_iterator", "list_reverseiterator", "tuple_iterator", "str_iterator",
        "str_ascii_iterator", "bytes_iterator", "range_iterator", "dict_keyiterator",
        "dict_valueiterator", "dict_itemiterator", "set_iterator", "enumerate", "zip", "map",
        "filter",
        "callable_iterator", "reversed", "iterator"].contains name then ["__iter__", "__next__"]
    else []

/-- The nearest class of an order that declares a method, among known classes. -/
def knownOwner? (order : List TypeRef) (name : String) : Option String :=
  order.findSome? fun c => match c with
    | .known k => if (methodsOf k).contains name then some k else none
    | .declared _ => none

/-- Methods of known classes that are taken from the class and not from a value. -/
def classLevel : List (String × String) := [
  ("dict", "fromkeys"), ("str", "maketrans"), ("int", "from_bytes"), ("float", "fromhex"),
  ("object", "__new__"), ("object", "__init_subclass__")]

end RuleBench.Execution

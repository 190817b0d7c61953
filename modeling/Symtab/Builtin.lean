/-!
# Built-in names

Names that a language provides without a declaration. They only classify the names found on a line.
-/

set_option autoImplicit false

namespace Symtab.Builtin

/-- The functions, types and constants that every Python program starts with. -/
def pythonNames : List String :=
  ["abs", "all", "any", "ascii", "bin", "bool", "bytearray", "bytes", "callable", "chr",
   "classmethod", "compile", "complex", "delattr", "dict", "dir", "divmod", "enumerate",
   "eval", "exec", "filter", "float", "format", "frozenset", "getattr", "globals", "hasattr",
   "hash", "help", "hex", "id", "input", "int", "isinstance", "issubclass", "iter", "len",
   "list", "locals", "map", "max", "memoryview", "min", "next", "object", "oct", "open",
   "ord", "pow", "print", "property", "range", "repr", "reversed", "round", "set", "setattr",
   "slice", "sorted", "staticmethod", "str", "sum", "super", "tuple", "type", "vars", "zip",
   "__import__", "None", "True", "False", "NotImplemented", "Ellipsis"]

/-- The words that start or join Python statements and are never declared. -/
def pythonKeywords : List String :=
  ["and", "as", "assert", "async", "await", "break", "class", "continue", "def", "del",
   "elif", "else", "except", "finally", "for", "from", "global", "if", "import", "in",
   "is", "lambda", "nonlocal", "not", "or", "pass", "raise", "return", "try", "while",
   "with", "yield", "match", "case"]

/-- Whether every Python program starts with the name. -/
def isPythonName (name : String) : Bool :=
  pythonNames.contains name

/-- Whether the word is a Python keyword. -/
def isPythonKeyword (word : String) : Bool :=
  pythonKeywords.contains word

/-- A global JavaScript object. -/
structure GlobalObject where
  /-- The name of the object. -/
  name : String
  /-- The type that its methods are reported with. -/
  typeTag : String
  /-- The methods that are called on the object itself. -/
  methods : List String
  deriving DecidableEq, Repr

/-- The global objects of JavaScript. -/
def javascriptObjects : List GlobalObject :=
  [⟨"console", "Console",
     ["log", "error", "warn", "info", "debug", "trace", "table", "dir", "group", "groupEnd", "time",
      "timeEnd", "assert", "count", "clear"]⟩,
   ⟨"Math", "Math",
     ["abs", "ceil", "floor", "round", "max", "min", "pow", "sqrt", "cbrt", "random", "sin", "cos",
      "tan", "atan2", "log", "log2", "log10", "exp", "trunc", "sign", "hypot"]⟩,
   ⟨"JSON", "JSON", ["parse", "stringify"]⟩,
   ⟨"Object", "ObjectConstructor",
     ["keys", "values", "entries", "assign", "freeze", "isFrozen", "seal", "create",
      "defineProperty", "getPrototypeOf", "setPrototypeOf", "fromEntries"]⟩,
   ⟨"Array", "ArrayConstructor", ["isArray", "from", "of"]⟩,
   ⟨"Promise", "PromiseConstructor", ["all", "allSettled", "any", "race", "resolve", "reject"]⟩,
   ⟨"Number", "NumberConstructor",
     ["isInteger", "isFinite", "isNaN", "isSafeInteger", "parseFloat", "parseInt"]⟩,
   ⟨"String", "StringConstructor", ["fromCharCode", "fromCodePoint", "raw"]⟩,
   ⟨"Date", "DateConstructor", ["now", "parse", "UTC"]⟩,
   ⟨"Reflect", "Reflect", ["apply", "construct", "get", "set", "has", "ownKeys", "defineProperty"]⟩]

/-- The global object of a name. -/
def javascriptObject? (name : String) : Option GlobalObject :=
  javascriptObjects.find? fun object => object.name == name

/-- The global object of a name, provided it has the given method. -/
def javascriptMethod? (object method : String) : Option GlobalObject :=
  (javascriptObject? object).filter fun found => found.methods.contains method

end Symtab.Builtin

import PromptStudio.Text.Quoted

/-!
# Sorts

Every value is of a sort, and sorts have names, parents and traits: the operations and parts that
their values have. Templates can name all of these. The sorts are listed with their traits in order;
what a sort does not have itself it has from its parent.
-/

namespace PromptStudio

/-- The kinds of traits that values of a sort have. -/
inductive TraitKind where
  /-- An operation that is called by its name. -/
  | method
  /-- An operation that stands for an operator or a rule. -/
  | slot
  /-- A part that is computed. -/
  | computed
  /-- A part that is kept. -/
  | kept
  /-- An operation of the sort itself. -/
  | ofSort
  /-- An operation that needs neither a value nor the sort. -/
  | free
  /-- The operation that makes values of the sort. -/
  | maker
  /-- A trait of the parent that values of the sort do not have. -/
  | missing
deriving DecidableEq, Repr, Inhabited

/-- What is known about a sort. -/
structure SortInfo where
  name : String
  parent : Option String := none
  /-- The part of the system that the sort belongs to. -/
  home : String := "builtins"
  traits : List (String × TraitKind) := []
  /-- The sizes of a value of the sort and of its items, the marks of the sort, and where a value
  keeps references to it and its further parts. -/
  sizes : List Nat := []
  /-- The arguments that making a value takes, if they are known. -/
  signature : Option String := none
  doc : Option String := none
deriving Repr, Inhabited

namespace Sorts

/-- Traits of one kind, from their names. -/
def traits (kind : TraitKind) (names : String) : List (String × TraitKind) :=
  (names.splitOn " ").map (·, kind)

def methods : String → List (String × TraitKind) := traits .method

def slots : String → List (String × TraitKind) := traits .slot

def computed : String → List (String × TraitKind) := traits .computed

def kept : String → List (String × TraitKind) := traits .kept

def ofSort : String → List (String × TraitKind) := traits .ofSort

def free : String → List (String × TraitKind) := traits .free

def maker : List (String × TraitKind) := traits .maker "__new__"

/-- Values of the sort may change, so nothing can be looked up by them. -/
def noHash : List (String × TraitKind) := traits .missing "__hash__"

/-- A sort of faults that is made like any other. -/
def plainFault (name parent doc : String) : SortInfo :=
  { name, parent := some parent, traits := maker ++ slots "__init__", doc := some doc }

/-- A sort of faults of the file system. -/
def fileFault (name doc : String) : SortInfo :=
  { name, parent := some "OSError", traits := slots "__init__", doc := some doc }

/-- A sort without traits of its own. -/
def bare (name parent home : String) : SortInfo := { name, parent := some parent, home }

/-- A sort of faults of another part of the system. -/
def foreignFault (name parent home : String) : SortInfo :=
  { bare name parent home with traits := computed "__weakref__" }

/-- All sorts with traits. -/
def all : List SortInfo := [
  { name := "object"
    traits := maker ++
      slots ("__repr__ __hash__ __str__ __getattribute__ __setattr__ __delattr__ __lt__ " ++
      "__le__ __eq__ __ne__ __gt__ __ge__ __init__") ++
      methods "__reduce_ex__ __reduce__ __getstate__" ++
      ofSort "__subclasshook__ __init_subclass__" ++
      methods "__format__ __sizeof__ __dir__" ++
      computed "__class__"
    sizes := [16, 0, 529664, 0, 0]
    signature := some "()"
    doc := some ("The base class of the class hierarchy.\n\nWhen called, it accepts no " ++
      "arguments and returns a new featureless\ninstance that has no instance attributes and " ++
      "cannot be given any.\n") },
  { name := "int"
    parent := some "object"
    traits := maker ++
      slots ("__repr__ __hash__ __getattribute__ __lt__ __le__ __eq__ __ne__ __gt__ __ge__ " ++
      "__add__ __radd__ __sub__ __rsub__ __mul__ __rmul__ __mod__ __rmod__ __divmod__ " ++
      "__rdivmod__ __pow__ __rpow__ __neg__ __pos__ __abs__ __bool__ __invert__ __lshift__ " ++
      "__rlshift__ __rshift__ __rrshift__ __and__ __rand__ __xor__ __rxor__ __or__ __ror__ " ++
      "__int__ __float__ __floordiv__ __rfloordiv__ __truediv__ __rtruediv__ __index__") ++
      methods "conjugate bit_length bit_count to_bytes" ++
      ofSort "from_bytes" ++
      methods ("as_integer_ratio __trunc__ __floor__ __ceil__ __round__ __getnewargs__ " ++
      "__format__ __sizeof__") ++
      computed "real imag numerator denominator"
    sizes := [24, 4, 21501184, 0, 0]
    doc := some ("int([x]) -> integer\nint(x, base=10) -> integer\n\nConvert a number or " ++
      "string to an integer, or return 0 if no arguments\nare given.  If x is a number, " ++
      "return x.__int__().  For floating point\nnumbers, this truncates towards zero.\n\nIf x " ++
      "is not a number or if base is given, then x must be a string,\nbytes, or bytearray " ++
      "instance representing an integer literal in the\ngiven base.  The literal can be " ++
      "preceded by '+' or '-' and be surrounded\nby whitespace.  The base defaults to 10.  " ++
      "Valid bases are 0 and 2-36.\nBase 0 means to interpret the base from the string as an " ++
      "integer literal.\n>>> int('0b100', base=0)\n4") },
  { name := "bool"
    parent := some "int"
    traits := maker ++
      slots "__repr__ __and__ __rand__ __xor__ __rxor__ __or__ __ror__"
    sizes := [32, 4, 21500160, 0, 0]
    doc := some ("bool(x) -> bool\n\nReturns True when the argument x is true, False " ++
      "otherwise.\nThe builtins True and False are the only two instances of the class " ++
      "bool.\nThe class bool is a subclass of the class int, and cannot be subclassed.") },
  { name := "float"
    parent := some "object"
    traits := maker ++
      slots ("__repr__ __hash__ __getattribute__ __lt__ __le__ __eq__ __ne__ __gt__ __ge__ " ++
      "__add__ __radd__ __sub__ __rsub__ __mul__ __rmul__ __mod__ __rmod__ __divmod__ " ++
      "__rdivmod__ __pow__ __rpow__ __neg__ __pos__ __abs__ __bool__ __int__ __float__ " ++
      "__floordiv__ __rfloordiv__ __truediv__ __rtruediv__") ++
      methods "conjugate __trunc__ __floor__ __ceil__ __round__ as_integer_ratio" ++
      ofSort "fromhex" ++
      methods "hex is_integer __getnewargs__" ++
      ofSort "__getformat__" ++
      methods "__format__" ++
      computed "real imag"
    sizes := [24, 0, 4723968, 0, 0]
    signature := some "(x=0, /)"
    doc := some "Convert a string or number to a floating point number, if possible." },
  { name := "str"
    parent := some "object"
    traits := maker ++
      slots ("__repr__ __hash__ __str__ __getattribute__ __lt__ __le__ __eq__ __ne__ __gt__ " ++
      "__ge__ __iter__ __mod__ __rmod__ __len__ __getitem__ __add__ __mul__ __rmul__ " ++
      "__contains__") ++
      methods ("encode replace split rsplit join capitalize casefold title center count " ++
      "expandtabs find partition index ljust lower lstrip rfind rindex rjust rstrip " ++
      "rpartition splitlines strip swapcase translate upper startswith endswith removeprefix " ++
      "removesuffix isascii islower isupper istitle isspace isdecimal isdigit isnumeric " ++
      "isalpha isalnum isidentifier isprintable zfill format format_map __format__") ++
      free "maketrans" ++
      methods "__sizeof__ __getnewargs__"
    sizes := [80, 0, 273159424, 0, 0]
    doc := some ("str(object='') -> str\nstr(bytes_or_buffer[, encoding[, errors]]) -> " ++
      "str\n\nCreate a new string object from the given object. If encoding or\nerrors is " ++
      "specified, then the object must expose a data buffer\nthat will be decoded using the " ++
      "given encoding and error handler.\nOtherwise, returns the result of object.__str__() " ++
      "(if defined)\nor repr(object).\nencoding defaults to sys.getdefaultencoding().\nerrors " ++
      "defaults to 'strict'.") },
  { name := "list"
    parent := some "object"
    traits := maker ++
      slots "__repr__" ++
      noHash ++
      slots ("__getattribute__ __lt__ __le__ __eq__ __ne__ __gt__ __ge__ __iter__ __init__ " ++
      "__len__") ++
      methods "__getitem__" ++
      slots ("__setitem__ __delitem__ __add__ __mul__ __rmul__ __contains__ __iadd__ " ++
      "__imul__") ++
      methods ("__reversed__ __sizeof__ clear copy append insert extend pop remove index " ++
      "count reverse sort") ++
      ofSort "__class_getitem__"
    sizes := [40, 0, 38294816, 0, 0]
    signature := some "(iterable=(), /)"
    doc := some ("Built-in mutable sequence.\n\nIf no argument is given, the constructor " ++
      "creates a new empty list.\nThe argument must be an iterable if specified.") },
  { name := "dict"
    parent := some "object"
    traits := maker ++
      slots "__repr__" ++
      noHash ++
      slots ("__getattribute__ __lt__ __le__ __eq__ __ne__ __gt__ __ge__ __iter__ __init__ " ++
      "__or__ __ror__ __ior__ __len__") ++
      methods "__getitem__" ++
      slots "__setitem__ __delitem__" ++
      methods "__contains__ __sizeof__ get setdefault pop popitem keys items values update" ++
      ofSort "fromkeys" ++
      methods "clear copy __reversed__" ++
      ofSort "__class_getitem__"
    sizes := [48, 0, 541611328, 0, 0]
    doc := some ("dict() -> new empty dictionary\ndict(mapping) -> new dictionary " ++
      "initialized from a mapping object's\n    (key, value) pairs\ndict(iterable) -> new " ++
      "dictionary initialized as if via:\n    d = \x7b\x7d\n    for k, v in " ++
      "iterable:\n        d[k] = v\ndict(**kwargs) -> new dictionary initialized with the " ++
      "name=value pairs\n    in the keyword argument list.  For example:  dict(one=1, two=2)") },
  { name := "tuple"
    parent := some "object"
    traits := maker ++
      slots ("__repr__ __hash__ __getattribute__ __lt__ __le__ __eq__ __ne__ __gt__ __ge__ " ++
      "__iter__ __len__ __getitem__ __add__ __mul__ __rmul__ __contains__") ++
      methods "__getnewargs__ index count" ++
      ofSort "__class_getitem__"
    sizes := [24, 8, 71849248, 0, 0]
    signature := some "(iterable=(), /)"
    doc := some ("Built-in immutable sequence.\n\nIf no argument is given, the constructor " ++
      "returns an empty tuple.\nIf iterable is specified the tuple is initialized from " ++
      "iterable's items.\n\nIf the argument is a tuple, the return value is the same object.") },
  { name := "NoneType"
    parent := some "object"
    traits := maker ++
      slots "__repr__ __bool__"
    sizes := [16, 0, 528640, 0, 0] },
  { name := "bytes"
    parent := some "object"
    traits := maker ++
      slots ("__repr__ __hash__ __str__ __getattribute__ __lt__ __le__ __eq__ __ne__ __gt__ " ++
      "__ge__ __iter__ __mod__ __rmod__ __len__ __getitem__ __add__ __mul__ __rmul__ " ++
      "__contains__") ++
      methods ("__getnewargs__ __bytes__ capitalize center count decode endswith expandtabs " ++
      "find") ++
      ofSort "fromhex" ++
      methods ("hex index isalnum isalpha isascii isdigit islower isspace istitle isupper " ++
      "join ljust lower lstrip") ++
      free "maketrans" ++
      methods ("partition replace removeprefix removesuffix rfind rindex rjust rpartition " ++
      "rsplit rstrip split splitlines startswith strip swapcase title translate upper zfill")
    sizes := [33, 1, 138941696, 0, 0]
    doc := some ("bytes(iterable_of_ints) -> bytes\nbytes(string, encoding[, errors]) -> " ++
      "bytes\nbytes(bytes_or_buffer) -> immutable copy of bytes_or_buffer\nbytes(int) -> " ++
      "bytes object of size given by the parameter initialized with null bytes\nbytes() -> " ++
      "empty bytes object\n\nConstruct an immutable array of bytes from:\n  - an iterable " ++
      "yielding integers in range(256)\n  - a text string encoded using the specified " ++
      "encoding\n  - any object implementing the buffer API.\n  - an integer") },
  { name := "type"
    parent := some "object"
    traits := maker ++
      slots ("__repr__ __call__ __getattribute__ __setattr__ __delattr__ __init__ __or__ " ++
      "__ror__") ++
      methods "mro __subclasses__" ++
      ofSort "__prepare__" ++
      methods "__instancecheck__ __subclasscheck__ __dir__ __sizeof__" ++
      kept ("__basicsize__ __itemsize__ __flags__ __weakrefoffset__ __base__ __dictoffset__ " ++
      "__mro__") ++
      computed ("__name__ __qualname__ __bases__ __module__ __abstractmethods__ __dict__ " ++
      "__text_signature__ __annotations__")
    sizes := [904, 40, 2148031744, 368, 264] },
  { name := "builtin_function_or_method"
    parent := some "object"
    traits := slots ("__repr__ __hash__ __call__ __getattribute__ __lt__ __le__ __eq__ " ++
      "__ne__ __gt__ __ge__") ++
      methods "__reduce__" ++
      kept "__module__" ++
      computed "__name__ __qualname__ __self__ __text_signature__" },
  { name := "method-wrapper"
    parent := some "object"
    traits := slots ("__repr__ __hash__ __call__ __getattribute__ __lt__ __le__ __eq__ " ++
      "__ne__ __gt__ __ge__") ++
      methods "__reduce__" ++
      kept "__self__" ++
      computed "__objclass__ __name__ __qualname__ __text_signature__" },
  { name := "method_descriptor"
    parent := some "object"
    traits := slots "__repr__ __call__ __getattribute__ __get__" ++
      methods "__reduce__" ++
      kept "__objclass__ __name__" ++
      computed "__qualname__ __text_signature__" },
  { name := "wrapper_descriptor"
    parent := some "object"
    traits := slots "__repr__ __call__ __getattribute__ __get__" ++
      methods "__reduce__" ++
      kept "__objclass__ __name__" ++
      computed "__qualname__ __text_signature__" },
  { name := "getset_descriptor"
    parent := some "object"
    traits := slots "__repr__ __getattribute__ __get__ __set__ __delete__" ++
      kept "__objclass__ __name__" ++
      computed "__qualname__" },
  { name := "member_descriptor"
    parent := some "object"
    traits := slots "__repr__ __getattribute__ __get__ __set__ __delete__" ++
      methods "__reduce__" ++
      kept "__objclass__ __name__" ++
      computed "__qualname__" },
  { name := "classmethod_descriptor"
    parent := some "object"
    traits := slots "__repr__ __call__ __getattribute__ __get__" ++
      kept "__objclass__ __name__" ++
      computed "__qualname__ __text_signature__" },
  { name := "staticmethod"
    parent := some "object"
    traits := maker ++
      slots "__repr__ __call__ __get__ __init__" ++
      kept "__func__ __wrapped__" ++
      computed "__isabstractmethod__ __dict__" },
  { name := "mappingproxy"
    parent := some "object"
    traits := maker ++
      slots ("__repr__ __str__ __getattribute__ __lt__ __le__ __eq__ __ne__ __gt__ __ge__ " ++
      "__iter__ __or__ __ror__ __ior__ __len__ __getitem__ __contains__") ++
      methods "get keys values items copy" ++
      ofSort "__class_getitem__" ++
      methods "__reversed__" ++
      noHash },
  { name := "traceback"
    parent := some "object"
    traits := maker ++
      slots "__getattribute__" ++
      methods "__dir__" ++
      kept "tb_frame tb_lasti" ++
      computed "tb_next tb_lineno" },
  { name := "BaseException"
    parent := some "object"
    traits := maker ++
      slots "__repr__ __str__ __getattribute__ __setattr__ __delattr__ __init__" ++
      methods "__reduce__ __setstate__ with_traceback add_note" ++
      kept "__suppress_context__" ++
      computed "__dict__ args __traceback__ __context__ __cause__"
    doc := some "Common base class for all exceptions" },
  plainFault "Exception" "BaseException" "Common base class for all non-exit exceptions.",
  plainFault "ValueError" "Exception" "Inappropriate argument value (of correct type).",
  plainFault "TypeError" "Exception" "Inappropriate argument type.",
  { name := "AttributeError"
    parent := some "Exception"
    traits := slots "__str__ __init__" ++
      kept "name obj"
    doc := some "Attribute not found." },
  plainFault "LookupError" "Exception" "Base class for lookup errors.",
  { name := "KeyError"
    parent := some "LookupError"
    traits := slots "__str__ __init__"
    doc := some "Mapping key not found." },
  plainFault "IndexError" "LookupError" "Sequence index out of range.",
  plainFault "RuntimeError" "Exception" "Unspecified run-time error.",
  plainFault "RecursionError" "RuntimeError" "Recursion limit exceeded.",
  plainFault "ArithmeticError" "Exception" "Base class for arithmetic errors.",
  plainFault "OverflowError" "ArithmeticError" "Result too large to be represented.",
  plainFault "MemoryError" "Exception" "Out of memory.",
  { name := "StopIteration"
    parent := some "Exception"
    traits := slots "__init__" ++
      kept "value"
    doc := some "Signal the end from iterator.__next__()." },
  { name := "OSError"
    parent := some "Exception"
    traits := maker ++
      slots "__str__ __init__" ++
      methods "__reduce__" ++
      kept "errno strerror filename filename2" ++
      computed "characters_written"
    doc := some "Base class for I/O related errors." },
  fileFault "FileNotFoundError" "File not found.",
  fileFault "FileExistsError" "File already exists.",
  fileFault "NotADirectoryError" "Operation only works on directories.",
  fileFault "IsADirectoryError" "Operation doesn't work on directories.",
  plainFault "UnicodeError" "ValueError" "Unicode related error.",
  { name := "UnicodeDecodeError"
    parent := some "UnicodeError"
    traits := maker ++
      slots "__str__ __init__" ++
      kept "encoding object start end reason"
    doc := some "Unicode decoding error." },
  { name := "JSONDecodeError"
    parent := some "ValueError"
    home := "json.decoder"
    traits := computed "__weakref__"
    doc := some ("Subclass of ValueError with the following additional properties:\n\n    " ++
      "msg: The unformatted error message\n    doc: The JSON document being parsed\n    pos: " ++
      "The start index of doc where parsing failed\n    lineno: The line corresponding to " ++
      "pos\n    colno: The column corresponding to pos\n\n    ") },
  foreignFault "Error" "Exception" "sqlite3",
  bare "DatabaseError" "sqlite3.Error" "sqlite3",
  bare "OperationalError" "DatabaseError" "sqlite3",
  bare "ProgrammingError" "DatabaseError" "sqlite3",
  bare "IntegrityError" "DatabaseError" "sqlite3",
  foreignFault "Error" "OSError" "shutil",
  { name := "SameFileError"
    parent := some "shutil.Error"
    home := "shutil"
    doc := some "Raised when source and destination are the same file." },
  foreignFault "UnidentifiedImageError" "OSError" "PIL",
  foreignFault "DecompressionBombError" "Exception" "PIL.Image",
  foreignFault "TclError" "Exception" "_tkinter",
  bare "Image" "object" "PIL.Image",
  bare "ImageFile" "Image" "PIL.ImageFile",
  bare "PngImageFile" "ImageFile" "PIL.PngImagePlugin",
  bare "JpegImageFile" "ImageFile" "PIL.JpegImagePlugin",
  bare "BmpImageFile" "ImageFile" "PIL.BmpImagePlugin",
  bare "WebPImageFile" "ImageFile" "PIL.WebPImagePlugin",
  bare "GifImageFile" "ImageFile" "PIL.GifImagePlugin",
  bare "TiffImageFile" "ImageFile" "PIL.TiffImagePlugin"]

/-- What is known about the sort with a name, which may be a full one. A sort that is not listed has
no traits of its own. -/
def info (name : String) : SortInfo :=
  (all.find? fun s => s.name = name || s.home ++ "." ++ s.name = name).getD
    { name, parent := some "object" }

/-- A sort, its parent, and so on. `fuel` bounds their number. -/
def lineageFrom : Nat → String → List SortInfo
  | 0, _ => []
  | fuel + 1, name =>
    let s := info name
    s :: match s.parent with
      | some parent => lineageFrom fuel parent
      | none => []

/-- A sort, its parent, and so on to the sort of all values. -/
def lineage (name : String) : List SortInfo := lineageFrom 8 name

/-- The trait with a name, and the sort that brings it along. -/
def trait? (sort name : String) : Option (SortInfo × TraitKind) :=
  (lineage sort).findSome? fun s => (s.traits.lookup name).map (s, ·)

/-- The name of a sort together with the part of the system that it belongs to. -/
def qualified (name : String) : String :=
  let s := info name
  if s.home = "builtins" then s.name else s.home ++ "." ++ s.name

end Sorts

/-- A trait written out, with the sort that it belongs to. -/
def TraitKind.written (kind : TraitKind) (name owner : String) : String :=
  let built := "<built-in method " ++ name ++ " of type object>"
  let described (word : String) := "<" ++ word ++ " '" ++ name ++ "' of '" ++ owner ++ "' objects>"
  match kind with
  | method | ofSort => described "method"
  | slot => described "slot wrapper"
  | computed => described "attribute"
  | kept => described "member"
  | maker => built
  | free => "<staticmethod(" ++ built ++ ")>"
  | missing => "None"

/-- The name of the sort that a trait is of. -/
def TraitKind.typeName : TraitKind → String
  | method => "method_descriptor"
  | slot => "wrapper_descriptor"
  | computed => "getset_descriptor"
  | kept => "member_descriptor"
  | ofSort => "classmethod_descriptor"
  | maker => "builtin_function_or_method"
  | free => "staticmethod"
  | missing => "NoneType"

/-- The names that a sort itself brings along, written out. -/
def SortInfo.written (s : SortInfo) : String :=
  let traits := s.traits.map fun (name, kind) =>
    Text.quoted name ++ ": " ++ kind.written name s.name
  let doc := "'__doc__': " ++ (s.doc.map Text.quoted).getD "None"
  "\x7b" ++ ", ".intercalate (traits ++ [doc]) ++ "\x7d"

end PromptStudio

import PromptStudio.Fault

/-!
# Kinds of failure

Each cause of failure belongs to a kind with a name. As a value, a failure shows its message, and it
has fields that a template can name: what it was made from, and the details of its kind.
-/

namespace PromptStudio

/-- The kind of a fault with a value. -/
def ValueFault.kind : ValueFault → String
  | noField .. => "AttributeError"
  | itemRange _ | textRange | byteRange | indexSize => "IndexError"
  | missing _ => "KeyError"
  | tooManyItems | tooFewItems _ | notInList => "ValueError"
  | infiniteInteger => "OverflowError"
  | _ => "TypeError"

/-- The kind of a fault with a template. -/
def Template.Fault.kind : Template.Fault → String
  | missing _ => "KeyError"
  | position _ => "IndexError"
  | unsupported _ => "TypeError"
  | codePointRange | codePointSize | wholeSize => "OverflowError"
  | memory => "MemoryError"
  | value fault => fault.kind
  | _ => "ValueError"

/-- The kind of a cause for which an operation on a path failed. -/
def FileCause.kind : FileCause → String
  | missing => "FileNotFoundError"
  | occupied => "FileExistsError"
  | notFolder => "NotADirectoryError"
  | isFolder => "IsADirectoryError"
  | nameTooLong => "OSError"
  | nul => "ValueError"

/-- The kind of a refusal of the store. -/
def StoreFault.kind : StoreFault → String
  | binding .. => "ProgrammingError"
  | intRange => "OverflowError"
  | notUnique .. => "IntegrityError"
  | notDatabase => "DatabaseError"
  | _ => "OperationalError"

def Json.Problem.kind : Json.Problem → String
  | longNumber _ => "ValueError"
  | nesting _ => "RecursionError"
  | _ => "JSONDecodeError"

def TimeFault.kind : TimeFault → String
  | notNumber | year _ => "ValueError"
  | range | field => "OverflowError"
  | record => "OSError"

namespace Fault

/-- The kind of a fault. -/
def kind : Fault → String
  | value fault => fault.kind
  | template fault => fault.kind
  | store fault => fault.kind
  | file fault => fault.cause.kind
  | copy .. => "SameFileError"
  | noPicture _ => "UnidentifiedImageError"
  | hugePicture _ => "DecompressionBombError"
  | json fault _ => fault.problem.kind
  | encoding .. => "UnicodeDecodeError"
  | time fault => fault.kind
  | service _ => "RuntimeError"
  | refused _ => "ValueError"
  | window _ => "TclError"
  | unsaved _ => "OSError"
  | command .. => "FileNotFoundError"
  | unavailable _ => "AttributeError"
  | badPath _ => "BadPath"

def systemFields (number text path : Value) : List (String × Value) :=
  [("errno", number), ("strerror", text), ("filename", path), ("filename2", .null)]

def plainSystemFields : List (String × Value) := systemFields .null .null .null

/-- The number and the name that the store has for a refusal. -/
def storeCode? : StoreFault → Option (Nat × String)
  | .noTable _ | .noColumn _ | .noColumnIn .. => some (1, "SQLITE_ERROR")
  | .notUnique .. => some (1555, "SQLITE_CONSTRAINT_PRIMARYKEY")
  | .notDatabase => some (26, "SQLITE_NOTADB")
  | .cannotOpen => some (14, "SQLITE_CANTOPEN")
  | .intRange | .binding .. => none

/-- Where a value was expected, the reader came to the end of what it could read, and the failure
stands for that one. -/
def jsonContext (fault : Json.ReadFault) : List (String × Value) :=
  match fault.problem with
  | .value =>
    let stop := Value.int fault.position
    [("__context__", .failure "StopIteration" (toString fault.position) [stop] [("value", stop)]),
      ("__suppress_context__", .bool true)]
  | _ => []

/-- What a failure was made from, if it is not just its message, and the fields of its kind. -/
def details (fault : Fault) : Option (List Value) × List (String × Value) :=
  match fault with
  | value (.missing key) => (some [key.toValue], [])
  | value (.noField owner name) => (none, [("name", .text name), ("obj", owner)])
  | template (.value (.noField owner name)) => (none, [("name", .text name), ("obj", owner)])
  | template (.missing name) => (some [.text name], [])
  | file fault =>
    if fault.cause = .nul then (none, [])
    else
      let number : Value := .int fault.cause.number
      let text : Value := .text fault.cause.text
      (some [number, text], systemFields number text (.text fault.path))
  | command reason name => (some [.int 2, .text reason],
      systemFields (.int 2) (.text reason) (.text name))
  | time .record => (some [.int 75, .text TimeFault.recordText],
      systemFields (.int 75) (.text TimeFault.recordText) .null)
  | copy .. | noPicture _ | unsaved _ => (none, plainSystemFields)
  | json fault source =>
    if fault.problem.isSyntax then
      (none, [("msg", .text fault.problem.text), ("doc", .text source),
        ("pos", .int fault.position), ("lineno", .int (fault.line source)),
        ("colno", .int (fault.column source))] ++ jsonContext fault)
    else (none, [])
  | store fault =>
    (none, match storeCode? fault with
      | some (number, name) => [("sqlite_errorcode", .int number), ("sqlite_errorname", .text name)]
      | none => [])
  | encoding fault content =>
    let range : List (String × Value) := [("encoding", .text "utf-8"), ("object", .data content),
      ("start", .int fault.start), ("end", .int fault.stop), ("reason", .text fault.reason)]
    (some (range.map Prod.snd), range)
  | _ => (none, [])

def toValue (fault : Fault) : Value :=
  let (args, fields) := fault.details
  .failure fault.kind fault.message (args.getD [.text fault.message]) fields

end Fault

end PromptStudio

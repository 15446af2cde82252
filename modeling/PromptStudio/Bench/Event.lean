import PromptStudio.Desktop.Node

/-!
# Calls to the outside

What the program asks of the outside world, and what it tells those who listen to it, in order:
requests to the image service, commands, dialogs, notices and callbacks.
-/

namespace PromptStudio

/-- The weight of a notice in the browser. -/
inductive NoticeLevel where
  | info
  | warning
  | error
deriving DecidableEq, Repr, Inhabited

/-- The dialogs that ask for a file or a folder. -/
inductive PickerKind where
  | pickFiles
  | saveFile
  | pickFolder
deriving DecidableEq, Repr, Inhabited

def PickerKind.request : PickerKind → String
  | pickFiles => "pick_files"
  | saveFile => "save_file"
  | pickFolder => "get_directory_path"

/-- A moment in the life of a job at which its owner is called. -/
inductive Hook where
  | onStart
  | onSuccess
  | onError
  | onFinally
deriving DecidableEq, Repr, Inhabited

/-- A call to the outside. -/
inductive Event where
  | slept (milliseconds : Nat)
  | clientMade (key : Value)
  | imageRequested (model : Value) (contents : List Value) (config : Value)
  | chatMade (model config : Value)
  | messageSent (chat : Nat) (parts config : Value)
  | commandRun (words : List String)
  | fileStarted (path : String)
  | restarted
  | notice (level : NoticeLevel) (text : Value)
  | folderAsked
  | windowClosed
  | pickerAsked (kind : PickerKind) (options : List (String × Value))
  | snackbar (text : Value) (colour : String)
  | dialogShown (tree : Node)
  | dialogClosed
  | broadcast (topic : String)
  | taskRun (id : Value) (arguments : Value)
  | hookCalled (hook : Hook) (id : Value) (arguments : List Value)
  | queueNotified (name : String)
  | logHeard (name text : String)
  | replyShown (parts session : Value)
  | historyRefreshed
  | imageSelected (path : Value)
  | deletionReported (images : Value)
deriving Repr, Inhabited

end PromptStudio

import PromptStudio.Value.Basic

/-!
# Actions of the desktop interface

Everything that a page can be asked to do, whether a control asks for it, a finished job, or the
page itself. Pages of each kind, previews and cards are known by number, and so are the parts of the
interface that keep controls.
-/

namespace PromptStudio

/-- What a list of prompts beside an input can do. -/
inductive PromptAction where
  | refresh
  | load
  | save
  | delete
deriving DecidableEq, Repr, Inhabited

/-- What the page for single images can do. -/
inductive EditAction where
  | prompt (action : PromptAction)
  | add (path : Value)
  | remove (path : Value)
  | showSelection
  | showLog (text : Value)
  | send (lock : Value)
  | taskStarted (lock : Value)
  | taskSucceeded (image : Value)
  | taskFailed (message : Value)
  | taskFinished
  | download
  | start
deriving Repr, Inhabited

/-- What a gallery of a folder can do. -/
inductive GalleryAction where
  | layOut
  | load (folder deep : Value)
  | browse
  | changeDepth
  | refresh
  | select (path : Value)
  | preview (path : Value)
deriving Repr, Inhabited

/-- What the chat page can do. -/
inductive ChatAction where
  | prompt (action : PromptAction)
  | send
  | upload
  | removeUpload (path : Value)
  | showUploads
  | clear
  | preview (path : Value)
  | replySucceeded (reply : Value)
  | replyFailed (message : Value)
  | replyFinished
  | start
deriving Repr, Inhabited

/-- What the page of prompts can do. -/
inductive PromptsAction where
  | load
  | add
  | saveOrder
  /-- Deletes the prompt of a title and takes a card away. -/
  | delete (title : Value) (card : Option Nat)
deriving Repr, Inhabited

/-- What the card of a prompt can do. -/
inductive CardAction where
  | toTop
  | toBottom
  | up
  | down
  | display
  | edit
  | save
  | delete
deriving DecidableEq, Repr, Inhabited

/-- What the history page can do. -/
inductive HistoryAction where
  | layOut
  | load
  | preview (index : Value)
  | openFolder
deriving Repr, Inhabited

/-- What a preview can do. -/
inductive PreviewAction where
  | previous
  | next
  | download
  | delete
  | close
  | goTo (index : Value)
  | report
deriving Repr, Inhabited

/-- What the queue page can do. A job is known by its ticket. -/
inductive QueueAction where
  | refresh
  | cancel (ticket : Nat)
  | details (ticket : Nat)
  | closeDetails
deriving DecidableEq, Repr, Inhabited

/-- What the settings page can do. -/
inductive SettingsAction where
  | load
  | save
  | clearCache
  | openCache
  | askClear
  | clear
  | closeClear
  | closeImport
  | backup
  | restore
  | pickFolder
deriving DecidableEq, Repr, Inhabited

/-- The parts of the desktop interface that keep controls under names: pages, what all pages of a
kind share, and windows. -/
inductive Holder where
  | edit (page : Nat)
  | gallery (gallery : Nat)
  | chat (page : Nat)
  | prompts (page : Nat)
  | card (page card : Nat)
  | history (page : Nat)
  | preview (preview : Nat)
  | queue (page : Nat)
  /-- The details of a job, which the queue page has shown. -/
  | details (page dialog : Nat)
  | settings (page : Nat)
  | editShared
  | galleryShared
  | settingsShared
  | window (window : Nat)
deriving DecidableEq, Repr, Inhabited

/-- What the desktop interface can do. -/
inductive Action where
  | edit (page : Nat) (action : EditAction)
  | gallery (gallery : Nat) (action : GalleryAction)
  | chat (page : Nat) (action : ChatAction)
  | prompts (page : Nat) (action : PromptsAction)
  | card (page card : Nat) (action : CardAction)
  | history (page : Nat) (action : HistoryAction)
  | preview (preview : Nat) (action : PreviewAction)
  | queue (page : Nat) (action : QueueAction)
  | settings (page : Nat) (action : SettingsAction)
  | toggleTheme (window : Nat)
deriving Repr, Inhabited

end PromptStudio

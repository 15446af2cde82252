import PromptStudio.Desktop.Tabs
import PromptStudio.Studio.Host

/-!
# Performing actions

What the desktop interface does when it is asked to do something: the page that an action belongs
to does it, and jobs are put in line or cancelled.
-/

namespace PromptStudio

/-- Tells the owner of a gallery of a selected image. -/
def GalleryOwner.select (owner : GalleryOwner) (path : Value) : DeskStep Unit :=
  match owner with
  | nobody => pure ()
  | probe => onBench (recordEvent (.imageSelected path))
  | edit page => EditPage.add page path

/-- Tells the owner of a preview of a deleted image. -/
def PreviewOwner.report (owner : PreviewOwner) (images : Value) : DeskStep Unit :=
  match owner with
  | nobody => pure ()
  | probe => onBench (recordEvent (.deletionReported images))
  | history page => HistoryPage.load page

def submit (job : Job Task) : StudioStep Unit := modify (deskHost.add job)

def EditPage.send (page : Nat) (lock : Value) : StudioStep Unit := do
  match ← onDesk (EditPage.order page lock) with
  | some job =>
    submit job
    EditPage.announce
  | none => pure ()

def ChatPage.send (page : Nat) : StudioStep Unit := do
  match ← onDesk (ChatPage.message page) with
  | some job => submit job
  | none => pure ()

/-- What the page for single images does. -/
def EditPage.perform (page : Nat) : EditAction → StudioStep Unit
  | .prompt a => onDesk (PromptReader.perform (.edit page) a)
  | .add path => onDesk (EditPage.add page path)
  | .remove path => onDesk (EditPage.remove page path)
  | .showSelection => onDesk (EditPage.showSelection page)
  | .showLog text => onDesk (EditPage.showLog page text)
  | .send lock => EditPage.send page lock
  | .taskStarted lock => onDesk (EditPage.taskStarted page lock)
  | .taskSucceeded image => onDesk (EditPage.taskSucceeded page image)
  | .taskFailed message => onDesk (EditPage.taskFailed page message)
  | .taskFinished => onDesk (EditPage.taskFinished page)
  | .download => onDesk (EditPage.download page)
  | .start => onDesk (EditPage.start page)

/-- What a gallery does. -/
def Gallery.perform (n : Nat) (event : Value) : GalleryAction → DeskStep Unit
  | .layOut => Gallery.layOut n event
  | .load folder deep => Gallery.load n folder deep
  | .browse => Gallery.browse n
  | .changeDepth => Gallery.changeDepth n event
  | .refresh => Gallery.refresh n
  | .select path => do ((← get).galleries[n]?.getD default).owner.select path
  | .preview path => Gallery.preview n path

/-- What the chat page does. -/
def ChatPage.perform (page : Nat) : ChatAction → StudioStep Unit
  | .prompt a => onDesk (PromptReader.perform (.chat page) a)
  | .send => ChatPage.send page
  | .upload => onDesk (ChatPage.upload page)
  | .removeUpload path => onDesk (ChatPage.removeUpload page path)
  | .showUploads => onDesk (ChatPage.showUploads page)
  | .clear => onDesk (ChatPage.clear page)
  | .preview path => onDesk (ChatPage.preview page path)
  | .replySucceeded reply => onDesk (ChatPage.replySucceeded page reply)
  | .replyFailed message => onDesk (ChatPage.replyFailed page message)
  | .replyFinished => onDesk (ChatPage.replyFinished page)
  | .start => onDesk (ChatPage.start page)

/-- What the page of prompts does. -/
def PromptsPage.perform (page : Nat) : PromptsAction → DeskStep Unit
  | .load => PromptsPage.load page
  | .add => PromptsPage.add page
  | .saveOrder => PromptsPage.saveOrder page
  | .delete title card => PromptsPage.deleteTitled page title card

/-- What the history page does. -/
def HistoryPage.perform (page : Nat) (event : Value) : HistoryAction → DeskStep Unit
  | .layOut => HistoryPage.layOut page event
  | .load => HistoryPage.load page
  | .preview index => HistoryPage.preview page index
  | .openFolder => onBench HistoryPage.openOutput

/-- What a preview does. -/
def Preview.perform (n : Nat) : PreviewAction → DeskStep Unit
  | .previous => Preview.previous n
  | .next => Preview.next n
  | .download => Preview.download n
  | .delete => Preview.delete n (report n)
  | .close => do closeDialog (← Preview.numbered n).window
  | .goTo index => Preview.goTo n index
  | .report => report n
where
  /-- Tells the owner of the preview of a deleted image. -/
  report (n : Nat) : DeskStep Unit := do
    let p ← Preview.numbered n
    p.owner.report (Preview.imagesOf (← get) p)

/-- What the queue page does. Cancelling says whether a job was cancelled. -/
def QueuePage.perform (page : Nat) : QueueAction → StudioStep Value
  | .refresh => do
    onDesk (QueuePage.refresh page (← get).1)
    pure .null
  | .cancel ticket => do
    match (← get).1.job? ticket with
    | some job =>
      let (cancelled, s) := deskHost.cancel job.id (← get)
      set s
      pure (.bool cancelled)
    | none => pure .null
  | .details ticket => do
    match (← get).1.job? ticket with
    | some job =>
      onDesk (QueuePage.showDetails page job)
      pure .null
    | none => pure .null
  | .closeDetails => do
    onDesk (closeDialog ((← get).2.queues[page]?.getD default).window)
    pure .null

def Shown.opening? : Shown → Option Action
  | edit page => some (.edit page .start)
  | chat page => some (.chat page .start)
  | prompts page => some (.prompts page .load)
  | _ => none

/-- Performs an action and gives its answer. -/
def perform (action : Action) (event : Value) : StudioStep Value := do
  match action with
  | .edit page a => EditPage.perform page a
  | .gallery n a => Gallery.perform n event a
  | .chat page a => ChatPage.perform page a
  | .prompts page a => PromptsPage.perform page a
  | .card page card a => PromptsPage.performCard page card a
  | .history page a => HistoryPage.perform page event a
  | .preview n a => Preview.perform n a
  | .queue page a => return ← QueuePage.perform page a
  | .settings page a => SettingsPage.perform page a
  | .toggleTheme window => Window.toggleTheme window
  pure .null

end PromptStudio

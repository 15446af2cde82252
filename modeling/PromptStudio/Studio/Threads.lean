import PromptStudio.Desktop.Settings
import PromptStudio.Studio.Background

/-!
# Turns of the background

Work that was left to the background runs when its turn comes, in the order in which it was left.
-/

namespace PromptStudio

/-- Runs one piece of background work. -/
def Thread.run : Thread → DeskStep Unit
  | .image front order => Background.runImage front order
  | .chat front request => Background.runChat front request
  | .loadSettings page => SettingsPage.load page

/-- Lets up to `n` pieces of background work run and says how many ran. -/
def runThreads : Nat → DeskStep Nat
  | 0 => pure 0
  | n + 1 => do
    match (← get).threads with
    | [] => pure 0
    | thread :: rest =>
      modify fun d => { d with threads := rest, threadsRun := d.threadsRun + 1 }
      thread.run
      return (← runThreads n) + 1

end PromptStudio

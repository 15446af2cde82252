import PromptStudio.Browser.App
import PromptStudio.Desktop.Monitor
import PromptStudio.Studio.Results
import PromptStudio.Studio.Start
import PromptStudio.Proofs.Jobs.History
import PromptStudio.Proofs.Jobs.Once
import PromptStudio.Proofs.Store.Prompts
import PromptStudio.Proofs.Desktop.InStep
import PromptStudio.Proofs.Studio.OneAtATime
import PromptStudio.Proofs.Desktop.Switches
import PromptStudio.Proofs.Desktop.HistoryGrid
import PromptStudio.Proofs.Desktop.QueueTable
import PromptStudio.Proofs.Desktop.Clearing
import PromptStudio.Proofs.Desktop.Readiness
import PromptStudio.Proofs.Browser.Reports
import PromptStudio.Proofs.Browser.Ticks
import PromptStudio.Proofs.Desktop.BackupFile
import PromptStudio.Proofs.Bench.Steering
import PromptStudio.Proofs.Desktop.Drafts
import PromptStudio.Proofs.Store.Placing
import PromptStudio.Proofs.Bench.Listeners
import PromptStudio.Proofs.Bench.LanguageFile
import PromptStudio.Proofs.Template.Verbatim
import PromptStudio.Proofs.Browser.ChatRound
import PromptStudio.Proofs.Browser.Uploads
import PromptStudio.Proofs.Studio.ImageLists
import PromptStudio.Proofs.Browser.SelectedImages

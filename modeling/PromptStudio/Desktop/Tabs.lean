import PromptStudio.Desktop.Chat
import PromptStudio.Desktop.Edit
import PromptStudio.Desktop.History
import PromptStudio.Desktop.Prompts
import PromptStudio.Desktop.Queue
import PromptStudio.Desktop.Settings

/-!
# The main window

A bar with a button for the theme, and below it all pages as tabs.
-/

namespace PromptStudio

namespace Window

def light : String := "ThemeMode.LIGHT"

def dark : String := "ThemeMode.DARK"

def themeIcon (isDark : Bool) : String :=
  if isDark then "Icons.WB_SUNNY_OUTLINED" else "Icons.DARK_MODE_OUTLINED"

def change (n : Nat) (f : Window → Window) : DeskStep Unit := modify (·.changeWindow n f)

def give (n : Nat) (name : String) (new : Node) : DeskStep Unit :=
  change n fun w => { w with props := Node.insert name new w.props }

/-- A property of a window, null if it was not given. -/
def value (w : Window) (name : String) : Value :=
  match Node.lookup name w.props with
  | some (.value v) => v
  | _ => .null

def themeMode : String := "theme_mode"

/-- Changes from light to dark colours or back, and saves the choice. -/
def toggleTheme (n : Nat) : DeskStep Unit := do
  let isDark := (((← get).window n).value themeMode).same (.text light)
  give n themeMode (.text (if isDark then dark else light))
  onBench (Store.saveSetting (.text "theme_mode") (.text (if isDark then "DARK" else "LIGHT")))
  change n fun w => { w with
    scene := w.scene.set "themeToggleButton" "icon" (.text (themeIcon isDark)) }
  onBench (refreshWindow n)

end Window

/-- Makes a page for single images; the folder for generated images is made with the first one. -/
def makeEditPage : DeskStep Nat := do
  if (← get).edits.isEmpty then onBench (makeFolders outputFolder true)
  EditPage.make

/-- Opens a new window, which new pages stand in from then on. -/
def newWindow : DeskStep Nat := do
  let n := (← get).windows.length
  modify fun d => { d with windows := d.windows ++ [{}], front := n }
  pure n

/-- Makes the main window. -/
def makeWindow (q : JobQueue Task) : DeskStep Unit := do
  if (← get).edits.isEmpty then onBench (makeFolders outputFolder true)
  let n ← newWindow
  onBench Texts.load
  let title ← Texts.say "app_title"
  Window.give n "title" (.value title)
  Window.give n "vertical_alignment" (.text "MainAxisAlignment.START")
  let saved ← Store.setting "theme_mode" (.text "LIGHT")
  let isDark := saved.same (.text "DARK")
  Window.give n Window.themeMode (.text (if isDark then Window.dark else Window.light))
  let themeTip ← Texts.sayOr "app_theme_button_tooltip" "Toggle theme"
  Window.change n fun w => { w with scene := ⟨[
    ("themeToggleButton", .control "IconButton" [("icon", .text (Window.themeIcon isDark)),
      ("tooltip", .value themeTip), ("on_click", .action (.toggleTheme n))])]⟩ }
  let barTitle ← Texts.say "app_title"
  Window.give n "appbar" (.control "AppBar" [("title", .label barTitle []),
    ("center_title", .bool false), ("actions", .list [.slot (.window n) "themeToggleButton"])])
  let edit ← EditPage.make
  let chat ← ChatPage.make
  let prompts ← PromptsPage.make
  let home ← Texts.sayOr "app_tab_home" "Single Edit"
  let chatTab ← Texts.say "app_tab_chat"
  let promptsTab ← Texts.sayOr "app_tab_prompt_manager" "Prompt Manager"
  let historyTab ← Texts.say "app_tab_history"
  let queueTab ← Texts.sayOr "app_tab_queue" "Queue"
  let settingsTab ← Texts.say "app_tab_settings"
  let history ← HistoryPage.make
  let queue ← QueuePage.make q
  let settings ← SettingsPage.make
  let tabs := [home, chatTab, promptsTab, historyTab, queueTab, settingsTab].map fun label =>
    Node.control "Tab" [("label", .value label)]
  let holders : List Holder :=
    [.edit edit, .chat chat, .prompts prompts, .history history, .queue queue, .settings settings]
  let view := Node.control "Tabs" [("selected_index", .int 0), ("animation_duration", .int 300),
    ("length", .int 6),
    ("content", .column [
      .control "TabBar" [("tabs", .list tabs)],
      .control "TabBarView" [("expand", .bool true),
        ("controls", .list (holders.map fun holder => .slot holder "view"))]]
      [("expand", .bool true)]),
    ("expand", .int 1)]
  Window.change n fun w => { w with scene := w.scene.put "view" view }
  Window.give n "controls" (.list [.slot (.window n) "view"])
  modify fun d => { d with shown := .tabs n holders }
  EditPage.start edit
  ChatPage.start chat
  PromptsPage.load prompts

end PromptStudio

import PromptStudio.Desktop.Window

/-!
# The settings page

The settings, the folders of temporary files, and the whole store: it can be emptied, saved to a
backup file and restored from one.
-/

namespace PromptStudio.SettingsPage

def numbered (n : Nat) : DeskStep SettingsPage := do pure ((← get).settings[n]?.getD default)

def changeScene (n : Nat) (f : Scene → Scene) : DeskStep Unit :=
  modify fun d => { d with settings := d.settings.modify n fun p => { p with scene := f p.scene } }

def share (f : SettingsShared → SettingsShared) : DeskStep Unit :=
  modify fun d => { d with settingsShared := f d.settingsShared }

/-- Shows the settings of the store. -/
def load (n : Nat) : DeskStep Unit := do
  let s ← Store.allSettings
  changeScene n fun scene =>
    (((scene.setValue "apiKeyInput" s.apiKey).setValue "savePathInput" s.savePath).setValue
      "filePrefixInput" s.filePrefix).setValue "langDropdown" s.language
  onBench (refreshWindow (← numbered n).window)

/-- A value, or a text in its place when it is empty. -/
def orText (v : Value) (default : String) : Value := if v.truthy then v else .text default

/-- Saves the settings that the page shows. -/
def save (n : Nat) : DeskStep Unit := do
  let scene := (← numbered n).scene
  let keep (key control default : String) : BenchStep Unit :=
    Store.saveSetting (.text key) (orText (scene.value control) default)
  let work : BenchStep Unit := do
    keep "api_key" "apiKeyInput" ""
    keep "save_path" "savePathInput" "outputs"
    keep "file_prefix" "filePrefixInput" "gemini_gen"
    keep "language" "langDropdown" "en"
    showMessage (← Texts.sayOr "settings_saved_content" "Settings have been saved successfully.") false
  match ← outcome (onBench work) with
  | .ok () => pure ()
  | .error fault => onBench do
    let text ← Texts.sayOr "settings_saved_error_content" "Failed to save settings:"
    showMessage (.text (text.display ++ " " ++ fault.message)) true

/-- Empties the folders for uploads and generated images. -/
def clearCache : BenchStep Unit := do
  let work : BenchStep Unit := do
    for folder in [uploadFolder, outputFolder] do
      if (← get).files.has folder then onFiles (·.removeFolder folder)
      makeFolders folder true
    showMessage (← Texts.sayOr "logic_info_cacheCleared" "Cache cleared successfully.") false
  match ← outcome work with
  | .ok () => pure ()
  | .error fault => showMessage (.text ("Error clearing cache: " ++ fault.message)) true

def showFault (key default : String) (fault : Fault) : BenchStep Unit := do
  let text ← Texts.lookup (.text key) (.text default) [("error", fault.toValue)]
  showMessage text true

/-- Empties the store, after the question has been answered. -/
def clear (n : Nat) : DeskStep Unit := do
  closeDialog (← numbered n).window
  let work : DeskStep Unit := do
    onBench do
      Store.clear
      showMessage (← Texts.sayOr "settings_clear_success" "All data has been cleared successfully.")
        false
    load n
  match ← outcome work with
  | .ok () => pure ()
  | .error fault => onBench (showFault "settings_clear_error" "Error clearing data: \x7berror\x7d" fault)

def backupText (data : Value) : String := Json.render .compact data

/-- What is asked for when a backup is offered for saving. -/
def backupOptions (data : Value) (seconds : Int) : List (String × Value) :=
  [("file_name", .text ("g_ai_edit_backup_" ++ toString seconds ++ ".json")),
    ("allowed_extensions", Options.texts ["json"]),
    ("src_bytes", .data (.ofText (backupText data)))]

/-- Offers a backup of the store, and tells of a fault. -/
def offerBackup (picker : Picker) : BenchStep Unit := do
  match ← outcome do
    let data ← Store.backup
    let path ← askPicker picker .saveFile (backupOptions data (← get).seconds)
    let text ← Texts.lookup (.text "settings_export_success")
      (.text "Data successfully exported to \x7bpath\x7d") [("path", path)]
    showMessage text false with
  | .ok () => pure ()
  | .error fault => showFault "settings_export_error" "Error exporting data: \x7berror\x7d" fault

/-- Offers a backup of the store for download. -/
def backup : DeskStep Unit := do
  share fun s => { s with exportPicker := s.exportPicker.ready }
  onBench (offerBackup (← get).settingsShared.exportPicker)

def showDialog (n : Nat) (name : String) : DeskStep Unit := do
  let p ← numbered n
  openDialog p.window (.settings n) name (p.scene.control name)

/-- Restores the store from a backup file. -/
def restore (n : Nat) : DeskStep Unit := do
  share fun s => { s with importPicker := s.importPicker.ready }
  let picker := (← get).settingsShared.importPicker
  let files ← askFiles picker [("allow_multiple", .bool false),
    ("allowed_extensions", Options.texts ["json"])]
  let work : DeskStep Unit := do
    let file ← orFail ((files.item 0).mapError .value)
    let data ← orFail ((← get).bench.files.json (← orFail file.path))
    onBench (Store.restore data)
    showDialog n "importDialog"
  match ← outcome work with
  | .ok () => pure ()
  | .error fault =>
    onBench (showFault "settings_import_error" "Error importing data: \x7berror\x7d" fault)

/-- Lets the user choose the folder for saved images. -/
def pickFolder (n : Nat) : DeskStep Unit := do
  share fun s => { s with outputPicker := s.outputPicker.ready }
  let folder ← askPicker (← get).settingsShared.outputPicker .pickFolder []
  if folder.truthy then
    changeScene n (·.setValue "savePathInput" folder)
    onBench (Store.saveSetting (.text "save_path") folder)

/-- What the settings page does when it is asked to. -/
def perform (n : Nat) : SettingsAction → DeskStep Unit
  | .load => load n
  | .save => save n
  | .clearCache => onBench clearCache
  | .openCache => onBench (openMadeFolder (.text temporaryFolder))
  | .askClear => showDialog n "confirmDialog"
  | .clear => clear n
  | .closeClear | .closeImport => do closeDialog (← numbered n).window
  | .backup => backup
  | .restore => restore n
  | .pickFolder => pickFolder n

/-- Makes a page. Its settings are read in the background. -/
def make : DeskStep Nat := do
  let n := (← get).settings.length
  let slot := Node.slot (.settings n)
  let act (a : SettingsAction) := Action.settings n a
  let keyLabel ← Texts.say "settings_label_apiKey"
  let languageLabel ← Texts.say "settings_label_language"
  let english ← Texts.sayOr "settings_lang_en" "English"
  let chinese ← Texts.sayOr "settings_lang_zh" "中文"
  let pathLabel ← Texts.say "settings_label_savePath"
  let prefixLabel ← Texts.say "settings_label_prefix"
  let confirmTitle ← Texts.sayOr "settings_clear_confirm_title" "Confirm Clear Data"
  let confirmText ← Texts.sayOr "settings_clear_confirm_content"
    "Are you sure you want to delete all data? This action cannot be undone."
  let confirm ← Texts.sayOr "dialog_btn_confirm" "Confirm"
  let cancel ← Texts.sayOr "dialog_btn_cancel" "Cancel"
  let importTitle ← Texts.sayOr "settings_import_success_title" "Import Successful"
  let importText ← Texts.sayOr "settings_import_success_content"
    "Data has been imported. Please restart the application for all changes to take effect."
  let ok ← Texts.sayOr "dialog_btn_ok" "OK"
  let pick ← Texts.sayOr "settings_btn_pick_savePath" "Choose..."
  let save ← Texts.say "settings_btn_save"
  let backup ← Texts.sayOr "settings_btn_export" "Export All Data"
  let restore ← Texts.sayOr "settings_btn_import" "Import All Data"
  let clearCache ← Texts.sayOr "settings_btn_clear_cache" "Clear Cache"
  let openCache ← Texts.sayOr "settings_btn_open_temp" "Browse Cache"
  let clear ← Texts.sayOr "settings_btn_clear_db" "Clear All Data"
  modify fun d => { d with
    threads := d.threads ++ [.loadSettings n], settings := d.settings ++ [⟨⟨[]⟩, d.front⟩] }
  let title ← Texts.say "settings_title"
  let dataTitle ← Texts.sayOr "settings_data_management_title" "Data Management"
  let appTitle ← Texts.sayOr "settings_app_management_title" "Application Management"
  let controls : List Node := [
    .boldLabel title 24,
    slot "langDropdown",
    .row [slot "apiKeyInput", .control "Container" [("expand", .bool true)]] [],
    slot "filePrefixInput",
    .row [slot "savePathInput", .button pick "FOLDER_OPEN" (act .pickFolder) []] [],
    .button save "SAVE" (act .save) [],
    .divider,
    .boldLabel dataTitle 18,
    .row [.button restore "DOWNLOAD" (act .restore) [], .button backup "UPLOAD" (act .backup) []]
      [("alignment", .text "MainAxisAlignment.START")],
    .divider,
    .boldLabel appTitle 18,
    .row [
      .button openCache "FOLDER_OPEN" (act .openCache) [],
      .button clearCache "CLEANING_SERVICES" (act .clearCache) [],
      .button clear "DELETE_FOREVER" (act .askClear) [("color", .text "white"),
        ("bgcolor", .text "red")]] []]
  changeScene n fun _ => ⟨[
    ("apiKeyInput", .control "TextField" [("label", .value keyLabel), ("password", .bool true),
      ("can_reveal_password", .bool true)]),
    ("langDropdown", .control "Dropdown" [("label", .value languageLabel),
      ("options", .list [.namedChoice (.text "en") english, .namedChoice (.text "zh") chinese])]),
    ("savePathInput", .control "TextField" [("label", .value pathLabel)]),
    ("filePrefixInput", .control "TextField" [("label", .value prefixLabel)]),
    ("confirmDialog", .control "AlertDialog" [("modal", .bool true),
      ("title", .label confirmTitle []), ("content", .label confirmText []),
      ("actions", .list [.textButton confirm (act .clear), .textButton cancel (act .closeClear)]),
      ("actions_alignment", .text "MainAxisAlignment.END")]),
    ("importDialog", .control "AlertDialog" [("modal", .bool true),
      ("title", .label importTitle []), ("content", .label importText []),
      ("actions", .list [.textButton ok (act .closeImport)])]),
    ("view", .container
      (.column controls [("spacing", .int 20), ("scroll", .text "ScrollMode.AUTO")])
      [("padding", .measure "padding.all" [.int 20]), ("expand", .bool true)])]⟩
  pure n

end PromptStudio.SettingsPage

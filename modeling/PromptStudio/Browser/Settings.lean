import PromptStudio.Browser.Home

/-!
# The settings page in the browser

Emptying the folders of temporary files, exchanging prompts, and the layout of the page.
-/

namespace PromptStudio.Browser.Settings

/-- Empties the folders for uploads and generated images. -/
def clearCache : BenchStep Unit := do
  for folder in [uploadFolder, outputFolder] do
    if (← get).files.has folder then onFiles (·.removeFolder folder)
    makeFolders folder false
  recordEvent (.notice .info (← Texts.say "logic_info_cacheCleared"))

/-- Exports the prompts. The store has no such operation. -/
def exportPrompts : BenchStep Value :=
  throw (.unavailable "module 'common.database' has no attribute 'get_all_prompts_for_export'")

def uploadPath : Value → Except Fault String
  | .upload path => .ok path
  | v => .error (.value (.noField v "name"))

/-- Imports prompts from a file. A file that does not open or holds no JSON is reported; the store
has no operation for the rest. -/
def importPrompts (file : Value) : BenchStep Value := do
  match file with
  | .null => pure skip
  | file =>
    let work : BenchStep Value := do
      let path ← orFail (uploadPath file)
      let _ ← orFail ((← get).files.json path)
      throw (.unavailable "module 'common.database' has no attribute 'import_prompts_from_list'")
    match ← outcome work with
    | .ok v => pure v
    | .error fault =>
      if fault.ofSystem || fault.ofJson then
        let message ← Texts.sayWith "logic_error_prompts_import_failed"
          [("error", .text fault.message)]
        logValue message
        recordEvent (.notice .error message)
        pure skip
      else throw fault

/-- Lays out the settings page. -/
def layout : Draft Names := do
  let settings ← Store.allSettings
  let (names, select, path) ← within "Group" [] [] do
    let _ ← place "Markdown" [heading "##" (← Texts.say "settings_title")] []
    let key ← within "Row" [] [] do
      place "Textbox" [] [("label", ← Texts.say "settings_label_apiKey"),
        ("value", settings.apiKey), ("type", .text "password"), ("scale", .int 2)]
    let (path, select) ← within "Row" [] [] do
      let path ← place "Textbox" [] [("label", ← Texts.say "settings_label_savePath"),
        ("value", settings.savePath), ("scale", .int 3)]
      let select ← place "Button" [← Texts.say "home_assets_btn_browse"]
        [("elem_classes", .text "add-top-margin"), ("scale", .int 0), ("min_width", .int 120)]
      pure (path, select)
    let start ← within "Row" [] [] do
      place "Textbox" [] [("label", ← Texts.say "settings_label_prefix"),
        ("value", settings.filePrefix)]
    let language ← within "Row" [] [] do
      place "Dropdown" [] [
        ("choices", .list [.list [.text "中文", .text "zh"], .list [.text "English", .text "en"]]),
        ("value", settings.language), ("label", ← Texts.say "settings_label_language"),
        ("interactive", .bool true)]
    let save ← within "Row" [] [] do
      place "Button" [← Texts.say "settings_btn_save"] [("variant", .text "primary"),
        ("scale", .int 1)]
    let exchange ← within "Accordion" [] [
        ("label", ← Texts.say "settings_label_prompt_management"), ("open", .bool true)] do
      let buttons ← within "Row" [] [] do
        let out ← place "Button" [← Texts.say "settings_btn_export_prompts"] []
        let into ← place "UploadButton" [← Texts.say "settings_btn_import_prompts"]
          [("file_types", .list [.text ".json"])]
        pure [("btn_export_prompts", out), ("btn_import_prompts", into)]
      let file ← place "File" [] [("label", .text "Exported Prompts"), ("visible", .bool false)]
      pure (buttons ++ [("exported_file", file)])
    let last ← within "Row" [] [] do
      let clear ← place "Button" [← Texts.say "settings_btn_clear_cache"]
        [("variant", .text "secondary"), ("scale", .int 1)]
      let restart ← place "Button" [.text "🔄 Restart"] [("variant", .text "stop"),
        ("scale", .int 1)]
      pure [("btn_clear_cache", clear), ("btn_restart", restart)]
    pure ([("api_key", key), ("path", path), ("prefix", start), ("lang", language),
      ("btn_save", save)] ++ last ++ exchange, select, path)
  wire select "click" (some "open_folder_dialog") none (some [path])
  pure names

end PromptStudio.Browser.Settings

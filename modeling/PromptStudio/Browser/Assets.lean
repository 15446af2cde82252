import PromptStudio.Bench.Folder
import PromptStudio.Browser.Widget

/-!
# Assets in the browser

Images from a folder and uploaded images, and the block of widgets that shows them.
-/

namespace PromptStudio.Browser.Assets

/-- The images of a folder by their names, with the folders below it if `deep`. -/
def imagesOf (folder : String) (deep : Bool) : BenchStep (List String) := do
  let files := (← get).files
  if deep then pure ((files.leavesBelow folder).filter Path.isImage)
  else orFail ((files.imagesIn folder).mapError .file)

/-- Loads the images of a folder and says how many there are. -/
def load (folder deep : Value) : BenchStep (List String × Value) := do
  let found ← if folder.truthy then orFail ((← get).files.hasValue folder) else pure false
  if !found then
    return ([], ← Texts.sayWith "logic_error_dirNotFound" [("path", folder)])
  Store.saveSetting (.text "last_dir") folder
  let images ← imagesOf folder.display deep.truthy
  let message ← Texts.sayWith "logic_log_loadDir"
    [("path", folder), ("count", .int images.length)]
  logValue message
  pure (images, message)

/-- Copies uploaded files to the folder for uploads, under their own names. Files that cannot be
copied are logged and left out. -/
def keepUploads : List Value → BenchStep (List String)
  | [] => pure []
  | file :: rest => do
    if !file.truthy then keepUploads rest
    else
      let source ← orFail file.path
      let target := Path.join uploadFolder (Path.baseName source)
      match ← outcome (copyFile source target) with
      | .ok () => pure (target :: (← keepUploads rest))
      | .error fault =>
        if fault.ofSystem then
          logText ("Failed to copy uploaded file: " ++ fault.message)
          keepUploads rest
        else throw fault

/-- Takes uploaded files. -/
def upload (files : Value) : BenchStep (List String) := do
  if !files.truthy then return []
  let saved ← keepUploads (← orFail (files.items.mapError .value))
  if !saved.isEmpty then logText s!"Uploaded and saved {saved.length} files."
  pure saved

/-- Lays out the block of assets. The names of its widgets begin with `start`. -/
def layout (start : String) : Draft Names := do
  let settings ← Store.allSettings
  let name (s : String) : Value := .text (start ++ s)
  within "Group" [] [] do
    let _ ← place "Markdown" [heading "####" (← Texts.say "home_assets_title")] []
    let (a, b) ← within "Tabs" [] [] do
      let a ← within "TabItem" [← Texts.say "home_assets_tab_local"] [] do
        let a ← within "Row" [] [] do
          let folder ← place "Textbox" [] [("value", settings.lastFolder),
            ("label", ← Texts.say "home_assets_label_dirPath"), ("scale", .int 3),
            ("elem_id", name "dir_input")]
          let select ← place "Button" [← Texts.say "home_assets_btn_browse"] [("scale", .int 0),
            ("min_width", .int 50), ("elem_id", name "btn_select_dir")]
          let refresh ← place "Button" [← Texts.say "home_assets_btn_refresh"] [("scale", .int 0),
            ("min_width", .int 50), ("elem_id", name "btn_refresh")]
          pure [("dir_input", folder), ("btn_select_dir", select), ("btn_refresh", refresh)]
        let b ← within "Row" [] [] do
          let deep ← place "Checkbox" [] [("label", ← Texts.say "home_assets_label_recursive"),
            ("value", .bool false), ("elem_id", name "recursive_checkbox")]
          let size ← place "Slider" [.int 2, .int 6] [("value", .int 4), ("step", .int 1),
            ("label", ← Texts.say "home_assets_label_columns"), ("elem_id", name "size_slider")]
          pure [("recursive_checkbox", deep), ("size_slider", size)]
        let gallery ← place "Gallery" [] [("label", ← Texts.say "home_assets_label_source"),
          ("columns", .int 4), ("height", .text "auto"), ("allow_preview", .bool false),
          ("object_fit", .text "contain"), ("elem_id", name "gallery_source")]
        pure (a ++ b ++ [("gallery_source", gallery)])
      let b ← within "TabItem" [← Texts.say "home_assets_tab_upload"] [] do
        let button ← place "UploadButton" [← Texts.say "home_assets_btn_upload"]
          [("file_types", .list [.text "image"]), ("file_count", .text "multiple"),
            ("elem_id", name "upload_button")]
        let gallery ← place "Gallery" [] [("label", .text "Uploaded"), ("columns", .int 4),
          ("height", .text "auto"), ("allow_preview", .bool false),
          ("object_fit", .text "contain"), ("interactive", .bool true),
          ("elem_id", name "gallery_upload")]
        pure [("upload_button", button), ("gallery_upload", gallery)]
      pure (a, b)
    let info ← place "Markdown" [← Texts.say "home_assets_info_ready"]
      [("elem_id", name "info_box")]
    let marked ← place "State" [.null] []
    pure ((a ++ b ++ [("info_box", info), ("state_marked_for_add", marked)]).map fun entry =>
      (start ++ entry.1, entry.2))

end PromptStudio.Browser.Assets

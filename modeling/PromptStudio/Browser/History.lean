import PromptStudio.Bench.Folder
import PromptStudio.Browser.Widget

/-!
# The history page in the browser

The saved images, the newest first, with downloading and deleting.
-/

namespace PromptStudio.Browser.History

/-- The saved images, the newest first. -/
def images : BenchStep (List String) := do
  let folder ← Store.setting "save_path" (.text "")
  let files := (← get).files
  if folder.truthy && files.has folder.display then
    orFail ((files.newestImages folder.display).mapError .file)
  else pure []

def imagesValue : BenchStep Value := do return .list ((← images).map .text)

/-- Shows the folder of saved images, which is made if need be. -/
def openFolder : BenchStep Unit := do
  let folder ← Store.setting "save_path" (.text "outputs")
  let found ← orFail ((← get).files.hasValue folder)
  let folder := folder.display
  if !found then
    match ← outcome (makeFolders folder true) with
    | .ok () => pure ()
    | .error fault =>
      if fault.ofSystem then
        recordEvent (.notice .warning
          (← Texts.sayWith "logic_error_createDir" [("error", fault.toValue)]))
        return
      else throw fault
  let path := (← get).files.absolute folder
  logText ("Attempting to open directory: " ++ path)
  match ← outcome (showFolder path) with
  | .ok () => pure ()
  | .error fault =>
    let message ← Texts.sayWith "logic_error_openFolder" [("error", fault.toValue)]
    logValue message
    recordEvent (.notice .warning message)

/-- What selecting an image changes: the download button, the delete button and the path. -/
structure Selection where
  download : Value
  delete : Value
  path : Value
deriving Repr, Inhabited

def nothingSelected : Selection :=
  ⟨update [("interactive", .bool false)], update [("interactive", .bool false)], .null⟩

/-- The path of an item of a gallery: the item itself, or the first of its parts. -/
def itemPath (item : Value) : Except ValueFault Value :=
  match item with
  | .list _ | .row _ => item.item 0
  | item => .ok item

/-- The selection of an image by its path. The saved image of the same name goes first. -/
def choose (path : Value) : BenchStep Selection := do
  let name ← orFail path.baseName
  let folder ← orFail (← Store.setting "save_path" (.text "outputs")).path
  let files := (← get).files
  let saved := files.absolute (Path.join folder name.display)
  let final : Value := if files.has saved then .text saved else path
  let label ← Texts.say "home_history_btn_download"
  pure ⟨widget "DownloadButton" [("value", final),
      ("label", .text (label.display ++ " (" ++ name.display ++ ")")), ("interactive", .bool true)],
    widget "Button" [("interactive", .bool true)], final⟩

def isMissing : Fault → Bool
  | .value (.itemRange _) | .value .textRange | .value .indexSize | .value (.missing _) => true
  | _ => false

/-- Selects an image of the gallery. -/
def select (event gallery : Value) : BenchStep Selection := do
  if !gallery.truthy then return nothingSelected
  let index ← orFail (event.selectedIndex.mapError .value)
  match index with
  | .null => pure nothingSelected
  | index =>
    let work : BenchStep Selection := do
      let path ← orFail (((gallery.itemAt index).bind itemPath).mapError .value)
      if path.truthy then choose path else pure nothingSelected
    match ← outcome work with
    | .ok selection => pure selection
    | .error fault =>
      if isMissing fault then
        logValue (← Texts.sayWith "logic_error_gallerySelect" [("error", fault.toValue)])
        pure nothingSelected
      else throw fault

/-- Deletes a saved image and gives the gallery and the two buttons as they are then. -/
def delete (path : Value) : BenchStep (List Value) := do
  if !path.truthy then
    recordEvent (.notice .warning (← Texts.say "logic_warn_noImageSelected"))
    return [skip, skip, skip]
  if ← orFail ((← get).files.hasValue path) then
    let work : BenchStep Unit := do
      onFiles (·.remove path.display)
      logValue (← Texts.sayWith "logic_log_deletedFile" [("path", path)])
      recordEvent (.notice .info (← Texts.say "logic_info_deleteSuccess"))
    match ← outcome work with
    | .ok () => pure ()
    | .error fault =>
      if fault.ofSystem then
        let error := fault.toValue
        logValue (← Texts.sayWith "logic_error_deleteFailed" [("error", error)])
        recordEvent (.notice .warning (← Texts.sayWith "logic_warn_deleteFailed" [("error", error)]))
      else throw fault
  let gallery ← imagesValue
  let label ← Texts.say "home_history_btn_download"
  pure [gallery, widget "DownloadButton" [("value", .null), ("label", label),
    ("interactive", .bool false)], widget "Button" [("interactive", .bool false)]]

/-- Lays out the history page. -/
def layout : Draft Names :=
  within "Group" [] [] do
    let top ← within "Row" [] [] do
      let _ ← place "Markdown" [heading "##" (← Texts.say "home_history_title")] []
      let folder ← place "Button" [← Texts.say "home_history_btn_open"] [("scale", .int 0),
        ("size", .text "sm")]
      let refresh ← place "Button" [.text "🔄"] [("scale", .int 0), ("size", .text "sm")]
      pure [("btn_open_out_dir", folder), ("btn_refresh_history", refresh)]
    let gallery ← place "Gallery" [] [("label", .text "Outputs"), ("columns", .int 6),
      ("height", .text "auto"), ("allow_preview", .bool true), ("interactive", .bool false),
      ("object_fit", .text "contain")]
    let bottom ← within "Row" [] [] do
      let download ← place "DownloadButton" [← Texts.say "home_history_btn_download"]
        [("size", .text "sm"), ("scale", .int 1), ("interactive", .bool false)]
      let delete ← place "Button" [← Texts.say "home_history_btn_delete"] [("size", .text "sm"),
        ("variant", .text "stop"), ("scale", .int 1), ("interactive", .bool false)]
      pure [("btn_download_hist", download), ("btn_delete_hist", delete)]
    let path ← place "State" [] [("value", .null)]
    pure (("gallery_output_history", gallery) :: (top ++ bottom ++
      [("state_hist_selected_path", path)]))

end PromptStudio.Browser.History

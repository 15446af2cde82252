import PromptStudio.Browser.Assets

/-!
# The home page in the browser

Selecting reference images, keeping prompts, and the layout of the page.
-/

namespace PromptStudio.Browser.Home

/-- The greatest number of selected images. -/
def maxSelected : Nat := 5

/-- The path that a selection event points at, if it points at an image. -/
def marked (event : Value) : Except Fault Value := do
  let v ← event.selected.mapError .value
  match v with
  | .object fields =>
    match Value.lookup "image" fields with
    | some image =>
      if ← (image.hasItem (.text "path")).mapError .value then
        (image.field "path").mapError .value
      else .ok .null
    | none => .ok .null
  | _ => .ok .null

/-- A list with an item added: one that is there already is not added again, and only the last
five stay. -/
def withSelected (selected : List Value) (path : Value) : List Value :=
  if selected.any path.same then selected
  else
    let all := selected ++ [path]
    all.drop (all.length - maxSelected)

/-- Adds the marked image to the selected ones. -/
def addMarked (path selected : Value) : BenchStep Value := do
  if !path.truthy then return selected
  if ← orFail ((selected.hasItem path).mapError .value) then return selected
  match selected with
  | .list items =>
    logValue (← Texts.sayWith "logic_log_selectImage" [("name", ← orFail path.baseName)])
    pure (.list (withSelected items path))
  | v => throw (.value (.concatenation v.typeName "list"))

/-- Removes the marked image from the selected ones. -/
def removeMarked (path selected : Value) : BenchStep Value := do
  if !path.truthy then return selected
  if !(← orFail ((selected.hasItem path).mapError .value)) then return selected
  let items ← orFail (selected.items.mapError .value)
  let rest := items.filter fun item => !item.same path
  logValue (← Texts.sayWith "logic_log_removeImage"
    [("name", ← orFail path.baseName), ("count", .int rest.length)])
  pure (.list rest)

/-- The list of prompts to choose from. -/
def promptList : BenchStep Value := do
  let titles ← Store.titles
  let placeholder ← Texts.say "home_control_prompt_placeholder"
  pure (widget "Dropdown" [("choices", .list (placeholder :: titles)), ("value", placeholder)])

def isChosen (title : Value) : BenchStep Bool := do
  if !title.truthy then pure false
  else pure (!title.same (← Texts.say "home_control_prompt_placeholder"))

def loadPrompt (title : Value) : BenchStep Value := do
  if ← isChosen title then
    logValue (← Texts.sayWith "logic_log_loadPrompt" [("title", title)])
    Store.content title
  else pure skip

/-- Saves a prompt. -/
def savePrompt (title content : Value) : BenchStep Value := do
  if !title.truthy || !content.truthy then
    recordEvent (.notice .warning (← Texts.say "logic_warn_promptEmpty"))
    return skip
  let _ ← Store.savePrompt title content
  logValue (← Texts.sayWith "logic_log_savePrompt" [("title", title)])
  recordEvent (.notice .info (← Texts.sayWith "logic_info_promptSaved" [("title", title)]))
  promptList

/-- Deletes the chosen prompt. -/
def deletePrompt (title : Value) : BenchStep Value := do
  if ← isChosen title then
    Store.deletePrompt title
    logValue (← Texts.sayWith "logic_log_deletePrompt" [("title", title)])
    recordEvent (.notice .info (← Texts.sayWith "logic_info_promptDeleted" [("title", title)]))
    promptList
  else pure skip

def ratioChoices : BenchStep Value := do
  let choices ← Texts.choices (← get).choices.ratios
  pure (.list (choices.map fun choice => .list [choice.1, choice.2]))

def choicesOf (kind : Options.Choice) : BenchStep Value := do
  return .list ((← get).choices.list kind)

/-- Lays out the widgets for model, aspect ratio and resolution. -/
def options (start : String) : Draft Names :=
  within "Row" [] [] do
    let model ← place "Dropdown" [] [("choices", ← choicesOf .model),
      ("value", .text Options.defaultModel), ("label", ← Texts.say "home_control_model_label"),
      ("scale", .int 2), ("allow_custom_value", .bool true)]
    let ratio ← place "Dropdown" [] [("choices", ← ratioChoices), ("value", .text Options.noRatio),
      ("label", ← Texts.say "home_control_ratio_label"), ("scale", .int 1)]
    let resolution ← place "Dropdown" [] [("choices", ← choicesOf .resolution),
      ("value", .text Options.defaultResolution),
      ("label", ← Texts.say "home_control_resolution_label"), ("scale", .int 1)]
    pure [(start ++ "model_selector", model), (start ++ "ar_selector", ratio),
      (start ++ "res_selector", resolution)]

/-- Lays out the controls of a request. -/
def controls (placeholder : Value) (titles : List Value) : Draft Names :=
  within "Group" [] [] do
    let _ ← place "Markdown" [heading "###" (← Texts.say "home_control_title")] []
    let remove ← place "Button" [← Texts.say "home_control_btn_removeFromSelected"]
      [("variant", .text "stop")]
    let gallery ← place "Gallery" [] [("label", ← Texts.say "home_control_gallery_selected_label"),
      ("elem_id", .text "fixed_gallery"), ("height", .int 240), ("columns", .int 6),
      ("rows", .int 1), ("show_label", .bool false), ("object_fit", .text "contain"),
      ("interactive", .bool false)]
    let selected ← place "State" [] [("value", .list [])]
    let marked ← place "State" [.null] []
    let _ ← place "Markdown" [← Texts.say "home_control_prompt_title"] []
    let prompts ← within "Row" [] [] do
      let list ← place "Dropdown" [] [("choices", .list (placeholder :: titles)),
        ("value", placeholder), ("label", ← Texts.say "home_control_prompt_label_history"),
        ("scale", .int 3), ("interactive", .bool true)]
      let load ← place "Button" [← Texts.say "home_control_prompt_btn_load"] [("scale", .int 1)]
      let delete ← place "Button" [← Texts.say "home_control_prompt_btn_delete"]
        [("scale", .int 1), ("variant", .text "stop")]
      pure [("prompt_dropdown", list), ("btn_load_prompt", load), ("btn_del_prompt", delete)]
    let input ← place "Textbox" [] [("label", .text ""),
      ("placeholder", ← Texts.say "home_control_prompt_input_placeholder"), ("lines", .int 4),
      ("show_label", .bool false)]
    let saving ← within "Row" [] [] do
      let title ← place "Textbox" [] [
        ("placeholder", ← Texts.say "home_control_prompt_save_placeholder"),
        ("label", ← Texts.say "home_control_prompt_save_label"), ("scale", .int 3),
        ("container", .bool false)]
      let save ← place "Button" [← Texts.say "home_control_prompt_btn_save"] [("scale", .int 1)]
      pure [("prompt_title_input", title), ("btn_save_prompt", save)]
    let choices ← options ""
    let sending ← within "Row" [] [] do
      let send ← place "Button" [← Texts.say "home_control_btn_send"]
        [("variant", .text "primary"), ("scale", .int 3)]
      let retry ← place "Button" [← Texts.say "home_control_btn_retry"] [("scale", .int 1)]
      pure [("btn_send", send), ("btn_retry", retry)]
    let log ← within "Accordion" [← Texts.say "home_control_log_label"] [("open", .bool false)] do
      place "Code" [] [("language", .text "shell"), ("lines", .int 10),
        ("interactive", .bool false), ("elem_id", .text "log_output_box")]
    pure ([("gallery_selected", gallery), ("btn_remove_from_selected", remove),
      ("state_selected_images", selected), ("state_marked_for_remove", marked),
      ("prompt_input", input), ("log_output", log)] ++ prompts ++ saving ++ choices ++ sending)

/-- Lays out the preview of the result. -/
def result : Draft Names :=
  within "Group" [] [] do
    let _ ← place "Markdown" [heading "###" (← Texts.say "home_preview_title")] []
    let image ← place "Image" [] [("label", ← Texts.say "home_preview_label_result"),
      ("type", .text "pil"), ("interactive", .bool false), ("height", .int 500)]
    let download ← place "DownloadButton" []
      [("label", ← Texts.say "home_preview_btn_download_placeholder"),
        ("interactive", .bool false)]
    pure [("result_image", image), ("btn_download", download)]

/-- Lays out the home page. -/
def layout : Draft Names := do
  let _ ← Store.allSettings
  let placeholder ← Texts.say "home_control_prompt_placeholder"
  let titles ← Store.titles
  within "Row" [] [("equal_height", .bool false)] do
    let assets ← within "Column" [] [("scale", .int 4)] do
      let assets ← Assets.layout "main_"
      let add ← place "Button" [← Texts.say "home_assets_btn_addToSelected"]
        [("variant", .text "primary")]
      let marked ← place "State" [.null] []
      pure (assets ++ [("btn_add_to_selected", add), ("state_marked_for_add", marked)])
    let others ← within "Column" [] [("scale", .int 6)] do
      let controls ← controls placeholder titles
      pure (controls ++ (← result))
    pure (assets ++ others)

end PromptStudio.Browser.Home

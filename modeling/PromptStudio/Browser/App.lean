import PromptStudio.Browser.Chat
import PromptStudio.Browser.History
import PromptStudio.Browser.Settings
import PromptStudio.Browser.Style
import PromptStudio.Browser.Ticker

/-!
# The browser interface as a whole

All pages in one layout, with the wires between them.
-/

namespace PromptStudio.Browser

/-- Lays out the bar at the top and gives the button for the theme. -/
def header : Draft Nat :=
  within "Row" [] [("elem_classes", .text "top-toolbar"), ("equal_height", .bool true)] do
    let _ ← place "Markdown" [heading "###" (← Texts.say "app_title")] []
    within "Row" [] [("scale", .int 1)] do
      let _ ← place "Column" [] [("scale", .int 1)]
      place "Button" [.text "🎨"] [("size", .text "sm"), ("variant", .text "secondary"),
        ("scale", .int 0), ("elem_classes", .text "icon-button")]

/-- Saves the settings and gives the key, a client for it and the saved images. -/
def saveSettings (key path start language : Value) : BenchStep (List Value) := do
  Store.saveSetting (.text "api_key") key
  Store.saveSetting (.text "save_path") path
  Store.saveSetting (.text "file_prefix") start
  Store.saveSetting (.text "language") language
  logValue (← Texts.say "logic_info_configSaved")
  recordEvent (.notice .info (← Texts.say "logic_info_configSaved"))
  let client ← Background.client key
  pure [key, client, ← History.imagesValue]

def unnamed : String := "<lambda>"

/-- Wires an event, and then the copying of a value to a widget. -/
def wireAndShow (source : Nat) (event answer : String) (inputs outputs : List Nat)
    (shown target : Nat) : Draft Unit := do
  wire source event (some answer) (some inputs) (some outputs)
  wire source "then" (some unnamed) (some [shown]) (some [target])

/-- Wires the block of assets of a page. -/
def wireAssets (page : Names) (start : String) (images : Nat) : Draft Unit := do
  let id (name : String) : Nat := page.id (start ++ name)
  wire (id "btn_select_dir") "click" (some unnamed) none (some [id "dir_input"])
  let load (source event : String) : Draft Unit :=
    wireAndShow (id source) event "load_images_from_dir" [id "dir_input", id "recursive_checkbox"]
      [images, id "info_box"] images (id "gallery_source")
  load "dir_input" "change"
  load "btn_refresh" "click"
  load "recursive_checkbox" "change"
  wire (id "upload_button") "upload" (some "handle_upload") (some [id "upload_button"])
    (some [id "gallery_upload"])
  wire (id "size_slider") "change" (some unnamed) (some [id "size_slider"])
    (some [id "gallery_source"])

/-- The values that the interface keeps behind its pages. -/
structure Hidden where
  key : Nat
  homeImages : Nat
  chatImages : Nat
  client : Nat
  session : Nat
  parts : Nat
  newSession : Nat
  input : Nat
deriving Repr, Inhabited

/-- Makes the values behind the pages. -/
def hidden : Draft Hidden := do
  let settings ← Store.allSettings
  let key ← place "State" [] [("value", settings.apiKey)]
  let homeImages ← place "State" [] [("value", .list [])]
  let chatImages ← place "State" [] [("value", .list [])]
  let client ← place "State" [] [("value", .null)]
  let session ← place "State" [] [("value", .null)]
  let parts ← place "State" [] []
  let newSession ← place "State" [] []
  let input ← place "State" [] []
  pure ⟨key, homeImages, chatImages, client, session, parts, newSession, input⟩

/-- The pages and what they hand out. -/
structure Pages where
  home : Names
  chat : Names
  history : Names
  settings : Names
deriving Repr, Inhabited

/-- Lays out the pages. -/
def pages : Draft Pages :=
  within "Tabs" [] [] do
    let tab (key id : String) (page : Draft Names) : Draft Names := do
      within "TabItem" [← Texts.say key] [("id", .text id)] page
    pure ⟨← tab "app_tab_home" "tab_home" Home.layout, ← tab "app_tab_chat" "tab_chat" Chat.layout,
      ← tab "app_tab_history" "tab_history" History.layout,
      ← tab "app_tab_settings" "tab_settings" Settings.layout⟩

/-- Wires the settings page and the prompts of the home page. -/
def wireSettings (s : Hidden) (p : Pages) : Draft Unit := do
  let id := p.settings.id
  let home := p.home.id
  wire (id "btn_save") "click" (some "save_and_update_client")
    (some [id "api_key", id "path", id "prefix", id "lang"])
    (some [s.key, s.client, p.history.id "gallery_output_history"])
  wire (id "btn_clear_cache") "click" (some "clear_cache") none none
  wire (id "btn_restart") "click" (some "restart_app") none none
  wire (id "btn_export_prompts") "click" (some "export_prompts_logic") none
    (some [id "exported_file"])
  wire (id "btn_import_prompts") "upload" (some "import_prompts_logic")
    (some [id "btn_import_prompts"]) (some [home "prompt_dropdown"])
  wire (home "btn_save_prompt") "click" (some "save_prompt_to_db")
    (some [home "prompt_title_input", home "prompt_input"]) (some [home "prompt_dropdown"])
  wire (home "btn_load_prompt") "click" (some "load_prompt_to_ui") (some [home "prompt_dropdown"])
    (some [home "prompt_input"])
  wire (home "btn_del_prompt") "click" (some "delete_prompt_from_db")
    (some [home "prompt_dropdown"]) (some [home "prompt_dropdown"])

/-- Wires the history page. -/
def wireHistory (p : Pages) : Draft Unit := do
  let id := p.history.id
  wire (id "btn_open_out_dir") "click" (some "open_output_folder") none none
  wire (id "btn_refresh_history") "click" (some "load_output_gallery") none
    (some [id "gallery_output_history"])
  wire (id "gallery_output_history") "select" (some "on_gallery_select")
    (some [id "gallery_output_history"])
    (some [id "btn_download_hist", id "btn_delete_hist", id "state_hist_selected_path"])
  wire (id "btn_delete_hist") "click" (some "delete_output_file")
    (some [id "state_hist_selected_path"])
    (some [id "gallery_output_history", id "btn_download_hist", id "btn_delete_hist"])

/-- Wires the selection of images. -/
def wireSelection (p : Pages) : Draft Unit := do
  let home := p.home.id
  let chat := p.chat.id
  let mark := some [home "main_state_marked_for_add"]
  wire (home "main_gallery_source") "select" (some "mark_for_add") none mark
  wire (home "main_gallery_upload") "select" (some "mark_for_add") none mark
  wire (home "gallery_selected") "select" (some "mark_for_remove") none
    (some [home "state_marked_for_remove"])
  for gallery in ["chat_gallery_source", "chat_gallery_upload"] do
    wire (chat gallery) "select" (some "add_image_to_chat_input") (some [chat "chat_input"])
      (some [chat "chat_input"])
  let selected := home "state_selected_images"
  wireAndShow (home "btn_add_to_selected") "click" "add_marked_to_selected"
    [home "main_state_marked_for_add", selected] [selected] selected (home "gallery_selected")
  wireAndShow (home "btn_remove_from_selected") "click" "remove_marked_from_selected"
    [home "state_marked_for_remove", selected] [selected] selected (home "gallery_selected")
  wire (home "btn_remove_from_selected") "then" (some unnamed) none
    (some [home "gallery_selected"])

/-- Wires the background tasks. -/
def wireTasks (s : Hidden) (p : Pages) : Draft Unit := do
  let home := p.home.id
  let chat := p.chat.id
  let request := some [home "prompt_input", home "state_selected_images", s.key,
    home "model_selector", home "ar_selector", home "res_selector"]
  wire (home "btn_send") "click" (some "start_generation_task") request none
  wire (home "btn_retry") "click" (some "start_generation_task") request none
  wire (chat "chat_input") "submit" (some "prepare_chat_display")
    (some [chat "chat_input", chat "chatbot"])
    (some [chat "chatbot", chat "chat_input", chat "chat_input", chat "chat_btn_clear", s.input])
  wire (chat "chat_input") "then" (some "start_chat_task")
    (some [s.input, s.client, s.session, chat "chat_model_selector", chat "chat_ar_selector",
      chat "chat_res_selector"]) none
  wire s.parts "change" (some "handle_bot_response") (some [s.parts, s.newSession, chat "chatbot"])
    (some [chat "chatbot", s.session])
  wire (chat "chat_btn_clear") "click" (some "clear_chat") none (some [chat "chatbot", s.session])

/-- Wires the clock and the start. -/
def wireStart (app : Nat) (s : Hidden) (p : Pages) : Draft Unit := do
  let home := p.home.id
  let chat := p.chat.id
  let settings := p.settings.id
  let gallery := some [p.history.id "gallery_output_history"]
  let timer ← place "Timer" [.int 1] []
  wire timer "tick" (some "tick") none (some [home "result_image", home "btn_download", s.parts,
    s.newSession, chat "chat_input", chat "chat_btn_clear", home "log_output"])
  wire (home "result_image") "change" (some "load_output_gallery") none gallery
  wire app "load" (some "init_app_data") none (some [home "main_dir_input", s.key, s.client,
    home "btn_download", home "result_image", settings "path", settings "prefix", settings "lang",
    settings "api_key"])
  wire app "then" (some "load_images_from_dir")
    (some [home "main_dir_input", home "main_recursive_checkbox"])
    (some [s.homeImages, home "main_info_box"])
  wire app "then" (some unnamed) (some [s.homeImages]) (some [home "main_gallery_source"])
  wire app "then" (some "load_output_gallery") none gallery

/-- Lays out the whole interface. -/
def app : Draft Unit := do
  let title ← Texts.say "app_title"
  let id := (← get).next
  within "Blocks" [] [("title", title)] do
    let _ ← place "HTML" [.text ("<style>" ++ styleSheet ++ "</style>")] []
    let s ← hidden
    let theme ← header
    let p ← pages
    wire theme "click" none none none
    wireSettings s p
    wireAssets p.home "main_" s.homeImages
    wireAssets p.chat "chat_" s.chatImages
    wireHistory p
    wireSelection p
    wireTasks s p
    wireStart id s p

/-- Builds the interface: the folders of temporary files are made, the sources of the clock
registered and the pages laid out. -/
def build : DeskStep Unit := do
  onBench do
    for folder in [uploadFolder, outputFolder] do
      if !(← get).files.has folder then makeFolders folder false
  registerAll
  let (_, sheet) ← onBench (layOut app)
  modify fun d => { d with browserLayout := some (.object sheet.toFields) }

/-- Builds the interface if it has not been built, and gives its layout. -/
def ready : DeskStep Value := do
  match (← get).browserLayout with
  | some layout => pure layout
  | none =>
    build
    pure ((← get).browserLayout.getD .null)

end PromptStudio.Browser

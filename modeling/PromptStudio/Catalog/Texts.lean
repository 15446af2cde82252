/-!
# Texts of the interface

The texts that the interface ships with, by key, in English and in Chinese.
-/

namespace PromptStudio.Catalog

/-- A key with its English and its Chinese text. -/
def texts : List (String × String × String) := [
  ("app_title", "🍌 Banana Pro Studio", "🍌 Banana Pro Studio"),
  ("app_theme_button_tooltip", "Toggle theme", "切换主题"),
  ("app_tab_home", "Single Image Edit", "单图编辑"),
  ("app_tab_chat", "Chat", "聊天"),
  ("app_tab_prompt_manager", "Prompt Management", "Prompt管理"),
  ("app_tab_history", "History Gallery", "历史图库"),
  ("app_tab_queue", "Task Queue", "任务队列"),
  ("app_tab_settings", "Settings", "系统设置"),
  ("home_assets_title", "📂 Assets", "📂 素材库"),
  ("home_assets_tab_local", "Local Folder", "本地文件夹"),
  ("home_assets_tab_upload", "Upload", "上传图片"),
  ("home_assets_label_dirPath", "Directory Path", "目录路径"),
  ("home_assets_btn_browse", "Browse", "选择"),
  ("home_assets_btn_browse_tooltip", "Browse a Directory", "选择一个目录"),
  ("home_assets_btn_refresh_tooltip", "Refresh the Gallery", "刷新图库"),
  ("home_assets_label_columns", "Columns", "列数"),
  ("home_assets_label_source", "Source", "素材来源"),
  ("home_assets_btn_upload", "Click or Drag & Drop to Upload", "点击或拖拽文件到此处上传"),
  ("home_assets_btn_addToSelected", "➡️ Add to Selected", "➡️ 发送到已选"),
  ("home_assets_info_ready", "Ready.", "就绪."),
  ("home_assets_label_recursive", "Include Sub-directories", "包含子目录"),
  ("home_history_title", "📤 Output History", "📤 历史输出归档"),
  ("home_history_btn_open", "📂 Open Folder", "📂 打开文件夹"),
  ("home_history_btn_refresh_tooltip", "Refresh", "刷新"),
  ("home_history_zoom", "Column Num:", "每行列数："),
  ("home_history_btn_download", "⬇️ Download Selected", "⬇️ 下载选中"),
  ("home_history_btn_delete", "🗑️ Delete Selected", "🗑️ 删除选中"),
  ("home_control_title", "⚙️ Control & Prompt", "⚙️ 控制和提示词"),
  ("home_control_btn_removeFromSelected", "🗑️ Remove Selected", "🗑️ 移除选中"),
  ("home_control_gallery_selected_label", "Selected", "已选图片"),
  ("home_control_prompt_title", "#### 📝 Prompt", "#### 📝 提示词 (Prompt)"),
  ("home_control_prompt_placeholder", "---", "---"),
  ("home_control_prompt_label_history", "📚 History", "📚 历史 Prompt"),
  ("home_control_prompt_btn_load", "📂 Load", "📂 加载"),
  ("home_control_prompt_btn_delete", "❌ Del", "❌ 删除"),
  ("home_control_prompt_input_placeholder", "Enter Prompt...", "输入 Prompt..."),
  ("home_control_prompt_save_placeholder", "Title to save...", "输入标题保存..."),
  ("home_control_prompt_save_label", "Title", "保存标题"),
  ("home_control_prompt_btn_save", "Save Prompt", "保存 Prompt"),
  ("home_control_model_label", "Model", "模型"),
  ("home_control_ratio_label", "Ratio", "比例"),
  ("home_control_resolution_label", "Resolution", "分辨率"),
  ("home_control_btn_send", "Generate / Edit", "生成 / 编辑"),
  ("home_control_btn_queue", "Add to Queue", "加入队列"),
  ("home_control_btn_retry", "🔄 Retry", "🔄 重试"),
  ("home_control_log_label", "Execution Log", "执行日志"),
  ("home_preview_title", "🖼️ Preview", "🖼️ 结果预览"),
  ("home_preview_label_result", "Preview", "结果预览"),
  ("home_preview_btn_download_placeholder", "Download", "下载"),
  ("chat_title", "🤖 Multimodal Chat", "🤖 多模态聊天"),
  ("chat_chatbot_label", "Conversation", "对话历史"),
  ("chat_input_label", "Send a message", "发送消息"),
  ("chat_input_placeholder", "Type a message or add an image...", "输入文本或添加图片..."),
  ("chat_btn_pick_images_tooltip", "select Images", "选择图片"),
  ("chat_btn_send", "Send", "发送"),
  ("chat_btn_clear", "New Topic", "新话题"),
  ("prompt_manager_add_new_title", "Add New Prompt", "添加新提示词"),
  ("prompt_manager_existing_prompts_title", "Existing Prompts", "已有提示词"),
  ("prompt_manager_new_prompt_title_label", "New Prompt Title", "新提示词标题"),
  ("prompt_manager_new_prompt_content_label", "New Prompt Content", "新提示词内容"),
  ("prompt_manager_save", "save", "保存"),
  ("prompt_manager_cancel", "cancel", "取消"),
  ("prompt_manager_add_button", "Add Prompt", "添加提示词"),
  ("prompt_manager_move_up", "Move up", "上移"),
  ("prompt_manager_move_down", "Move down", "下移"),
  ("prompt_manager_edit", "Edit the prompt", "编辑提示词"),
  ("prompt_manager_delete", "Delete the prompt", "删除提示词"),
  ("queue_title", "Task Queue", "任务队列"),
  ("queue_jobs_count", "Jobs in Queue: \x7bcount\x7d", "队列中任务数: \x7bcount\x7d"),
  ("queue_col_name", "Job Name", "任务名称"),
  ("queue_col_status", "Status", "状态"),
  ("queue_col_created", "Created", "创建时间"),
  ("queue_col_started", "Started/Duration", "开始时间/耗时"),
  ("queue_col_actions", "Actions", "操作"),
  ("queue_btn_cancel_tooltip", "Cancel Job", "取消任务"),
  ("queue_btn_view_tooltip", "View Details", "查看详情"),
  ("queue_dialog_title", "Job Details", "任务详情"),
  ("queue_dialog_prompt_label", "Prompt / Content:", "提示词 / 内容:"),
  ("queue_dialog_images_label", "Reference Images:", "参考图片:"),
  ("queue_dialog_config_title", "Model Configuration", "模型配置"),
  ("queue_dialog_exec_title", "Execution Info", "执行信息"),
  ("queue_dialog_error_label", "Error Message:", "错误信息:"),
  ("queue_status_queued", "Queued", "排队中"),
  ("queue_status_running", "Running", "运行中"),
  ("queue_status_success", "Success", "成功"),
  ("queue_status_error", "Error", "失败"),
  ("queue_status_cancelled", "Cancelled", "已取消"),
  ("settings_title", "Settings", "⚙️ 设置面板"),
  ("settings_label_apiKey", "Google API Key", "Google API Key"),
  ("settings_label_savePath", "Auto Save Path", "自动保存路径"),
  ("settings_btn_pick_savePath", "Choose...", "选择目录"),
  ("settings_label_prefix", "Filename Prefix", "文件名前缀"),
  ("settings_label_language", "Language / 语言", "语言 / Language"),
  ("settings_btn_save", "Save Config", "保存配置"),
  ("settings_saved_content", "Settings have been saved successfully.", "配置已保存"),
  ("settings_saved_error_content", "Failed to save settings:", "配置保存失败"),
  ("settings_btn_clear_cache", "Clear Cache (Temporary Files)", "清除缓存 (临时文件)"),
  ("settings_btn_open_temp", "Browse Cache Directory", "浏览缓存目录"),
  ("settings_btn_clear_db", "Clear All Data (Database)", "清除所有数据 (数据库)"),
  ("settings_label_prompt_management", "Prompt Management", "Prompt 管理"),
  ("settings_btn_export_prompts", "Export Prompts (JSON)", "导出 Prompts (JSON)"),
  ("settings_btn_import_prompts", "Import Prompts (JSON)", "导入 Prompts (JSON)"),
  ("settings_lang_en", "English", "English"),
  ("settings_lang_zh", "中文", "中文"),
  ("settings_export_success", "Data successfully exported to \x7bpath\x7d",
    "数据已成功导出到 \x7bpath\x7d"),
  ("settings_export_error", "Error exporting data: \x7berror\x7d", "导出数据时出错: \x7berror\x7d"),
  ("settings_import_success_title", "Import Successful", "导入成功"),
  ("settings_import_success_content",
    "Data has been imported. Please restart the application for all changes to take effect.",
    "数据已成功导入。请重启应用程序以使所有更改生效。"),
  ("settings_import_error", "Error importing data: \x7berror\x7d", "导入数据时出错: \x7berror\x7d"),
  ("settings_btn_export", "Export All Data", "导出全部数据"),
  ("settings_btn_import", "Import All Data", "导入全部数据"),
  ("settings_data_management_title", "Data Management", "数据管理"),
  ("settings_app_management_title", "Application Management", "应用管理"),
  ("settings_btn_restart", "Restart Application", "重启应用"),
  ("dialog_btn_previous", "Previous", "前一张"),
  ("dialog_btn_next", "Next", "后一张"),
  ("dialog_btn_delete", "Delete", "删除"),
  ("dialog_btn_download", "Download", "下载"),
  ("dialog_title_image_preview", "Image Preview", "图片预览"),
  ("dialog_btn_close", "Close", "关闭"),
  ("dialog_btn_ok", "OK", "好的"),
  ("logic_error_dirNotFound", "Directory '\x7bpath\x7d' not found", "目录 '\x7bpath\x7d' 不存在"),
  ("logic_log_loadDir", "📂 Load Dir: \x7bpath\x7d (Found \x7bcount\x7d imgs)",
    "📂 加载目录: \x7bpath\x7d (找到 \x7bcount\x7d 张图片)"),
  ("logic_btn_downloadReady", "Download (\x7bfilename\x7d)", "下载 (\x7bfilename\x7d)"),
  ("logic_log_newTask", "--- New Task Started ---", "--- 开始新任务 ---"),
  ("logic_log_saveOk", "💾 Saved: \x7bpath\x7d", "💾 图片保存成功: \x7bpath\x7d"),
  ("logic_log_saveFail", "❌ Save Failed: \x7berr\x7d", "❌ 保存失败: \x7berr\x7d"),
  ("logic_warn_taskRunning", "⚠️ Task is running...", "⚠️ 任务正在进行中，请稍候..."),
  ("logic_info_taskSubmitted", "🚀 Task submitted...", "🚀 任务已后台提交，请留意日志..."),
  ("logic_warn_taskFailed", "Task failed: \x7berror_msg\x7d", "任务失败: \x7berror_msg\x7d"),
  ("logic_log_loadPrompt", "📖 Load Prompt: \x7btitle\x7d", "📖 加载 Prompt: \x7btitle\x7d"),
  ("logic_warn_promptEmpty", "Title and Content cannot be empty", "标题和内容不能为空"),
  ("logic_log_savePrompt", "💾 Save Prompt: \x7btitle\x7d", "💾 保存 Prompt: \x7btitle\x7d"),
  ("logic_info_promptSaved", "Prompt '\x7btitle\x7d' saved", "Prompt '\x7btitle\x7d' 已保存"),
  ("logic_log_deletePrompt", "🗑️ Delete Prompt: \x7btitle\x7d", "🗑️ 删除 Prompt: \x7btitle\x7d"),
  ("logic_info_promptDeleted", "Prompt '\x7btitle\x7d' deleted", "Prompt '\x7btitle\x7d' 已删除"),
  ("logic_log_selectImage", "➕ Selected: \x7bname\x7d", "➕ 选中图片: \x7bname\x7d"),
  ("logic_log_removeImage", "🗑️ Removed: \x7bname\x7d (\x7bcount\x7d left)",
    "🗑️ 已移除: \x7bname\x7d (剩余 \x7bcount\x7d 张)"),
  ("logic_log_restarting", "♻️ Restarting application...", "♻️ 正在重启应用程序..."),
  ("logic_info_configSaved", "Config Saved (Restart app to apply language change)",
    "配置已保存 (语言更改将在下次启动时生效)"),
  ("logic_error_createDir", "Failed to create directory: \x7berror\x7d", "无法创建目录: \x7berror\x7d"),
  ("logic_error_openFolder", "Failed to open folder: \x7berror\x7d", "打开文件夹失败: \x7berror\x7d"),
  ("logic_log_originalFileNotFound",
    "⚠️ Original file not found: \x7bpath\x7d, will operate on temp file",
    "⚠️ 未找到原始文件: \x7bpath\x7d，将操作临时文件"),
  ("logic_error_gallerySelect", "Gallery select error: \x7berror\x7d", "画廊选择错误: \x7berror\x7d"),
  ("logic_warn_noImageSelected", "⚠️ No image selected", "⚠️ 未选择图片"),
  ("logic_log_deletedFile", "Deleted file: \x7bpath\x7d", "已删除文件: \x7bpath\x7d"),
  ("logic_info_deleteSuccess", "✅ Image Deleted", "✅ 图片已删除"),
  ("logic_error_deleteFailed", "Delete failed: \x7berror\x7d", "删除失败: \x7berror\x7d"),
  ("logic_warn_deleteFailed", "Delete failed: \x7berror\x7d", "删除失败: \x7berror\x7d"),
  ("logic_log_resumingSession", "🔄 Resuming user session...", "🔄 正在恢复用户会话..."),
  ("logic_btn_downloadReady_noFilename", "⬇️ Download HD Image", "⬇️ 点击下载高清原图"),
  ("logic_info_cacheCleared", "✅ Cache cleared successfully", "✅ 缓存已成功清除"),
  ("logic_info_prompts_exported", "✅ Successfully exported \x7bcount\x7d prompts.",
    "✅ 已成功导出 \x7bcount\x7d 个 Prompt。"),
  ("logic_error_prompts_export_failed", "❌ Failed to export prompts: \x7berror\x7d",
    "❌ 导出 Prompts 失败: \x7berror\x7d"),
  ("logic_info_prompts_imported",
    "✅ Successfully imported \x7bcount\x7d prompts. Duplicates were overwritten.",
    "✅ 成功导入 \x7bcount\x7d 个 Prompt。标题重复的已被覆盖。"),
  ("logic_error_prompts_import_failed", "❌ Failed to import prompts: \x7berror\x7d",
    "❌ 导入 Prompts 失败: \x7berror\x7d"),
  ("logic_warn_noImageToDownload", "No image available to download.", "没有可供下载的图片。"),
  ("logic_warn_promptNotSelected", "Please select a prompt.", "请选择一个 Prompt。"),
  ("api_log_loadingImgs", "📷 Loading \x7bcount\x7d reference images...",
    "📷 正在加载 \x7bcount\x7d 张参考图片..."),
  ("api_log_skipImg", "⚠️ Skip corrupted image \x7bpath\x7d: \x7berr\x7d",
    "⚠️ 跳过损坏图片 \x7bpath\x7d: \x7berr\x7d"),
  ("api_log_requestInfo",
    "ℹ️ Submitting: Prompt (\x7bprompt_len\x7d chars), Images (\x7bimg_count\x7d)",
    "ℹ️ 提交信息: Prompt (\x7bprompt_len\x7d字), 参考图 (\x7bimg_count\x7d张)"),
  ("api_log_requestSent",
    "🚀 Request Sent | Model: \x7bmodel\x7d | AR: \x7bar\x7d | Res: \x7bres\x7d",
    "🚀 发送请求 | 模型: \x7bmodel\x7d | AR: \x7bar\x7d | Res: \x7bres\x7d"),
  ("api_log_gemini25", "ℹ️ Gemini 2.5 detected. Ignoring AR/Res settings.",
    "ℹ️ 检测到 Gemini 2.5 模型，已自动忽略宽高比和分辨率设置"),
  ("api_log_networkRetry", "🔄 Network retry (\x7battempt\x7d/\x7bmax_retries\x7d)...",
    "🔄 网络重试 (第 \x7battempt\x7d/\x7bmax_retries\x7d 次)..."),
  ("api_log_tokenUsage",
    "📊 Token Usage: Input \x7binput\x7d + Output \x7boutput\x7d = Total \x7btotal\x7d",
    "📊 Token 用量: 输入 \x7binput\x7d + 输出 \x7boutput\x7d = 总计 \x7btotal\x7d"),
  ("api_log_gemini_api_error", "Gemini API Error: \x7breason\x7d",
    "Gemini API 发生异常，错误信息: \x7breason\x7d"),
  ("api_log_receivedImgInline", "✅ Received Image (Inline Bytes)", "✅ 成功接收图片数据 (Inline Bytes)"),
  ("api_log_receivedImgSdk", "✅ Received Image (SDK helper)", "✅ 通过 SDK helper 成功接收图片"),
  ("api_error_noParts", "API Response Error: No 'parts' attribute", "API 响应异常: 缺少 'parts' 属性"),
  ("api_error_textResponse", "API returned text instead of image: \x7btext\x7d",
    "API 返回了文本而非图片: \x7btext\x7d"),
  ("api_error_noValidImage", "No valid image data found in response", "未找到有效的图片数据"),
  ("api_error_system", "❌ System Error: \x7berr\x7d", "❌ 系统异常: \x7berr\x7d"),
  ("api_error_apiKey", "❌ API Key not configured", "❌ 未配置 API Key"),
  ("ar_none", "Auto", "自动")]

/-- The English texts. -/
def english : List (String × String) := texts.map fun (key, text, _) => (key, text)

/-- The Chinese texts. -/
def chinese : List (String × String) := texts.map fun (key, _, text) => (key, text)

end PromptStudio.Catalog

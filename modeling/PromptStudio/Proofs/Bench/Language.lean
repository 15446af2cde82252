import PromptStudio.Proofs.Bench.Calm
import PromptStudio.Proofs.Template.Fill

/-!
# The shipped languages

The tables of both shipped languages have the same keys. What the user is told of the background
work is read from them, with names and messages filled in.
-/

namespace PromptStudio

/-- A language that the program ships with. -/
inductive Language where
  | english
  | chinese
deriving DecidableEq, Repr

namespace Language

/-- The texts of a language by their keys. -/
def pairs : Language → List (String × String)
  | english => Catalog.english
  | chinese => Catalog.chinese

/-- The table of a language. -/
def fields (lang : Language) : List (String × Value) :=
  lang.pairs.map fun pair => (pair.1, .text pair.2)

/-- The text of a language, out of an English and a Chinese one. -/
def pick : Language → String × String → String
  | english => Prod.fst
  | chinese => Prod.snd

/-- A key that is not the first one is looked up in the rest. Two keys are told apart by one letter,
so that going through a long table this way is cheaper than evaluating the look-up. -/
theorem lookup_cons_of_ne {key other : String} (h : ¬ key = other) (texts : String × String)
    (rest : List (String × String × String)) :
    List.lookup key ((other, texts) :: rest) = rest.lookup key := by
  have hne : (key == other) = false := beq_eq_false_iff_ne.mpr h
  rw [List.lookup_cons, hne]

variable {lang : Language}

theorem lookup_pairs (key : String) :
    lang.pairs.lookup key = (Catalog.texts.lookup key).map lang.pick := by
  have hpairs : lang.pairs = Catalog.texts.map fun entry => (entry.1, lang.pick entry.2) := by
    cases lang <;> rfl
  rw [hpairs]
  induction Catalog.texts with
  | nil => rfl
  | cons entry rest ih =>
    rw [List.map_cons, List.lookup_cons, List.lookup_cons, ih]
    split <;> rfl

theorem entry_fields {key text : String} (h : lang.pairs.lookup key = some text) :
    Texts.entry lang.fields key = .text text := by
  rw [Texts.entry, fields, Value.lookup_map_text, h, Option.map_some, Option.getD_some]

theorem loaded_of_table {b : Bench} (h : b.catalog.table = Catalog.ofPairs lang.pairs) :
    Texts.Loaded lang.fields b :=
  ⟨h, by cases lang <;> decide⟩

/-- The text for a key is a template with one plain field. -/
structure OneField (lang : Language) (key before name after : String) : Prop where
  lookup : lang.pairs.lookup key = some (before ++ "\x7b" ++ name ++ "\x7d" ++ after)
  before : ∀ c ∈ before.toList, Template.IsLiteral c
  name : Template.IsName name.toList
  after : ∀ c ∈ after.toList, Template.IsLiteral c

theorem OneField.sayWith {key before name after : String}
    (h : lang.OneField key before name after) {b : Bench} (hb : Texts.Loaded lang.fields b)
    (v : Value) :
    Texts.sayWith key [(name, v)] b = (.ok (.text (before ++ v.display ++ after)), b) := by
  rw [hb.sayWith, entry_fields h.lookup, Texts.fillIn]
  simp only [List.isEmpty_cons, Bool.false_eq_true, if_false,
    Template.fill_field h.before h.name h.after]

/-- The text for a key is a template with plain fields of the given names. -/
def HasTemplate (lang : Language) (key : String) (names : List String) : Prop :=
  match lang.pairs.lookup key with
  | some template => Template.HasFields names template
  | none => False

/-- The templates of what is logged, with their fields. -/
def logTemplates : List (String × List String) := [
  ("logic_log_loadDir", ["path", "count"]),
  ("logic_log_selectImage", ["name"]),
  ("logic_log_removeImage", ["name", "count"]),
  ("logic_log_saveFail", ["err"]),
  ("api_log_loadingImgs", ["count"]),
  ("api_log_skipImg", ["path", "err"]),
  ("api_log_requestInfo", ["prompt_len", "img_count"]),
  ("api_log_requestSent", ["model", "ar", "res"]),
  ("api_log_networkRetry", ["attempt", "max_retries"]),
  ("api_log_tokenUsage", ["input", "output", "total"]),
  ("api_error_system", ["err"])]

theorem hasTemplate (lang : Language) {key : String} {names : List String}
    (h : (key, names) ∈ logTemplates) : lang.HasTemplate key names := by
  have hall : ∀ entry ∈ logTemplates, lang.HasTemplate entry.1 entry.2 := by
    simp only [logTemplates, List.forall_mem_cons, HasTemplate, lookup_pairs, Catalog.texts,
      ↓lookup_cons_of_ne, ↓List.lookup_cons_self, String.reduceEq, not_false_eq_true,
      Option.map_some]
    refine ⟨?_, ?_, ?_, ?_, ?_, ?_, ?_, ?_, ?_, ?_, ?_, List.forall_mem_nil _⟩ <;>
      cases lang <;> exact Template.hasFields_ofList (by decide +kernel)
  exact hall (key, names) h

/-- What is logged is filled in, whatever its values. -/
theorem exists_fillIn (lang : Language) (key : String) (args : List (String × Value))
    (h : (key, args.map Prod.fst) ∈ logTemplates) :
    ∃ text, Texts.fillIn (Texts.entry lang.fields key) args = .ok text := by
  have hkey := lang.hasTemplate h
  cases hlookup : lang.pairs.lookup key with
  | none => simp [HasTemplate, hlookup] at hkey
  | some template =>
    have hfields : Template.HasFields (args.map Prod.fst) template := by
      simpa only [HasTemplate, hlookup] using hkey
    obtain ⟨s, hs⟩ := hfields.exists_fill_eq
    rw [entry_fields hlookup, Texts.fillIn]
    split
    · exact ⟨_, rfl⟩
    · exact ⟨.text s, by simp only [hs]⟩

/-! ### What the user is told of background work -/

/-- The words for a button that downloads a file, before and after its name. -/
def downloadWords : Language → String × String
  | english => ("Download (", ")")
  | chinese => ("下载 (", ")")

/-- The button that downloads a file. -/
def downloadLabel (lang : Language) (name : String) : String :=
  lang.downloadWords.1 ++ name ++ lang.downloadWords.2

/-- The button that downloads nothing. -/
def idleLabel : Language → String
  | english => "Download"
  | chinese => "下载"

/-- The words that announce a failed task. -/
def failureWords : Language → String
  | english => "Task failed: "
  | chinese => "任务失败: "

/-- The warning that a task has failed. -/
def failureWarning (lang : Language) (message : String) : String := lang.failureWords ++ message

variable {lang : Language} {b : Bench}

section

variable (hb : Texts.Loaded lang.fields b)
include hb

theorem sayWith_downloadReady (name : String) :
    Texts.sayWith "logic_btn_downloadReady" [("filename", .text name)] b =
      (.ok (.text (lang.downloadLabel name)), b) := by
  have hfield : lang.OneField "logic_btn_downloadReady" lang.downloadWords.1 "filename"
      lang.downloadWords.2 := by
    constructor
    case lookup =>
      rw [lookup_pairs]
      simp only [Catalog.texts, ↓lookup_cons_of_ne, ↓List.lookup_cons_self, String.reduceEq,
        not_false_eq_true]
      cases lang <;> rfl
    all_goals cases lang <;> decide +kernel
  exact hfield.sayWith hb (.text name)

theorem sayWith_taskFailed (message : String) :
    Texts.sayWith "logic_warn_taskFailed" [("error_msg", .text message)] b =
      (.ok (.text (lang.failureWarning message)), b) := by
  have hfield : lang.OneField "logic_warn_taskFailed" lang.failureWords "error_msg" "" := by
    constructor
    case lookup =>
      rw [lookup_pairs]
      simp only [Catalog.texts, ↓lookup_cons_of_ne, ↓List.lookup_cons_self, String.reduceEq,
        not_false_eq_true]
      cases lang <;> rfl
    all_goals cases lang <;> decide +kernel
  rw [hfield.sayWith hb, String.append_empty]
  rfl

theorem say_idleLabel :
    Texts.say "home_preview_btn_download_placeholder" b = (.ok (.text lang.idleLabel), b) := by
  have hlookup : lang.pairs.lookup "home_preview_btn_download_placeholder" = some lang.idleLabel := by
    rw [lookup_pairs]
    simp only [Catalog.texts, ↓lookup_cons_of_ne, ↓List.lookup_cons_self, String.reduceEq,
      not_false_eq_true]
    cases lang <;> rfl
  rw [hb.say, entry_fields hlookup]

theorem exists_sayWith_saveFail (message : String) :
    ∃ text, Texts.sayWith "logic_log_saveFail" [("err", .text message)] b = (.ok text, b) := by
  obtain ⟨text, htext⟩ := lang.exists_fillIn "logic_log_saveFail" [("err", .text message)]
    (by simp [logTemplates])
  exact ⟨text, by rw [hb.sayWith, htext]⟩

end

/-! ### What is said of replies -/

/-- The words before a text that came in place of a picture. -/
def textWords : Language → String
  | english => "API returned text instead of image: "
  | chinese => "API 返回了文本而非图片: "

theorem sayWith_textResponse (hb : Texts.Loaded lang.fields b) (text : Value) :
    Texts.sayWith "api_error_textResponse" [("text", text)] b =
      (.ok (.text (lang.textWords ++ text.display)), b) := by
  have hfield : lang.OneField "api_error_textResponse" lang.textWords "text" "" := by
    constructor
    case lookup =>
      rw [lookup_pairs]
      simp only [Catalog.texts, ↓lookup_cons_of_ne, ↓List.lookup_cons_self, String.reduceEq,
        not_false_eq_true]
      cases lang <;> rfl
    all_goals cases lang <;> decide +kernel
  rw [hfield.sayWith hb, String.append_empty]

end Language

end PromptStudio

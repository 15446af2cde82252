import PromptStudio.Proofs.Bench.Texts
import PromptStudio.Proofs.Json.File

/-!
# Language files that are no table

A language file may be missing or hold anything. What is no JSON is taken for an empty table, so that
every text is its default or its key. Three kinds of files are not taken so: bytes that are no text,
JSON that is no object, and JSON beyond the limits of the reader. The first and the last stop the
loading, the second stops every look-up.
-/

namespace PromptStudio

/-- The content does no harm as a language file: it is text, and as JSON an object or malformed. -/
def Content.Harmless (content : Content) : Prop :=
  ∃ s, content.text = .ok s ∧
    match Json.parse (withPlainLineEnds s) with
    | .ok table => ∃ fields, table = .object fields
    | .error fault => fault.problem.isSyntax = true

namespace Texts

variable {b b' : Bench} {settings : List Setting} {files : FileTree} {path : String}
  {fields : List (String × Value)}

theorem tableAt_of_not_read {fault : FileFault} (h : files.read path = .error fault) :
    tableAt files path = .ok (.object []) := by
  rw [tableAt]
  split
  · rename_i hhas
    have hsystem := FileTree.ofSystem_of_not_read hhas h
    simp only [FileTree.json_of_not_read h, hsystem, Bool.true_or, if_true]
  · rfl

theorem tableAt_of_no_text {content : Content} {fault : Text.Utf8Fault}
    (h : files.read path = .ok content) (htext : content.text = .error fault) :
    tableAt files path = .error (.encoding fault content) := by
  rw [tableAt, if_pos (FileTree.has_of_read h), FileTree.json_of_no_text h htext]
  rfl

theorem tableAt_of_text {content : Content} {s : String} (h : files.read path = .ok content)
    (htext : content.text = .ok s) :
    tableAt files path = match Json.parse (withPlainLineEnds s) with
      | .ok table => .ok table
      | .error fault =>
        if fault.problem.isSyntax then .ok (.object [])
        else .error (.json fault (withPlainLineEnds s)) := by
  rw [tableAt, if_pos (FileTree.has_of_read h), FileTree.json_of_text h htext]
  cases Json.parse (withPlainLineEnds s) <;> rfl

/-- The entries of a table; none if it is no object. -/
def entries : Value → List (String × Value)
  | .object fields => fields
  | _ => []

/-- The entries of a language file; none if it is no object. -/
def entriesAt (files : FileTree) (path : String) : List (String × Value) :=
  (files.json path).toOption.elim [] entries

theorem tableAt_of_harmless (h : ∀ content, files.read path = .ok content → content.Harmless) :
    tableAt files path = .ok (.object (entriesAt files path)) := by
  rw [entriesAt]
  cases hread : files.read path with
  | error fault =>
    rw [tableAt_of_not_read hread, FileTree.json_of_not_read hread]
    rfl
  | ok content =>
    obtain ⟨s, htext, hjson⟩ := h content hread
    rw [tableAt_of_text hread htext, FileTree.json_of_text hread htext]
    cases hparse : Json.parse (withPlainLineEnds s) with
    | ok table =>
      rw [hparse] at hjson
      obtain ⟨fields, rfl⟩ := hjson
      rfl
    | error fault =>
      rw [hparse] at hjson
      simp only [hjson, if_true]
      rfl

theorem harmless_of_tableAt {content : Content} (h : tableAt files path = .ok (.object fields))
    (hread : files.read path = .ok content) : content.Harmless := by
  cases htext : content.text with
  | error fault =>
    rw [tableAt_of_no_text hread htext] at h
    cases h
  | ok s =>
    rw [tableAt_of_text hread htext] at h
    refine ⟨s, htext, ?_⟩
    cases hparse : Json.parse (withPlainLineEnds s) with
    | ok table =>
      rw [hparse] at h
      exact ⟨fields, Except.ok.inj h⟩
    | error fault =>
      rw [hparse] at h
      cases hform : fault.problem.isSyntax with
      | true => exact hform
      | false =>
        simp only [hform] at h
        cases h

theorem harmless_render {depth : Nat} (h : Json.Kept depth (.object fields))
    (hdepth : depth ≤ Json.nestingLimit) (spacing : Json.Spacing) :
    (Content.ofText (Json.render spacing (.object fields))).Harmless := by
  refine ⟨_, Text.decode_encode _, ?_⟩
  rw [withPlainLineEnds_render h, Json.parse_render h hdepth]
  exact ⟨fields, rfl⟩

/-! ### Loading and looking up -/

/-- The path of the file that settings ask for. -/
def filePath (b : Bench) (settings : List Setting) : String :=
  Catalog.resourcePath b (Path.join "../lang" ((languageIn settings).display ++ ".json"))

/-- Looks up texts one after another, each with its default. -/
def lookupAll (asks : List (String × Value)) : BenchStep (List Value) :=
  asks.mapM fun ask => lookup (.text ask.1) ask.2 []

/-- What a table has for a key, or what there is instead. -/
def entryOr (fields : List (String × Value)) (ask : String × Value) : Value :=
  (Value.lookup ask.1 fields).getD (fallback ask.1 ask.2)

theorem lookupAll_apply {prompts : Option (List Prompt)} {placed : Bool}
    (hstore : b.store = some (.tables ⟨some settings, prompts, placed⟩))
    (htable : current settings b = .ok (.object fields)) (asks : List (String × Value)) :
    ∃ b', lookupAll asks b = (.ok (asks.map (entryOr fields)), b') := by
  induction asks generalizing b with
  | nil => exact ⟨b, rfl⟩
  | cons ask asks ih =>
    obtain ⟨b₁, hlookup, hretold, hkept⟩ := lookup_apply hstore ask.1 ask.2
    rw [htable] at hlookup
    obtain ⟨b₂, hrest⟩ := ih (hretold.store_eq.trans hstore) (hkept _ htable)
    refine ⟨b₂, ?_⟩
    rw [lookupAll, List.mapM_cons, Step.bind_of_ok hlookup]
    exact Step.bind_of_ok hrest

/-- Loading a language file does not fail, and every look-up after it gives the entry of the file, the
default or the key, exactly if what the file holds, if it can be read, does no harm: it is text, and
as JSON an object or malformed. -/
theorem language_file_harmless_iff {prompts : Option (List Prompt)} {placed : Bool}
    (hstore : b.store = some (.tables ⟨some settings, prompts, placed⟩)) :
    let path := filePath b settings
    (∃ b', load b = (.ok (), b') ∧ ∀ asks, ∃ b'', lookupAll asks b' =
        (.ok (asks.map (entryOr (entriesAt b.files path))), b'')) ↔
      ∀ content, b.files.read path = .ok content → content.Harmless := by
  intro path
  have hfile : tableOf b (languageIn settings) = tableAt b.files path := rfl
  obtain ⟨b', hload, hretold, hnew⟩ := load_apply hstore
  rw [hfile] at hload hnew
  have hstore' := hretold.store_eq.trans hstore
  constructor
  · rintro ⟨b₁, hok, hasks⟩ content hread
    rw [hload] at hok
    cases htable : tableAt b.files path with
    | error fault =>
      rw [htable] at hok
      cases hok
    | ok table =>
      rw [htable] at hok
      cases hok
      -- One look-up is enough to see that the table is an object.
      obtain ⟨b₂, hone⟩ := hasks [("", .null)]
      rw [lookupAll, List.mapM_cons] at hone
      obtain ⟨text, b₃, hlookup, -⟩ := Step.bind_eq_ok hone
      obtain ⟨fields, hcurrent⟩ := (ready_of_lookup hstore' hlookup).table
      rw [(hnew table htable).2] at hcurrent
      exact harmless_of_tableAt (htable.trans hcurrent) hread
  · intro hharmless
    have htable := tableAt_of_harmless hharmless
    rw [htable] at hload
    exact ⟨b', hload, lookupAll_apply hstore' (hnew _ htable).2⟩

/-- Settings that ask for a language file of their own. -/
def ownLanguage : List Setting := [⟨.text "language", .text "/w/l/c"⟩]

/-- A workbench with such settings, and with a content in that file. -/
def benchWith (content : Content) : Bench where
  clock := .zero false
  files := { root := .folder [("w", .folder [("l", .folder [("c.json", .file content none)])])] }
  store := some (.tables ⟨some ownLanguage, some [], true⟩)

/-- A text is found in the file, another one falls back on its default, a third one on its key. -/
theorem language_file_harmless_iff_ownTable :
    let table : Value := .object [("hello", .text "Hallo")]
    let b := benchWith (.ofText (Json.render .compact table))
    ∃ b', load b = (.ok (), b') ∧ ∃ b'',
      lookupAll [("hello", .null), ("bye", .text "Adieu"), ("bye", .null)] b' =
        (.ok [.text "Hallo", .text "Adieu", .text "bye"], b'') := by
  intro table b
  have hkept : Json.Kept 1 table := ⟨by decide, by simp [Json.Kept, Json.Simple]⟩
  have hread : b.files.read (filePath b ownLanguage) = .ok (.ofText (Json.render .compact table)) :=
    eq_ok_of_toOption (by decide +kernel)
  have hstore : b.store = some (.tables ⟨some ownLanguage, some [], true⟩) := rfl
  have hharmless : ∀ content, b.files.read (filePath b ownLanguage) = .ok content →
      content.Harmless := by
    intro content hcontent
    rw [hread] at hcontent
    cases hcontent
    exact harmless_render hkept (by decide) .compact
  obtain ⟨b', hload, hasks⟩ := (language_file_harmless_iff hstore).mpr hharmless
  rw [entriesAt, FileTree.json_render hkept (by decide) .compact hread] at hasks
  exact ⟨b', hload, hasks _⟩

/-- Bytes that are no text stop the loading, and JSON that is no object stops a look-up. -/
theorem bad_language_files_stop :
    (load (benchWith (.bytes [0xff]))).1 =
        .error (.encoding (.invalidStart 0xff 0) (.bytes [0xff])) ∧
      ∃ b', load (benchWith (.ofText (Json.render .compact (.list [.int 1])))) = (.ok (), b') ∧
        (lookup (.text "hello") (.text "Hallo") [] b').1 =
          .error (.value (.noField (.list [.int 1]) "get")) := by
  constructor
  · let b := benchWith (.bytes [0xff])
    have hstore : b.store = some (.tables ⟨some ownLanguage, some [], true⟩) := rfl
    have hread : b.files.read (filePath b ownLanguage) = .ok (.bytes [0xff]) :=
      eq_ok_of_toOption (by decide +kernel)
    have htable : tableOf b (languageIn ownLanguage) =
        .error (.encoding (.invalidStart 0xff 0) (.bytes [0xff])) := tableAt_of_no_text hread rfl
    obtain ⟨b', hload, -⟩ := load_apply hstore
    rw [htable] at hload
    exact congrArg Prod.fst hload
  · let b := benchWith (.ofText (Json.render .compact (.list [.int 1])))
    have hstore : b.store = some (.tables ⟨some ownLanguage, some [], true⟩) := rfl
    have hread : b.files.read (filePath b ownLanguage) =
        .ok (.ofText (Json.render .compact (.list [.int 1]))) :=
      eq_ok_of_toOption (by decide +kernel)
    have hkept : Json.Kept 1 (.list [.int 1]) := by
      simp only [Json.Kept, List.forall_mem_cons]
      exact ⟨Nat.le_of_ble_eq_true rfl, List.forall_mem_nil _⟩
    have htable : tableOf b (languageIn ownLanguage) = .ok (.list [.int 1]) := by
      change tableAt b.files (filePath b ownLanguage) = _
      rw [tableAt_of_text hread (Text.decode_encode _), withPlainLineEnds_render hkept,
        Json.parse_render hkept (by decide)]
    obtain ⟨b', hload, hretold, hnew⟩ := load_apply hstore
    rw [htable] at hload
    refine ⟨b', hload, ?_⟩
    obtain ⟨b'', hlookup, -⟩ := lookup_apply (hretold.store_eq.trans hstore) "hello" (.text "Hallo")
    rw [hlookup, (hnew _ htable).2]
    rfl

end Texts

end PromptStudio

import PromptStudio.Desktop.Settings
import PromptStudio.Proofs.Bench.Aloof
import PromptStudio.Proofs.Json.File
import PromptStudio.Proofs.Store.Backup

/-!
# Backup files

The settings page writes the whole store as JSON in UTF-8 and offers the bytes for saving. A store of
texts, whole numbers and nulls is read from such a file as it was written, whatever characters its
texts have.
-/

namespace PromptStudio

open Step (Same Within within_modify within_pure within_throw within_get within_orFail)

/-! ### Values of the store -/

namespace Value

/-- The items of a list, or what the fields of an object hold. -/
def parts : Value → List Value
  | .list vs => vs
  | .object fields => fields.map Prod.snd
  | _ => []

/-- Whether a value is a text, a whole number of 64 bits or null. -/
def isPlain : Value → Bool
  | .null | .text _ => true
  | .int n => Cell.inRange n
  | _ => false

/-- All fields of all rows of all tables are plain. -/
def HasPlainRows (data : Value) : Prop :=
  ∀ table ∈ data.parts, ∀ row ∈ table.parts, ∀ field ∈ row.parts, field.isPlain = true

instance : DecidablePred HasPlainRows := fun data => inferInstanceAs (Decidable
  (∀ table ∈ data.parts, ∀ row ∈ table.parts, ∀ field ∈ row.parts, field.isPlain = true))

theorem simple_of_isPlain {v : Value} (h : v.isPlain = true) : Json.Simple v := by
  cases v with
  | null | text => trivial
  | int n =>
    have htwo : (twoTo 63 : Int) = 2 ^ 63 := by decide
    simp only [isPlain, Cell.inRange, htwo, Bool.and_eq_true, decide_eq_true_eq] at h
    have hlength : (Nat.toDigits 10 n.natAbs).length ≤ 20 :=
      (Nat.length_toDigits_le_iff (by decide) (by decide)).mpr (by omega)
    exact Nat.le_trans hlength (by decide)
  | _ => cases h

theorem kept_row {fields : List (String × Value)} (hnames : (fields.map Prod.fst).Nodup)
    (h : ∀ v ∈ (object fields).parts, v.isPlain = true) : Json.Kept 1 (.object fields) :=
  ⟨hnames, fun field hfield => (simple_of_isPlain (h field.2 (List.mem_map_of_mem hfield))).kept 0⟩

end Value

namespace Database

theorem kept_backupValue {settings : List Setting} {prompts : List Prompt}
    (h : (backupValue settings prompts).HasPlainRows) :
    Json.Kept 3 (backupValue settings prompts) := by
  simp only [Value.HasPlainRows, backupValue, Value.parts, List.map_cons, List.map_nil,
    List.forall_mem_cons, List.forall_mem_map] at h
  obtain ⟨hsettings, hprompts, -⟩ := h
  refine ⟨by simp, ?_⟩
  simp only [List.forall_mem_cons]
  refine ⟨?_, ?_, List.forall_mem_nil _⟩
  · exact List.forall_mem_map.mpr fun row hrow => Value.kept_row (by simp) (hsettings row hrow)
  · exact List.forall_mem_map.mpr fun row hrow => Value.kept_row (by simp) (hprompts row hrow)

theorem exists_backupValue {d : Database} {data : Value} (h : d.backup = .ok data) :
    ∃ settings prompts, data = backupValue settings prompts := by
  unfold backup at h
  cases hsettings : d.settingRows with
  | error fault => simp [hsettings, bind, Except.bind] at h
  | ok settings =>
    cases hprompts : d.allPrompts with
    | error fault => simp [hsettings, hprompts, bind, Except.bind] at h
    | ok prompts =>
      simp only [hsettings, hprompts, bind, Except.bind, Except.ok.injEq] at h
      exact ⟨settings, prompts, h.symm⟩

end Database

/-! ### Offering a backup -/

/-- What the user was asked to save, in order. -/
def Bench.offers (b : Bench) : List (List (String × Value)) :=
  b.events.reverse.filterMap fun
    | .pickerAsked .saveFile options => some options
    | _ => none

theorem Bench.offers_eq {b b' : Bench} (h : b'.events = b.events) : b'.offers = b.offers := by
  rw [offers, offers, h]

theorem Bench.offers_record (b : Bench) (options : List (String × Value)) :
    (b.record (.pickerAsked .saveFile options)).offers = b.offers ++ [options] := by
  simp [offers, record]

namespace Store

theorem events_connect : Within (Same Bench.events) connect := by
  intro b
  rcases connect_cases b with h | ⟨_, h⟩ <;> rw [h] <;> rfl

theorem events_backup : Within (Same Bench.events) backup := by
  have htables : Within (Same Bench.events) tables := by
    refine within_get.bind fun b => ?_
    split
    · exact within_pure _
    · exact within_throw _
  exact (events_connect.bind fun _ => htables).bind fun _ => within_orFail _

theorem exists_backupValue {b : Bench} {data : Value} (h : (backup b).1 = .ok data) :
    ∃ settings prompts, data = Database.backupValue settings prompts := by
  obtain ⟨d, b', -, hd⟩ := Step.bind_eq_ok (Prod.ext h rfl)
  have hdata : d.backup.mapError Fault.store = .ok data := congrArg Prod.fst hd
  cases hbackup : d.backup with
  | error fault => simp [hbackup, Except.mapError] at hdata
  | ok data' =>
    obtain rfl : data' = data := by simpa [hbackup, Except.mapError] using hdata
    exact Database.exists_backupValue hbackup

end Store

namespace Texts

theorem events_load : Within (Same Bench.events) load :=
  within_load Store.events_connect (fun _ _ => rfl) fun _ => within_modify fun _ => rfl

theorem events_lookup (key default : Value) (args : List (String × Value)) :
    Within (Same Bench.events) (lookup key default args) :=
  within_lookup (fun b _ => events_load b) key default args

end Texts

namespace SettingsPage

theorem offers_showMessage (text : Value) (isError : Bool) :
    Within (Same Bench.offers) (showMessage text isError) :=
  within_modify fun b => by simp [Same, Bench.offers, Bench.record]

theorem offers_lookup (key default : Value) (args : List (String × Value)) :
    Within (Same Bench.offers) (Texts.lookup key default args) :=
  (Texts.events_lookup key default args).mono fun _ _ => Bench.offers_eq

theorem offers_showFault (key default : String) (fault : Fault) :
    Within (Same Bench.offers) (showFault key default fault) :=
  (offers_lookup _ _ _).bind fun text => offers_showMessage text true

theorem offers_nextPick : Within (Same Bench.offers) nextPick := by
  have hpick : Within (Same Bench.offers) nextPick? := by
    refine Step.within_get_bind fun b => ?_
    cases b.picks with
    | nil => rfl
    | cons pick picks => cases pick <;> rfl
  exact hpick.bind fun _ => within_pure _

theorem offers_askPicker (options : List (String × Value)) (b : Bench) :
    (askPicker .made .saveFile options b).2.offers = b.offers ++ [options] := by
  rw [← Bench.offers_record]
  exact offers_nextPick (b.record (.pickerAsked .saveFile options))

theorem backup_apply (d : Desk) : (backup d).2.bench =
    (offerBackup d.settingsShared.exportPicker.ready d.bench).2 := rfl

theorem offers_report (x : Except Fault Unit) : Within (Same Bench.offers) (match x with
    | .ok () => pure ()
    | .error fault =>
      showFault "settings_export_error" "Error exporting data: \x7berror\x7d" fault) := by
  split
  · exact within_pure _
  · exact offers_showFault _ _ _

/-- Where the store can be backed up and a picker is there, one file is offered, and it holds the
backup. -/
theorem offers_offerBackup {b : Bench} {data : Value} (hexport : (Store.backup b).1 = .ok data) :
    (offerBackup .made b).2.offers =
      b.offers ++ [backupOptions data (Store.backup b).2.seconds] := by
  have hbackup : Store.backup b = (.ok data, (Store.backup b).2) := Prod.ext hexport rfl
  have hbefore : (Store.backup b).2.offers = b.offers := Bench.offers_eq (Store.events_backup b)
  have hthanks (path : Value) : Within (Same Bench.offers) (do
      let text ← Texts.lookup (.text "settings_export_success")
        (.text "Data successfully exported to \x7bpath\x7d") [("path", path)]
      showMessage text false) :=
    (offers_lookup _ _ _).bind fun text => offers_showMessage text false
  rw [offerBackup, Step.outcome_bind]
  refine (offers_report _ _).trans ?_
  rw [Step.bind_of_ok hbackup, Step.get_bind, ← hbefore, ← offers_askPicker]
  exact Step.within_rest hthanks _

/-- The bytes that are offered for saving are read as the backup that was made, in whatever file
they are put. -/
theorem backup_file_reads_back {d : Desk} {data : Value}
    (hexport : (Store.backup d.bench).1 = .ok data) (hplain : data.HasPlainRows)
    (hpicker : d.settingsShared.exportPicker.ready = .made) :
    ∃ options content, (backup d).2.bench.offers = d.bench.offers ++ [options] ∧
      Value.lookup "src_bytes" options = some (.data content) ∧
      ∀ (files : FileTree) (path : String), files.read path = .ok content →
        files.json path = .ok data := by
  refine ⟨backupOptions data (Store.backup d.bench).2.seconds, .ofText (backupText data), ?_, rfl,
    fun files path hfile => ?_⟩
  · rw [backup_apply, hpicker]
    exact offers_offerBackup hexport
  · obtain ⟨settings, prompts, rfl⟩ := Store.exists_backupValue hexport
    exact FileTree.json_render (Database.kept_backupValue hplain) (by decide) .compact hfile

/-- Settings with quotes, a backslash, control characters, line separators and a null. -/
def unusualSettings : List Setting :=
  [⟨.text "api_key", .text "\"\\/\x08\x0c\n\r\t\x00\x1f\x7f"⟩, ⟨.text "\u2028\u2029\ufeff", .null⟩]

/-- A prompt with characters of two to four bytes, a text that looks like JSON and the least number. -/
def unusualPrompts : List Prompt :=
  [⟨.text "café 漢字 𝄞😀", .text "\\u0041 \x7b[,:]\x7d null", .int (-9223372036854775808)⟩]

theorem backup_file_reads_back_unusual :
    let d : Desk := { bench := { clock := .ofInt 0, files := default, store := some (.tables
      ⟨some unusualSettings, some unusualPrompts, true⟩) } }
    let data := Database.backupValue unusualSettings unusualPrompts
    (Store.backup d.bench).1 = .ok data ∧ data.HasPlainRows ∧
      d.settingsShared.exportPicker.ready = .made ∧
      ∃ options content, (backup d).2.bench.offers = d.bench.offers ++ [options] ∧
        Value.lookup "src_bytes" options = some (.data content) ∧
        ∀ (files : FileTree) (path : String), files.read path = .ok content →
          files.json path = .ok data := by
  intro d data
  have hexport : (Store.backup d.bench).1 = .ok data := by
    have horder : Database.inOrder unusualPrompts = unusualPrompts := List.mergeSort_singleton _
    rw [Store.backup_apply rfl, Database.backup_eq, horder]
    rfl
  have hplain : data.HasPlainRows := by decide +kernel
  exact ⟨hexport, hplain, rfl, backup_file_reads_back hexport hplain rfl⟩

end SettingsPage

end PromptStudio

import PromptStudio.Proofs.Store.CellOrder
import PromptStudio.Proofs.Store.Restore

/-!
# Restoring a backup

A backup lists settings in the order of their rows and prompts in their order, and restoring inserts
both row by row. No column changes what it holds already, rows that did not collide before do not
collide now, and prompts that are in order stay so. So the restored store answers as the one that
was backed up, whatever store it takes the place of.
-/

namespace PromptStudio

namespace Cell

/-- A text column holds the cells that it leaves as they are. -/
def InTexts (c : Cell) : Prop := c.asText = c

instance : DecidablePred InTexts := fun c => inferInstanceAs (Decidable (c.asText = c))

/-- Whether a cell can stand for itself as a bound value: a whole number fits in 64 bits, and a real
is a number. -/
def bindable : Cell → Bool
  | int n => inRange n
  | real x => x ≠ .nan
  | _ => true

/-- A whole-number column holds the cells that it leaves as they are. -/
def InNumbers (c : Cell) : Prop := c.asNumber = c ∧ c.bindable = true

instance : DecidablePred InNumbers := fun c =>
  inferInstanceAs (Decidable (c.asNumber = c ∧ c.bindable = true))

variable {c c' : Cell}

theorem ofValue_toValue (h : c.bindable = true) (position : Nat) :
    ofValue position c.toValue = .ok c := by
  cases c with
  | null | text => rfl
  | int n => exact if_pos h
  | real x =>
    have hx : x ≠ .nan := by simpa [bindable] using h
    simp [toValue, ofValue, hx]

theorem InTexts.bindable (h : c.InTexts) : c.bindable = true := by
  cases c with
  | null | text => rfl
  | int | real => cases h

theorem InTexts.keeps (h : c.InTexts) : Keeps asText c.toValue c :=
  ⟨c, ⟨1, ofValue_toValue h.bindable 1⟩, h⟩

theorem InNumbers.keeps (h : c.InNumbers) : Keeps asNumber c.toValue c :=
  ⟨c, ⟨1, ofValue_toValue h.2 1⟩, h.1⟩

end Cell

namespace Database

variable {settings : List Setting} {prompts : List Prompt}

/-- The tables hold what their columns can hold, and nulls apart no two settings have one key and no
two prompts have one title. -/
structure Sound (settings : List Setting) (prompts : List Prompt) : Prop where
  settingCells : ∀ row ∈ settings, row.key.InTexts ∧ row.value.InTexts
  promptCells : ∀ row ∈ prompts, row.title.InTexts ∧ row.content.InTexts ∧ row.place.InNumbers
  keys : Unique Setting.key settings
  titles : Unique Prompt.title prompts

theorem inOrder_perm (prompts : List Prompt) : (inOrder prompts).Perm prompts :=
  List.mergeSort_perm _ _

theorem Sound.inOrder (h : Sound settings prompts) : Sound settings (inOrder prompts) where
  settingCells := h.settingCells
  promptCells row hrow := h.promptCells row ((inOrder_perm prompts).mem_iff.mp hrow)
  keys := h.keys
  titles := h.titles.perm (inOrder_perm prompts).symm

theorem Sound.place_ne_nan (h : Sound settings prompts) :
    ∀ row ∈ prompts, row.place ≠ .real .nan := by
  intro row hrow hnan
  obtain ⟨-, -, -, hplace⟩ := h.promptCells row hrow
  simp [hnan, Cell.bindable] at hplace

/-- The value that stands for two tables in a backup. -/
def backupValue (settings : List Setting) (prompts : List Prompt) : Value :=
  .object [("settings", .list (settings.map settingValue)),
    ("prompts", .list (prompts.map promptValue))]

theorem backup_eq (settings : List Setting) (prompts : List Prompt) :
    backup ⟨some settings, some prompts, true⟩ = .ok (backupValue settings (inOrder prompts)) := rfl

/-- The value of two tables describes them. -/
theorem Sound.describes (h : Sound settings prompts) :
    Describes [("settings", .list (settings.map settingValue)),
      ("prompts", .list (prompts.map promptValue))] settings prompts where
  settingItems := by
    refine ⟨_, .list rfl, List.forall₂_map_left_iff.mpr (List.forall₂_same.mpr fun row hrow => ?_)⟩
    obtain ⟨hkey, hvalue⟩ := h.settingCells row hrow
    exact ⟨_, rfl, hkey.keeps, hvalue.keeps⟩
  promptItems := by
    refine ⟨_, .list rfl, ?_⟩
    have hrows : List.Forall₂ (fun entry => Prompt.Of (promptValue entry.1, entry.2)) prompts.zipIdx
        (prompts.zipIdx.map Prod.fst) := by
      refine List.forall₂_map_right_iff.mpr (List.forall₂_same.mpr fun entry hentry => ?_)
      obtain ⟨htitle, hcontent, hplace⟩ :=
        h.promptCells entry.1 (List.fst_mem_of_mem_zipIdx hentry)
      exact ⟨_, rfl, htitle.keeps, hcontent.keeps, hplace.keeps⟩
    rw [List.zipIdx_map_fst] at hrows
    rw [List.zipIdx_map]
    exact List.forall₂_map_left_iff.mpr hrows
  keys := h.keys
  titles := h.titles

theorem restore_backupValue (h : Sound settings prompts) (settings' : List Setting)
    (prompts' : List Prompt) :
    restore ⟨some settings', some prompts', true⟩ (backupValue settings prompts) =
      .ok (⟨some settings, some prompts, true⟩, settings.length, prompts.length) :=
  h.describes.restore_eq_ok settings' prompts'

end Database

namespace Store

variable {a b : Bench} {settings settings' : List Setting} {rows rows' : List Prompt}

/-- The stores of two workbenches answer alike. -/
structure Alike (a b : Bench) : Prop where
  setting : ∀ key default, (settingD key default b).1 = (settingD key default a).1
  content : ∀ title, (content title b).1 = (content title a).1
  prompts : (prompts b).1 = (prompts a).1
  titles : (titles b).1 = (titles a).1

theorem alike_of_inOrder (h : Database.Sound settings rows)
    (ha : a.store = some (.tables ⟨some settings, some rows, true⟩))
    (hb : b.store = some (.tables ⟨some settings, some (Database.inOrder rows), true⟩)) :
    Alike a b := by
  have horder := Database.inOrder_inOrder h.place_ne_nan
  have hprompts : Database.allPrompts ⟨some settings, some (Database.inOrder rows), true⟩ =
      .ok (Database.inOrder rows) := congrArg Except.ok horder
  have htitles : Database.allTitles ⟨some settings, some (Database.inOrder rows), true⟩ =
      .ok ((Database.inOrder rows).map (·.title)) := by
    rw [Database.allTitles, hprompts]
    rfl
  constructor
  · intro key default
    rw [settingD_apply ha rfl, settingD_apply hb rfl]
  · intro title
    rw [content_apply ha rfl, content_apply hb rfl]
    simp only [h.titles.find?_perm (Database.inOrder_perm rows).symm]
  · rw [prompts_apply ha, prompts_apply hb, hprompts]
    rfl
  · rw [titles_apply ha rfl, titles_apply hb htitles]

/-- A backup can be restored in place of any store: backing up again gives the same value, the store
answers as the one that was backed up, and of the store before nothing is left. -/
theorem restore_backup (h : Database.Sound settings rows)
    (ha : a.store = some (.tables ⟨some settings, some rows, true⟩))
    (hb : b.store = some (.tables ⟨some settings', some rows', true⟩)) :
    ∃ v, backup a = (.ok v, a) ∧ (∀ time, b.stamp = .ok time → (restore v b).1 = .ok ()) ∧
      (restore v b).2.store =
        some (.tables ⟨some settings, some (Database.inOrder rows), true⟩) ∧
      backup (restore v b).2 = (.ok v, (restore v b).2) ∧ Alike a (restore v b).2 := by
  have hbackup := backup_apply ha
  rw [Database.backup_eq] at hbackup
  obtain ⟨hstore, hok⟩ := restore_store hb (Database.restore_backupValue h.inOrder settings' rows')
  refine ⟨_, hbackup, hok, hstore, ?_, alike_of_inOrder h ha hstore⟩
  -- The rows are now in order, so the second backup sorts what is sorted.
  rw [backup_apply hstore, Database.backup_eq, Database.inOrder_inOrder h.place_ne_nan]
  rfl

/-- Settings with and without keys. -/
def looseSettings : List Setting :=
  [⟨.null, .text "lost"⟩, ⟨.text "language", .text "zh"⟩, ⟨.null, .null⟩]

/-- Prompts at equal places, at no place, at a text and at a half; two have no title. -/
def loosePrompts : List Prompt :=
  [⟨.text "b", .text "first", .int 2⟩, ⟨.null, .text "untitled", .text "soon"⟩,
    ⟨.text "a", .null, .int 2⟩, ⟨.null, .null, .null⟩,
    ⟨.text "c", .text "half", .real (.finite false (twoTo 52) (-53))⟩]

/-- A workbench whose store has these tables. -/
def looseBench : Bench :=
  { (default : Bench) with store := some (.tables ⟨some looseSettings, some loosePrompts, true⟩) }

/-- A workbench whose store has other rows. -/
def otherBench : Bench :=
  { (default : Bench) with store := some (.tables ⟨some [⟨.text "language", .text "en"⟩],
      some [⟨.text "a", .text "left", .int 1⟩], true⟩) }

theorem restore_backup_loose :
    Database.Sound looseSettings loosePrompts ∧
      ∃ v, backup looseBench = (.ok v, looseBench) ∧ (restore v otherBench).1 = .ok () ∧
        backup (restore v otherBench).2 = (.ok v, (restore v otherBench).2) ∧
        Alike looseBench (restore v otherBench).2 := by
  have hsound : Database.Sound looseSettings loosePrompts :=
    ⟨by decide +kernel, by decide +kernel, by decide, by decide⟩
  obtain ⟨v, hv, hok, -, hagain, halike⟩ :=
    restore_backup hsound (a := looseBench) (b := otherBench) rfl rfl
  exact ⟨hsound, v, hv, hok "00:00:00" rfl, hagain, halike⟩

end Store

end PromptStudio

import PromptStudio.Proofs.Bench.Aloof

/-!
# Steps that leave windows and texts alone

Jobs and pages write files, besides what they log, look up and ask of the image service. Whatever
they do on the workbench, windows refresh as before and texts read as before.
-/

namespace PromptStudio

open Step (Within within_get_bind within_throw within_get)

/-- Windows refresh on both workbenches alike, and a table of texts that is on the first is on the
second. -/
structure Bench.Calm (b b' : Bench) : Prop where
  windows : b'.refreshFaults = b.refreshFaults
  texts : b.catalog.table.truthy = true → b'.catalog = b.catalog

namespace Bench.Calm

variable {b b' b'' : Bench}

theorem refl (b : Bench) : b.Calm b := ⟨rfl, fun _ => rfl⟩

theorem trans (h : b.Calm b') (h' : b'.Calm b'') : b.Calm b'' where
  windows := h'.windows.trans h.windows
  texts := fun htable => by
    have hsame := h.texts htable
    exact (h'.texts (hsame ▸ htable)).trans hsame

instance : IsPreorder Bench Bench.Calm where
  refl := refl
  trans := fun _ _ _ => trans

theorem of_eq (hwindows : b'.refreshFaults = b.refreshFaults) (htexts : b'.catalog = b.catalog) :
    b.Calm b' := ⟨hwindows, fun _ => htexts⟩

theorem refresh_eq (h : b.Calm b') (window : Nat) : b'.refresh window = b.refresh window := by
  rw [Bench.refresh, Bench.refresh, Bench.refreshFault, Bench.refreshFault, h.windows]

end Bench.Calm

theorem Bench.Aloof.calm {b b' : Bench} (h : b.Aloof b') : b.Calm b' := ⟨h.windows, h.texts⟩

theorem Bench.Logged.calm {b b' : Bench} (h : b.Logged b') : b.Calm b' := h.aloof.calm

theorem Step.Within.calm {α : Type} {x : BenchStep α} (h : Within Bench.Aloof x) :
    Within Bench.Calm x := h.mono fun _ _ => Bench.Aloof.calm

/-! ### Files -/

theorem calm_makeFolders (path : String) (existOk : Bool) :
    Within Bench.Calm (makeFolders path existOk) := by
  refine within_get_bind fun b => ?_
  dsimp only
  generalize b.files.makeFolders path existOk = made
  obtain ⟨files, fault | fault⟩ := made <;> exact .of_eq rfl rfl

theorem calm_onFiles (op : FileTree → Except FileFault FileTree) :
    Within Bench.Calm (onFiles op) := by
  refine within_get_bind fun b => ?_
  cases op b.files <;> exact .of_eq rfl rfl

theorem calm_copyFile (source target : String) : Within Bench.Calm (copyFile source target) := by
  refine within_get_bind fun b => ?_
  cases b.files.copy source target <;> exact .of_eq rfl rfl

theorem calm_savePng (path : String) (p : Picture) (byName : Bool) :
    Within Bench.Calm (savePng path p byName) := by
  have hrest : Within Bench.Calm (do
      let target := (← get).files.realPath path
      if byName && (Path.extension target).isEmpty then
        throw (.refused "unknown file extension: ")
      onFiles (·.write target (.encoded p.width p.height "PNG") none) : BenchStep Unit) := by
    refine within_get.bind fun b => ?_
    dsimp only
    split
    · exact (within_throw _).bind fun _ => calm_onFiles _
    · exact calm_onFiles _
  unfold savePng
  split
  · exact (within_throw _).bind fun _ => hrest
  · exact hrest

theorem calm_saveImage (image : Value) (path : String) (byName : Bool) :
    Within Bench.Calm (saveImage image path byName) := by
  unfold saveImage
  split
  · exact calm_savePng _ _ _
  · split
    · exact within_throw _
    · exact calm_savePng _ _ _
  · exact within_throw _

/-! ### A loaded table -/

namespace Texts

variable {b b' : Bench} {fields : List (String × Value)}

/-- The text for a key in a table; the key itself if there is none. -/
def entry (fields : List (String × Value)) (key : String) : Value :=
  (Value.lookup key fields).getD (.text key)

/-- The workbench has a table with texts in it. -/
structure Loaded (fields : List (String × Value)) (b : Bench) : Prop where
  table : b.catalog.table = .object fields
  full : fields ≠ []

theorem Loaded.truthy (h : Loaded fields b) : b.catalog.table.truthy = true := by
  rw [h.table]
  cases fields with
  | nil => exact absurd rfl h.full
  | cons => rfl

theorem Loaded.calm (h : Loaded fields b) (hcalm : b.Calm b') : Loaded fields b' :=
  ⟨by rw [hcalm.texts h.truthy, h.table], h.full⟩

theorem Loaded.sayWith (h : Loaded fields b) (key : String) (args : List (String × Value)) :
    Texts.sayWith key args b = (fillIn (entry fields key) args, b) := by
  unfold Texts.sayWith lookup
  rw [Step.get_bind]
  simp only [h.truthy, Bool.not_true, Bool.false_eq_true, if_false]
  rw [Step.get_bind, h.table]
  rfl

theorem Loaded.say (h : Loaded fields b) (key : String) :
    Texts.say key b = (.ok (entry fields key), b) := h.sayWith key []

end Texts

end PromptStudio

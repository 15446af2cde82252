import PromptStudio.Proofs.Bench.Store

/-!
# Opening the store at the start

The program opens the store's file when it starts. Where there was no file it makes the tables, and
where there was one it only gives the prompts of an older store their places. So the store can be
used afterwards, with all that was in it, exactly if there was no file or the file had both tables:
one without prompts is refused, and one without settings stays so.
-/

namespace PromptStudio

/-- What a prompt says, apart from its place. -/
def Prompt.pair (row : Prompt) : Cell × Cell := (row.title, row.content)

namespace Database

theorem map_pair_placeAll (rows : List Prompt) (start : Nat) (titles : List Cell) :
    (placeAll rows start titles).map Prompt.pair = rows.map Prompt.pair := by
  induction titles generalizing rows start with
  | nil => rfl
  | cons title titles ih =>
    rw [placeAll, ih, place, List.map_map]
    refine List.map_congr_left fun row _ => ?_
    by_cases h : row.title.collides title.asText = true <;> simp [Prompt.pair, h]

theorem exists_migrate_eq (settings : Option (List Setting)) (rows : List Prompt) (placed : Bool) :
    ∃ rows', migrate ⟨settings, some rows, placed⟩ = .ok ⟨settings, some rows', true⟩ ∧
      rows'.map Prompt.pair = rows.map Prompt.pair := by
  cases placed with
  | true => exact ⟨rows, rfl, rfl⟩
  | false => exact ⟨_, rfl, map_pair_placeAll rows 0 _⟩

end Database

namespace Store

variable {b b₁ : Bench} {d : Database} {time : String}

/-- Opens the store's file, in a folder that is made if need be. -/
def opening : BenchStep Database := do
  makeFolders storageFolder true
  opened

/-- What is done at the start with a file that is open: tables are made if the file is new. -/
def equip (new : Bool) : BenchStep Unit :=
  if new then do
    logText ("Database file not found at " ++ storeFile ++ ". Creating a new one.")
    prepare
    logText "Database created and initialized successfully."
  else migrate

theorem makeFolders_keeps (path : String) (existOk : Bool) (b : Bench) :
    ∃ files, (makeFolders path existOk b).2 = { b with files } := by
  refine ⟨(b.files.makeFolders path existOk).1, ?_⟩
  rw [makeFolders, Step.get_bind]
  simp only [Step.bind_of_ok (Step.set_apply b _)]
  cases (b.files.makeFolders path existOk).2 <;> rfl

theorem opening_inv (h : opening b = (.ok d, b₁)) :
    b.held = .tables d ∧ b₁.store = some (.tables d) ∧ b₁.stamp = b.stamp := by
  obtain ⟨files, hfiles⟩ := makeFolders_keeps storageFolder true b
  rw [opening, Step.bind_apply] at h
  split at h
  · rename_i b₀ hfolders
    rw [hfolders] at hfiles
    subst hfiles
    have hheld : Bench.held { b with files } = b.held := rfl
    obtain hconnect | ⟨-, hconnect⟩ := connect_cases { b with files }
    · rw [opened, Step.bind_of_ok hconnect, hheld] at h
      cases hfile : b.held with
      | garbage =>
        rw [hfile] at h
        cases h
      | tables d' =>
        rw [hfile, tables_apply rfl] at h
        cases h
        exact ⟨rfl, rfl, rfl⟩
    · rw [opened, Step.bind_of_error hconnect] at h
      cases h
  · cases h

/-- Whether there is no file, so that the start makes a new store. -/
def isNew (b : Bench) : Bool := b.store.isNone && !b.files.has storeFile

theorem ensure_eq (b : Bench) : ensure b = (do
    match ← outcome (do
        makeFolders storageFolder true
        let _ ← opened
        equip (isNew b)) with
    | .ok () => pure ()
    | .error fault =>
      logText ("FATAL: Could not create, initialize, or migrate the database: " ++ fault.message)
      throw fault : BenchStep Unit) b := rfl

/-- The start of a file that can be opened is its equipment. A fault is logged and ends the
start. -/
theorem ensure_of_opening (h : opening b = (.ok d, b₁)) :
    ensure b = match equip (isNew b) b₁ with
      | (.ok (), b') => (.ok (), b')
      | (.error fault, b') => (do
          logText ("FATAL: Could not create, initialize, or migrate the database: " ++
            fault.message)
          throw fault : BenchStep Unit) b' := by
  have hwork : (do
      makeFolders storageFolder true
      let _ ← opened
      equip (isNew b) : BenchStep Unit) b = equip (isNew b) b₁ := by
    rw [opening, Step.bind_apply] at h
    split at h
    · rename_i b₀ hfolders
      rw [Step.bind_of_ok hfolders, Step.bind_of_ok h]
    · cases h
  rw [ensure_eq, Step.outcome_bind, hwork]
  rcases equip (isNew b) b₁ with ⟨_ | _, b'⟩ <;> rfl

theorem ensure_of_equip_ok {b' : Bench} (h : opening b = (.ok d, b₁))
    (hequip : equip (isNew b) b₁ = (.ok (), b')) : ensure b = (.ok (), b') := by
  rw [ensure_of_opening h, hequip]

theorem exists_logText (hclock : b.stamp = .ok time) (s : String) :
    ∃ b', logText s b = (.ok (), b') ∧ b'.store = b.store ∧ b'.stamp = .ok time := by
  have hlogged := logged_logText s b
  rw [logText_apply_of_ok hclock] at hlogged ⊢
  exact ⟨_, rfl, hlogged.store_eq, hlogged.stamp_eq.trans hclock⟩

theorem ensure_of_equip_error {b' : Bench} {fault : Fault} (h : opening b = (.ok d, b₁))
    (hequip : equip (isNew b) b₁ = (.error fault, b')) (hclock : b'.stamp = .ok time) :
    ∃ b'', ensure b = (.error fault, b'') ∧ b''.store = b'.store := by
  obtain ⟨b'', hlog, hstore, -⟩ := exists_logText hclock
    ("FATAL: Could not create, initialize, or migrate the database: " ++ fault.message)
  rw [ensure_of_opening h, hequip]
  exact ⟨b'', Step.bind_of_ok hlog, hstore⟩

theorem equip_new (h : b.store = some (.tables d)) (hclock : b.stamp = .ok time) :
    ∃ b', equip true b = (.ok (), b') ∧ b'.store = some (.tables d.prepared) := by
  rw [equip, if_pos rfl]
  obtain ⟨b₁, hfirst, hstore₁, hclock₁⟩ := exists_logText hclock
    ("Database file not found at " ++ storeFile ++ ". Creating a new one.")
  obtain ⟨b₂, hsecond, hstore₂, hclock₂⟩ := exists_logText hclock₁
    "Initializing new database schema."
  have hstore : b₂.store = some (.tables d) := hstore₂.trans (hstore₁.trans h)
  have hprepare : prepare b₁ = (.ok (), b₂.holding d.prepared) := by
    rw [prepare, Step.bind_of_ok hsecond, Step.bind_of_ok (opened_apply hstore), keep_apply]
  obtain ⟨b₃, hthird, hstore₃, -⟩ := exists_logText (b := b₂.holding d.prepared) hclock₂
    "Database created and initialized successfully."
  rw [Step.bind_of_ok hfirst, Step.bind_of_ok hprepare]
  exact ⟨b₃, hthird, hstore₃⟩

theorem migrate_of_none (h : b.store = some (.tables d)) (hprompts : d.prompts = none)
    (hclock : b.stamp = .ok time) :
    ∃ b', migrate b = (.error (.store (.noTable "prompts")), b') ∧ b'.store = b.store ∧
      b'.stamp = .ok time := by
  obtain ⟨b₁, hlog, hstore, hclock₁⟩ := exists_logText hclock
    "Migrating database: Adding 'order_id' to prompts table."
  have hneeds : d.needsMigration = true := by rw [Database.needsMigration, hprompts]; rfl
  have hmigrate : check d.migrate b₁ = (.error (.store (.noTable "prompts")), b₁) := by
    rw [check_apply, Database.migrate, Database.promptRows, hprompts]
    rfl
  refine ⟨b₁, ?_, hstore, hclock₁⟩
  rw [migrate, Step.bind_of_ok (opened_apply h), if_pos hneeds, Step.bind_of_ok hlog,
    Step.bind_of_error hmigrate]

theorem migrate_of_ok {d' : Database} (h : b.store = some (.tables d)) (hclock : b.stamp = .ok time)
    (hmigrate : d.migrate = .ok d') :
    ∃ b', migrate b = (.ok (), b') ∧ b'.store = some (.tables d') := by
  rw [migrate, Step.bind_of_ok (opened_apply h)]
  obtain ⟨settings, _ | rows, placed⟩ := d
  · cases hmigrate
  cases placed with
  | true =>
    cases hmigrate
    exact ⟨b, rfl, h⟩
  | false =>
    obtain ⟨b₁, hfirst, -, hclock₁⟩ := exists_logText hclock
      "Migrating database: Adding 'order_id' to prompts table."
    have hchecked : check (Database.migrate ⟨settings, some rows, false⟩) b₁ = (.ok d', b₁) := by
      rw [check_apply, hmigrate, mapError_ok]
    obtain ⟨b₂, hlast, hstore₂, -⟩ := exists_logText (b := b₁.holding d') hclock₁
      "Database migration complete."
    refine ⟨b₂, ?_, hstore₂⟩
    rw [if_pos (by rfl), Step.bind_of_ok hfirst, Step.bind_of_ok hchecked,
      Step.bind_of_ok (keep_apply _ b₁), hlast]

theorem migrate_of_some {settings : Option (List Setting)} {rows : List Prompt} {placed : Bool}
    (h : b.store = some (.tables ⟨settings, some rows, placed⟩)) (hclock : b.stamp = .ok time) :
    ∃ rows' b', migrate b = (.ok (), b') ∧
      b'.store = some (.tables ⟨settings, some rows', true⟩) ∧
      rows'.map Prompt.pair = rows.map Prompt.pair := by
  obtain ⟨rows', hrows, hpairs⟩ := Database.exists_migrate_eq settings rows placed
  obtain ⟨b', hmigrate, hstore⟩ := migrate_of_ok h hclock hrows
  exact ⟨rows', b', hmigrate, hstore, hpairs⟩

theorem ensure_of_no_prompts (hopen : opening b = (.ok d, b₁)) (hnew : isNew b = false)
    (hprompts : d.prompts = none) (hclock : b.stamp = .ok time) :
    ∃ b', ensure b = (.error (.store (.noTable "prompts")), b') ∧ b'.store = some (.tables d) := by
  obtain ⟨-, hstore, hstamp⟩ := opening_inv hopen
  obtain ⟨b₂, hmigrate, hstore₂, hclock₂⟩ := migrate_of_none hstore hprompts (hstamp.trans hclock)
  have hequip : equip (isNew b) b₁ = migrate b₁ := by rw [hnew]; rfl
  obtain ⟨b', hensure, hstore'⟩ := ensure_of_equip_error hopen (hequip.trans hmigrate) hclock₂
  exact ⟨b', hensure, hstore'.trans (hstore₂.trans hstore)⟩

theorem ensure_of_prompts {settings : Option (List Setting)} {rows : List Prompt} {placed : Bool}
    (hopen : opening b = (.ok ⟨settings, some rows, placed⟩, b₁)) (hnew : isNew b = false)
    (hclock : b.stamp = .ok time) :
    ∃ rows' b', ensure b = (.ok (), b') ∧ b'.store = some (.tables ⟨settings, some rows', true⟩) ∧
      rows'.map Prompt.pair = rows.map Prompt.pair := by
  obtain ⟨-, hstore, hstamp⟩ := opening_inv hopen
  obtain ⟨rows', b', hmigrate, hstore', hpairs⟩ := migrate_of_some hstore (hstamp.trans hclock)
  have hequip : equip (isNew b) b₁ = migrate b₁ := by rw [hnew]; rfl
  exact ⟨rows', b', ensure_of_equip_ok hopen (hequip.trans hmigrate), hstore', hpairs⟩

theorem ensure_of_new (hopen : opening b = (.ok d, b₁)) (hnew : isNew b = true)
    (hclock : b.stamp = .ok time) :
    ∃ b', ensure b = (.ok (), b') ∧ b'.store = some (.tables d.prepared) := by
  obtain ⟨-, hstore, hstamp⟩ := opening_inv hopen
  obtain ⟨b', hequip, hstore'⟩ := equip_new hstore (hstamp.trans hclock)
  exact ⟨b', ensure_of_equip_ok hopen (hnew ▸ hequip), hstore'⟩

/-- The store can be used: both tables are there, with places, and with all that was in the file. -/
def Usable (d : Database) (file : Option StoreFile) : Prop :=
  ∃ settings prompts, file = some (.tables ⟨some settings, some prompts, true⟩) ∧
    (d.settings.getD []).Sublist settings ∧
    ((d.prompts.getD []).map Prompt.pair).Sublist (prompts.map Prompt.pair)

/-- The start makes a store that can be used of a file that can be opened, exactly if there was no
file or it had both tables. -/
theorem start_usable_iff (hopen : opening b = (.ok d, b₁)) (hclock : b.stamp = .ok time) :
    (ensure b).1 = .ok () ∧ Usable d (ensure b).2.store ↔
      b.store = none ∧ b.files.has storeFile = false ∨ d.settings.isSome ∧ d.prompts.isSome := by
  cases hnew : isNew b with
  | true =>
    obtain ⟨hnone, hfree⟩ : b.store = none ∧ b.files.has storeFile = false := by
      simpa [isNew] using hnew
    -- The file that was not there held nothing that the new tables could lack.
    obtain rfl : { placed := false } = d := by
      have hheld := (opening_inv hopen).1
      rw [Bench.held, hnone] at hheld
      exact StoreFile.tables.inj hheld
    obtain ⟨b', hensure, hstore⟩ := ensure_of_new hopen hnew hclock
    rw [hensure]
    refine iff_of_true ⟨rfl, _, _, hstore, ?_, ?_⟩ (.inl ⟨hnone, hfree⟩) <;>
      exact List.nil_sublist _
  | false =>
    have hthere : ¬(b.store = none ∧ b.files.has storeFile = false) := by
      rintro ⟨hnone, hfree⟩
      simp [isNew, hnone, hfree] at hnew
    obtain ⟨settings, _ | rows, placed⟩ := d
    · obtain ⟨b', hensure, -⟩ := ensure_of_no_prompts hopen hnew rfl hclock
      simp [hensure, hthere]
    · obtain ⟨rows', b', hensure, hstore, hpairs⟩ := ensure_of_prompts hopen hnew hclock
      rw [hensure]
      cases settings with
      | none => simp [Usable, hstore, hthere]
      | some settings =>
        refine iff_of_true ⟨rfl, settings, rows', hstore, List.Sublist.refl _, ?_⟩ (.inr ⟨rfl, rfl⟩)
        exact hpairs ▸ List.Sublist.refl _

theorem opening_apply (hfolders : (b.files.makeFolders storageFolder true).2 = none)
    (h : b.store = some (.tables d)) :
    opening b = (.ok d, { b with files := (b.files.makeFolders storageFolder true).1 }) := by
  have hmade : makeFolders storageFolder true b =
      (.ok (), { b with files := (b.files.makeFolders storageFolder true).1 }) := by
    rw [makeFolders, Step.get_bind]
    simp only [Step.bind_of_ok (Step.set_apply b _), hfolders]
    rfl
  rw [opening, Step.bind_of_ok hmade, opened_apply (by exact h)]

theorem makeFolders_default :
    ((default : Bench).files.makeFolders storageFolder true).2 = none := by decide +kernel

/-- A workbench with the file of an older store, in which two prompts have no title. -/
def olderBench : Bench :=
  { (default : Bench) with store := some (.tables ⟨some [⟨.text "language", .text "zh"⟩],
      some [⟨.text "b", .text "first", .null⟩, ⟨.null, .text "untitled", .null⟩,
        ⟨.text "a", .null, .null⟩, ⟨.null, .null, .null⟩], false⟩) }

theorem start_usable_iff_older :
    ∃ d b₁, opening olderBench = (.ok d, b₁) ∧ olderBench.stamp = .ok "00:00:00" ∧
      d.placed = false ∧ (ensure olderBench).1 = .ok () ∧ Usable d (ensure olderBench).2.store := by
  have hopen := opening_apply (b := olderBench) makeFolders_default rfl
  exact ⟨_, _, hopen, rfl, rfl, (start_usable_iff hopen rfl).mpr (.inr ⟨rfl, rfl⟩)⟩

/-- A workbench whose store's file has no tables. -/
def bareBench : Bench := { (default : Bench) with store := some (.tables { placed := false }) }

/-- A file without tables can be opened, but the start refuses it and makes no tables. -/
theorem start_refuses_bare :
    ∃ b₁ b', opening bareBench = (.ok { placed := false }, b₁) ∧
      ensure bareBench = (.error (.store (.noTable "prompts")), b') ∧
      b'.store = bareBench.store := by
  have hopen := opening_apply (b := bareBench) makeFolders_default rfl
  have hclock : bareBench.stamp = .ok "00:00:00" := rfl
  obtain ⟨b', hensure, hstore⟩ := ensure_of_no_prompts hopen rfl rfl hclock
  exact ⟨_, b', hopen, hensure, hstore⟩

end Store

end PromptStudio

import Mathlib.Data.List.Dedup
import Mathlib.Data.List.DropRight
import PromptStudio.Browser.Home
import PromptStudio.Proofs.Bench.Steady

/-!
# Selected reference images

A click adds the marked image at the end of the selected ones or takes it away, and an image too
many pushes out the first. So what is selected depends on the whole run of clicks. It is told from
the changes that the clicks made: a replay of them gives the same list, and whether a path is still in
it is read off the changes since the path was inserted.
-/

theorem PromptStudio.Value.same_text (s t : String) :
    (Value.text s).same (.text t) = decide (s = t) := rfl

namespace PromptStudio.Browser.Home

/-! ### Changes and their replay -/

/-- A change of the selected paths. -/
inductive Change where
  | inserted (path : String)
  | removed (path : String)
deriving DecidableEq, Repr

namespace Change

variable {paths before front back : List String} {path : String} {changes : List Change}

/-- The selected paths after a change. -/
def apply (paths : List String) : Change → List String
  | inserted path => (paths ++ [path]).rtake maxSelected
  | removed path => paths.filter (· ≠ path)

/-- The path that a change inserts, if any. -/
def inserted? : Change → Option String
  | inserted path => some path
  | removed _ => none

/-- Whether a change inserts another path than this one. -/
def insertsOther (path : String) : Change → Bool
  | inserted other => other ≠ path
  | removed _ => false

/-- A path that is inserted is not selected, and one that is removed is. -/
def Fits (paths : List String) : Change → Prop
  | inserted path => path ∉ paths
  | removed path => path ∈ paths

/-- The selected paths after changes, one after another. -/
def replay (paths : List String) (changes : List Change) : List String := changes.foldl apply paths

/-- Each of the changes fits the paths that it is made on. -/
def AllFit : List String → List Change → Prop
  | _, [] => True
  | paths, change :: rest => change.Fits paths ∧ AllFit (apply paths change) rest

theorem replay_cons (paths : List String) (change : Change) (rest : List Change) :
    replay paths (change :: rest) = replay (apply paths change) rest := rfl

theorem replay_append (paths : List String) (early late : List Change) :
    replay paths (early ++ late) = replay (replay paths early) late := List.foldl_append

theorem allFit_append {early late : List Change} :
    AllFit paths (early ++ late) ↔ AllFit paths early ∧ AllFit (replay paths early) late := by
  induction early generalizing paths with
  | nil => exact (and_iff_right trivial).symm
  | cons change rest ih => rw [List.cons_append, AllFit, AllFit, ih, and_assoc, replay_cons]

theorem length_replay_le (h : paths.length ≤ maxSelected) (changes : List Change) :
    (replay paths changes).length ≤ maxSelected := by
  induction changes generalizing paths with
  | nil => exact h
  | cons change rest ih =>
    apply ih
    cases change with
    | inserted path =>
      rw [apply, List.rtake, List.length_drop]
      omega
    | removed path => exact (List.length_filter_le _ _).trans h

/-- Of several occurrences `dedup` keeps the last, so that a new end stays the end. -/
theorem concat_sublist_dedup (h : paths.Sublist before.dedup) (hnew : path ∉ paths) :
    (paths ++ [path]).Sublist (before ++ [path]).dedup := by
  induction before generalizing paths with
  | nil =>
    obtain rfl := List.sublist_nil.mp h
    exact .refl _
  | cons first rest ih =>
    by_cases hfirst : first ∈ rest
    · rw [List.dedup_cons_of_mem hfirst] at h
      rw [List.cons_append, List.dedup_cons_of_mem (List.mem_append_left _ hfirst)]
      exact ih h hnew
    · rw [List.dedup_cons_of_notMem hfirst] at h
      cases h with
      | cons _ h =>
        refine (ih h hnew).trans ?_
        rw [List.cons_append, List.dedup_cons]
        split
        · exact .refl _
        · exact List.sublist_cons_self _ _
      | cons_cons _ h =>
        obtain ⟨hne, hnew⟩ := not_or.mp (mt List.mem_cons.mpr hnew)
        have hnotMem : first ∉ rest ++ [path] := by simp [hfirst, Ne.symm hne]
        rw [List.cons_append, List.cons_append, List.dedup_cons_of_notMem hnotMem]
        exact (ih h hnew).cons_cons _

/-- The selected paths are in the order in which they were last inserted. -/
theorem replay_sublist_dedup (h : paths.Sublist before.dedup) (hfit : AllFit paths changes) :
    (replay paths changes).Sublist (before ++ changes.filterMap inserted?).dedup := by
  induction changes generalizing paths before with
  | nil => rwa [List.filterMap_nil, List.append_nil]
  | cons change rest ih =>
    obtain ⟨hchange, hrest⟩ := hfit
    rw [replay_cons]
    cases change with
    | inserted path =>
      have hlast : (apply paths (inserted path)).Sublist (before ++ [path]).dedup :=
        (List.drop_sublist _ _).trans (concat_sublist_dedup h hchange)
      simpa [inserted?] using ih hlast hrest
    | removed path => exact ih (List.filter_sublist.trans h) hrest

/-- Inserting one more path pushes out a path with `back` behind it only if the list is full from
that path on. -/
theorem apply_inserted_cases (front back : List String) (path other : String) :
    (∃ front', apply (front ++ path :: back) (inserted other) =
        front' ++ path :: (back ++ [other])) ∨ maxSelected ≤ back.length + 1 := by
  have hassoc : front ++ path :: back ++ [other] = front ++ path :: (back ++ [other]) := by simp
  rw [apply, List.rtake, hassoc]
  generalize hexcess : (front ++ path :: (back ++ [other])).length - maxSelected = excess
  simp only [List.length_append, List.length_cons, List.length_nil] at hexcess
  by_cases hkept : excess ≤ front.length
  · exact .inl ⟨front.drop excess, List.drop_append_of_le_length hkept⟩
  · exact .inr (by omega)

/-- A selected path with `back` behind it that gets lost was removed, or pushed out by the paths
behind it and those inserted since. -/
theorem removed_or_pushed_out (hfit : AllFit (front ++ path :: back) changes)
    (hlost : path ∉ replay (front ++ path :: back) changes) :
    removed path ∈ changes ∨ maxSelected ≤ back.length + changes.countP (insertsOther path) := by
  -- What stands behind the path grows with an insertion only, and that one is counted.
  induction changes generalizing front back with
  | nil => exact absurd (List.mem_append_right _ List.mem_cons_self) hlost
  | cons change rest ih =>
    obtain ⟨hchange, hrest⟩ := hfit
    rw [replay_cons] at hlost
    cases change with
    | inserted other =>
      have hother : insertsOther path (inserted other) = true :=
        decide_eq_true fun h => hchange (h ▸ List.mem_append_right _ List.mem_cons_self)
      rw [List.countP_cons_of_pos hother]
      obtain ⟨front', happly⟩ | hfull := apply_inserted_cases front back path other
      · rw [happly] at hrest hlost
        have hlater := ih hrest hlost
        rw [List.length_append, List.length_singleton] at hlater
        exact hlater.imp (List.mem_cons_of_mem _) (by omega)
      · exact .inr (by omega)
    | removed other =>
      by_cases hother : other = path
      · exact .inl (hother ▸ List.mem_cons_self)
      · have happly : apply (front ++ path :: back) (removed other) =
            front.filter (· ≠ other) ++ path :: back.filter (· ≠ other) := by
          simp [apply, Ne.symm hother]
        rw [happly] at hrest hlost
        have hlater := ih hrest hlost
        have hshorter := List.length_filter_le (· ≠ other) back
        rw [List.countP_cons_of_neg (by simp [insertsOther])]
        exact hlater.imp (List.mem_cons_of_mem _) (by omega)

/-- Inserting puts a path at the end. -/
theorem exists_apply_inserted (paths : List String) (path : String) :
    ∃ front, apply paths (inserted path) = front ++ [path] := by
  refine ⟨paths.rtake (maxSelected - 1), ?_⟩
  exact List.rtake_concat_succ _ _ _

/-- A path that was inserted and is not selected any more was removed since, or as many others as
can be selected were inserted since. -/
theorem lost_since {early late : List Change} (hfit : AllFit paths (early ++ inserted path :: late))
    (hlost : path ∉ replay paths (early ++ inserted path :: late)) :
    removed path ∈ late ∨ maxSelected ≤ late.countP (insertsOther path) := by
  have hlate := (allFit_append.mp hfit).2.2
  rw [replay_append, replay_cons] at hlost
  -- Nothing stands behind a path that was just inserted.
  obtain ⟨front, hfront⟩ := exists_apply_inserted (replay paths early) path
  rw [hfront] at hlate hlost
  simpa using removed_or_pushed_out hlate hlost

end Change

/-! ### What a click does -/

/-- A click on one of the two buttons, with the path that is marked then, if any. -/
inductive Click where
  | add (mark : Option String)
  | remove (mark : Option String)
deriving DecidableEq, Repr

/-- Paths as a list of values. -/
def pathValues (paths : List String) : Value := .list (paths.map .text)

namespace Change

/-- What the log is told of a change: the key of a text and its arguments. -/
def notice (paths : List String) : Change → String × List (String × Value)
  | inserted path => ("logic_log_selectImage", [("name", .text (Path.baseName path))])
  | removed path => ("logic_log_removeImage", [("name", .text (Path.baseName path)),
      ("count", .int (apply paths (removed path)).length)])

/-- Tells the log of a change and gives the paths after it. -/
def make (change : Change) (paths : List String) : BenchStep Value := do
  logValue (← Texts.sayWith (change.notice paths).1 (change.notice paths).2)
  pure (pathValues (change.apply paths))

end Change

namespace Click

/-- The marked path, the empty one if nothing is marked. -/
def path : Click → String
  | add mark | remove mark => mark.getD ""

/-- What a click does with the selected images. -/
def step : Click → Value → BenchStep Value
  | add mark => addMarked (mark.elim .null .text)
  | remove mark => removeMarked (mark.elim .null .text)

/-- The change that a click asks for, if any: no path is inserted twice, none is removed that is not
there, and the empty one is neither. -/
def change? : Click → List String → Option Change
  | add (some path), paths => if path ≠ "" ∧ path ∉ paths then some (.inserted path) else none
  | remove (some path), paths => if path ≠ "" ∧ path ∈ paths then some (.removed path) else none
  | _, _ => none

end Click

section

variable {paths : List String} {path : String} {c : Click} {change : Change}

theorem any_same_text (paths : List String) (path : String) :
    (paths.map Value.text).any (Value.text path).same = decide (path ∈ paths) := by
  induction paths with
  | nil => rfl
  | cons first rest ih =>
    rw [List.map_cons, List.any_cons, Value.same_text, ih]
    simp only [List.mem_cons, Bool.decide_or]

theorem hasItem_pathValues (paths : List String) (path : String) :
    ((pathValues paths).hasItem (.text path)).mapError Fault.value =
      .ok (decide (path ∈ paths)) := by
  rw [pathValues, Value.hasItem, any_same_text]
  rfl

theorem truthy_text (h : path ≠ "") : (Value.text path).truthy = true := by simp [Value.truthy, h]

/-- Without a path a click does nothing, whatever is selected. -/
theorem Click.step_of_blank (h : c.path = "") (v : Value) : c.step v = pure v := by
  obtain (_ | path) | (_ | path) := c
  case add.none | remove.none => rfl
  case add.some | remove.some =>
    obtain rfl : path = "" := h
    rfl

theorem addMarked_text (path : String) (paths : List String) :
    addMarked (.text path) (pathValues paths) =
      if path ≠ "" ∧ path ∉ paths then (Change.inserted path).make paths
      else pure (pathValues paths) := by
  by_cases hpath : path = ""
  · rw [if_neg fun h => h.1 hpath]
    exact Click.step_of_blank (c := .add (some path)) hpath _
  unfold addMarked
  rw [truthy_text hpath, hasItem_pathValues]
  by_cases h : path ∈ paths
  · have hold : ¬(path ≠ "" ∧ path ∉ paths) := fun hnew => hnew.2 h
    rw [if_neg hold, decide_eq_true h]
    rfl
  · have happly : withSelected (paths.map .text) (.text path) =
        (Change.apply paths (.inserted path)).map .text := by
      rw [withSelected, any_same_text, decide_eq_false h]
      simp [Change.apply, List.rtake]
    have hnew : path ≠ "" ∧ path ∉ paths := ⟨hpath, h⟩
    rw [if_pos hnew, decide_eq_false h, Change.make, pathValues, pathValues, ← happly]
    rfl

theorem removeMarked_text (path : String) (paths : List String) :
    removeMarked (.text path) (pathValues paths) =
      if path ≠ "" ∧ path ∈ paths then (Change.removed path).make paths
      else pure (pathValues paths) := by
  by_cases hpath : path = ""
  · rw [if_neg fun h => h.1 hpath]
    exact Click.step_of_blank (c := .remove (some path)) hpath _
  unfold removeMarked
  rw [truthy_text hpath, hasItem_pathValues]
  by_cases h : path ∈ paths
  · have hfilter : (paths.map Value.text).filter (fun item => !item.same (.text path)) =
        (Change.apply paths (.removed path)).map .text := by
      simp [List.filter_map, Change.apply, Function.comp_def, Value.same_text]
    have hlength := congrArg List.length hfilter
    rw [List.length_map] at hlength
    have hold : path ≠ "" ∧ path ∈ paths := ⟨hpath, h⟩
    rw [if_pos hold, decide_eq_true h, Change.make, Change.notice, pathValues, pathValues,
      ← hfilter, ← hlength]
    rfl
  · have hnew : ¬(path ≠ "" ∧ path ∈ paths) := fun hold => h hold.2
    rw [if_neg hnew, decide_eq_false h]
    rfl

/-- A click makes the change that it asks for, and does nothing if it asks for none. -/
theorem Click.step_pathValues (c : Click) (paths : List String) :
    c.step (pathValues paths) =
      (c.change? paths).elim (pure (pathValues paths)) (·.make paths) := by
  obtain (_ | path) | (_ | path) := c
  case add.none | remove.none => rfl
  case add.some =>
    rw [step, Option.elim_some, addMarked_text, change?]
    split <;> rfl
  case remove.some =>
    rw [step, Option.elim_some, removeMarked_text, change?]
    split <;> rfl

theorem Click.fits_of_change? (h : c.change? paths = some change) : change.Fits paths := by
  obtain (_ | path) | (_ | path) := c
  case add.none | remove.none => cases h
  case add.some | remove.some =>
    obtain ⟨⟨-, hpath⟩, hchange⟩ := Option.ite_none_right_eq_some.mp h
    exact Option.some.inj hchange ▸ hpath

/-- A change is made, or the log could not be told of it. -/
theorem Change.make_apply_cases (change : Change) (paths : List String) (b : Bench) :
    (∃ b', change.make paths b = (.ok (pathValues (change.apply paths)), b')) ∨
      ∃ fault b', change.make paths b = (.error fault, b') := by
  cases hmake : change.make paths b with
  | mk r b' =>
    cases r with
    | error fault => exact .inr ⟨fault, b', rfl⟩
    | ok v =>
      obtain ⟨_, _, -, hlog⟩ := Step.bind_eq_ok hmake
      obtain ⟨_, _, -, hpure⟩ := Step.bind_eq_ok hlog
      cases hpure
      exact .inl ⟨b', rfl⟩

end

/-! ### What the log is told -/

section

variable (lang : Language)

/-- In a shipped language every change is made. -/
theorem Change.gives_make (change : Change) (paths : List String) :
    lang.Gives (change.make paths) (.ok (pathValues (change.apply paths))) := by
  intro b hb
  have hnotice : ((change.notice paths).1, (change.notice paths).2.map Prod.fst) ∈
      Language.logTemplates := by
    cases change <;> simp [notice, Language.logTemplates]
  obtain ⟨b', hquiet, hb'⟩ := Language.log_bind_apply _ _ hnotice hb
    fun _ => pure (pathValues (change.apply paths))
  exact ⟨b', hb', hquiet⟩

theorem Click.exists_gives_step (c : Click) (paths : List String) :
    ∃ v, lang.Gives (c.step (pathValues paths)) (.ok v) := by
  rw [c.step_pathValues]
  cases c.change? paths with
  | none => exact ⟨_, Language.gives_pure _⟩
  | some change => exact ⟨_, change.gives_make lang paths⟩

end

/-! ### Runs of clicks -/

/-- The page as far as the selected images go: the workbench, and what is selected. -/
structure Selection where
  bench : Bench
  selected : Value := .list []

namespace Selection

/-- The selected paths. -/
def paths (s : Selection) : List String :=
  match s.selected with
  | .list items => items.filterMap fun
    | .text path => some path
    | _ => none
  | _ => []

/-- Whether a click gives a result, and no fault. -/
def answers (s : Selection) (c : Click) : Bool := (c.step s.selected s.bench).1.isOk

/-- The page after a click: its result is selected, and after a fault the same as before. -/
def click (s : Selection) (c : Click) : Selection :=
  let (answer, bench) := c.step s.selected s.bench
  { bench, selected := answer.toOption.getD s.selected }

/-- The page after clicks, one after another. -/
def run (s : Selection) (clicks : List Click) : Selection := clicks.foldl click s

/-- The change that a click makes, if any. -/
def change? (s : Selection) (c : Click) : Option Change :=
  if s.answers c then c.change? s.paths else none

/-- The changes that clicks make, in order. -/
def changes (s : Selection) : List Click → List Change
  | [] => []
  | c :: rest => (s.change? c).toList ++ (s.click c).changes rest

variable {s : Selection} {paths : List String} {c : Click}

theorem paths_eq (h : s.selected = pathValues paths) : s.paths = paths := by
  rw [Selection.paths, h, pathValues]
  simp [List.filterMap_map]

theorem answers_eq {r : Except Fault Value} {b : Bench} (h : c.step s.selected s.bench = (r, b)) :
    s.answers c = r.isOk := by rw [answers, h]

theorem click_eq {r : Except Fault Value} {b : Bench} (h : c.step s.selected s.bench = (r, b)) :
    s.click c = ⟨b, r.toOption.getD s.selected⟩ := by rw [click, h]

/-- What is selected after a click is what its change makes of it. -/
theorem click_selected (h : s.selected = pathValues paths) (c : Click) :
    (s.click c).selected = pathValues (Change.replay paths (s.change? c).toList) ∧
      Change.AllFit paths (s.change? c).toList := by
  have hstep := congrFun (c.step_pathValues paths) s.bench
  rw [← h] at hstep
  rw [change?, paths_eq h]
  cases hchange : c.change? paths with
  | none =>
    rw [hchange] at hstep
    rw [click_eq hstep, ite_self]
    exact ⟨h, trivial⟩
  | some change =>
    rw [hchange] at hstep
    obtain ⟨b', hmake⟩ | ⟨fault, b', hmake⟩ := change.make_apply_cases paths s.bench
    · have hdone := hstep.trans hmake
      rw [click_eq hdone, answers_eq hdone]
      exact ⟨rfl, Click.fits_of_change? hchange, trivial⟩
    · -- Without its line in the log the change is not made.
      have hfault := hstep.trans hmake
      rw [click_eq hfault, answers_eq hfault]
      exact ⟨h, trivial⟩

/-- What is selected after clicks is what a replay of their changes gives. -/
theorem run_selected (h : s.selected = pathValues paths) (clicks : List Click) :
    (s.run clicks).selected = pathValues (Change.replay paths (s.changes clicks)) ∧
      Change.AllFit paths (s.changes clicks) := by
  induction clicks generalizing s paths with
  | nil => exact ⟨h, trivial⟩
  | cons c rest ih =>
    obtain ⟨hclick, hfit⟩ := click_selected h c
    obtain ⟨hrun, hrest⟩ := ih hclick
    rw [changes, Change.replay_append, Change.allFit_append]
    exact ⟨hrun, hfit, hrest⟩

theorem click_of_blank (h : c.path = "") (s : Selection) : s.click c = s := by
  have hstep := congrFun (Click.step_of_blank h s.selected) s.bench
  exact click_eq hstep

/-- A path that was added by a click is selected after it. -/
theorem mem_paths_click {path : String} (h : s.selected = pathValues paths) (hpath : path ≠ "")
    (hanswer : s.answers (.add (some path)) = true) :
    path ∈ (s.click (.add (some path))).paths := by
  have hclick := (click_selected h (.add (some path))).1
  rw [paths_eq hclick, change?, if_pos hanswer, paths_eq h, Click.change?]
  by_cases hold : path ∈ paths
  · rwa [if_neg fun hnew => hnew.2 hold]
  · rw [if_pos ⟨hpath, hold⟩]
    obtain ⟨front, hfront⟩ := Change.exists_apply_inserted paths path
    change path ∈ Change.apply paths (.inserted path)
    rw [hfront]
    exact List.mem_append_right _ (List.mem_singleton_self _)

variable {lang : Language}

theorem ready_click (hb : lang.Ready s.bench) (h : s.selected = pathValues paths) (c : Click) :
    s.answers c = true ∧ lang.Ready (s.click c).bench := by
  obtain ⟨v, hv⟩ := c.exists_gives_step lang paths
  obtain ⟨b', hb', hquiet⟩ := hv s.bench hb
  rw [← h] at hb'
  rw [answers_eq hb', click_eq hb']
  exact ⟨rfl, hb.quiet hquiet⟩

theorem ready_run (hb : lang.Ready s.bench) (h : s.selected = pathValues paths)
    (clicks : List Click) : lang.Ready (s.run clicks).bench := by
  induction clicks generalizing s paths with
  | nil => exact hb
  | cons c rest ih => exact ih (ready_click hb h c).2 (click_selected h c).1

end Selection

/-- From an empty list on, whatever is clicked: at most five paths are selected, none of them twice,
and in the order in which they were last inserted, since `dedup` keeps the last of several
occurrences. A click without a path does nothing. A path that was just added is selected. One that was
inserted, for the last time or before, and is not selected any more was removed since, or five others
were inserted since. In a shipped language every click gives a result. -/
theorem selection_told_by_changes (b : Bench) (clicks : List Click) :
    let start : Selection := { bench := b }
    let s := start.run clicks
    s.selected = .list (s.paths.map .text) ∧ s.paths.length ≤ 5 ∧ s.paths.Nodup ∧
      s.paths.Sublist ((start.changes clicks).filterMap Change.inserted?).dedup ∧
      (∀ c : Click, c.path = "" → s.click c = s) ∧
      (∀ path, path ≠ "" → s.answers (.add (some path)) = true →
        path ∈ (s.click (.add (some path))).paths) ∧
      (∀ early late path, start.changes clicks = early ++ .inserted path :: late → path ∉ s.paths →
        .removed path ∈ late ∨ 5 ≤ late.countP (Change.insertsOther path)) ∧
      ∀ lang : Language, lang.Ready b → ∀ c, s.answers c = true := by
  intro start s
  have hstart : start.selected = pathValues [] := rfl
  obtain ⟨hselected, hfit⟩ := Selection.run_selected hstart clicks
  have hpaths : s.paths = Change.replay [] (start.changes clicks) := Selection.paths_eq hselected
  have hsublist := Change.replay_sublist_dedup (List.nil_sublist [].dedup) hfit
  rw [← hpaths] at hselected hsublist
  refine ⟨hselected, ?_, (List.nodup_dedup _).sublist hsublist, hsublist,
    fun c hc => Selection.click_of_blank hc s, fun path => Selection.mem_paths_click hselected,
    fun early late path hchanges hlost => ?_, fun lang hb c => ?_⟩
  · rw [hpaths]
    exact Change.length_replay_le (Nat.zero_le _) _
  · rw [hpaths, hchanges] at hlost
    exact Change.lost_since (hchanges ▸ hfit) hlost
  · exact (Selection.ready_click (Selection.ready_run hb hstart clicks) hselected c).1

/-- Five images, the first one once more, the second one taken away and put back, and then an image
too many. -/
def sixImages : List Click :=
  [.add (some "a.png"), .add (some "b.png"), .add (some "c.png"), .add (some "d.png"),
    .add (some "e.png"), .add (some "a.png"), .add none, .remove (some "b.png"),
    .add (some "b.png"), .add (some "f.png")]

/-- The first image is pushed out, since the click that added it once more inserted nothing. Another
image is selected after the click that adds it. -/
theorem selection_told_by_changes_sixImages :
    let start : Selection := { bench := Language.english.bench }
    let s := start.run sixImages
    ∃ late, start.changes sixImages = .inserted "a.png" :: late ∧ "a.png" ∉ s.paths ∧
      (.removed "a.png" ∈ late ∨ 5 ≤ late.countP (Change.insertsOther "a.png")) ∧
      "g.png" ∈ (s.click (.add (some "g.png"))).paths := by
  have hrun : Selection.changes { bench := Language.english.bench } sixImages =
        [.inserted "a.png", .inserted "b.png", .inserted "c.png", .inserted "d.png",
          .inserted "e.png", .removed "b.png", .inserted "b.png", .inserted "f.png"] ∧
      "a.png" ∉ (Selection.run { bench := Language.english.bench } sixImages).paths := by
    decide +kernel
  obtain ⟨hchanges, hlost⟩ := hrun
  obtain ⟨-, -, -, -, -, hadded, hsince, hanswers⟩ :=
    selection_told_by_changes Language.english.bench sixImages
  have hanswer := hanswers .english (Language.ready_bench _) (.add (some "g.png"))
  exact ⟨_, hchanges, hlost, hsince [] _ _ hchanges hlost, hadded "g.png" (by decide) hanswer⟩

end PromptStudio.Browser.Home

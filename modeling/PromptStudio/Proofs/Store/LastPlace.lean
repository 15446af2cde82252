import Mathlib.Data.List.Induction
import PromptStudio.Proofs.Number.Rounding
import PromptStudio.Proofs.Store.CellOrder
import PromptStudio.Proofs.Store.Restore

/-!
# A place for the next prompt

A new prompt is saved at one more than the greatest place. In a store that was restored from a
backup, places are whatever the backup said: none, whole numbers of 64 bits, reals or texts. Behind
a number there is a next place, unless it is the last whole number. A text stands behind all numbers
and has no next place, but for the empty text, which counts as zero. So a prompt can be saved as the
last one exactly if there is room for it in this sense.
-/

namespace PromptStudio

/-! ### Numbers that the store reads -/

namespace Binary

theorem InFormat.mul {x : Binary} (h : x.InFormat) (s : Bool) {m : ℕ} (hm : m ≠ 0) (e : Int) :
    (x * finite s m e).InFormat := by
  cases x with
  | nan => exact h
  | infinite s' =>
    change (if m = 0 then nan else infinite (s' != s)).InFormat
    rw [if_neg hm]
    trivial
  | finite s' m' e' => exact inFormat_ofScaled _ _ _

theorem InFormat.div {x : Binary} (h : x.InFormat) (s : Bool) (m : ℕ) (e : Int) :
    (x / finite s m e).InFormat := by
  cases x with
  | nan => exact h
  | infinite s' => trivial
  | finite s' m' e' =>
    change (if 0 ≤ e' - e then _ else _ : Binary).InFormat
    split <;> exact inFormat_ofQuotient _ _ _

theorem inFormat_toBinary (s : Bool) (x : Extended) : (x.toBinary s).InFormat := by
  rw [Extended.toBinary]
  split <;> exact inFormat_ofQuotient _ _ _

end Binary

namespace Store.Real

theorem inFormat_significand (s : Bool) (x : Significand) : (x.toBinary s).InFormat := by
  have hfar : Binary.ofDecimal false 1 308 = .finite false 5010420900022432 971 := by decide +kernel
  simp only [Significand.toBinary, hfar]
  split
  · exact Binary.inFormat_zero s
  split
  · exact Binary.inFormat_ofQuotient s _ _
  split
  · exact Binary.inFormat_toBinary s _
  split
  · split
    · exact (Binary.inFormat_toBinary s _).div _ _ _
    · exact (Binary.inFormat_toBinary s _).mul _ (by decide) _
  split
  · exact Binary.inFormat_zero s
  · trivial

end Store.Real

/-! ### What a column of places holds -/

namespace Cell

variable {c : Cell} {x : Binary}

/-- What the store can hold: whole numbers have 64 bits and reals are numbers of the format. -/
def Storable : Cell → Prop
  | int n => inRange n = true
  | real x => x.InFormat
  | null | text _ => True

theorem Storable.ne_nan (h : c.Storable) : c ≠ real .nan := by
  rintro rfl
  exact h

theorem storable_ofReal (h : x.InFormat) : (ofReal x).Storable := by
  rw [ofReal]
  split
  · split
    · rename_i hn
      simp only [Storable, inRange, Bool.and_eq_true, decide_eq_true_eq]
      omega
    · exact h
  · exact h

theorem rank_ofReal (h : x.InFormat) : (ofReal x).rank = (real x).rank := by
  rw [ofReal]
  split
  · rename_i n hn
    split
    · rw [rank, rank, Binary.rank_eq_of_toInt? h hn]
    · rfl
  · rfl

theorem storable_asNumber (h : c.Storable) : c.asNumber.Storable := by
  cases c with
  | null => trivial
  | int n => exact h
  | real x => exact storable_ofReal h
  | text s =>
    rw [asNumber, ofNumeral?]
    cases Store.Real.Numeral.parse? s with
    | none => trivial
    | some numeral =>
      have hreal : numeral.toBinary.InFormat := Store.Real.inFormat_significand _ _
      simp only [Option.map_some, Option.getD_some]
      split
      · split
        · assumption
        · exact storable_ofReal hreal
      · exact storable_ofReal hreal

theorem eq_of_rank_eq_odd (h : c.Storable) {n : Int} (hodd : n % 2 = 1) (hlarge : 2 ^ 53 ≤ n)
    (hrank : c.rank = (int n).rank) : c = int n := by
  cases c with
  | null => exact absurd hrank (WithBot.bot_lt_coe _).ne
  | int m =>
    have hvalue := Binary.rank_strictMono.injective (Rank.number_strictMono.injective hrank)
    rw [Int.cast_inj.mp hvalue]
  | real x =>
    exact absurd (Rank.number_strictMono.injective hrank) (Binary.rank_ne_odd h hodd hlarge)
  | text s => exact absurd hrank.symm (Rank.number_lt_text _ s).ne

theorem rank_lt_text (h : ∀ s, c ≠ text s) (s : String) : c.rank < (text s).rank := by
  cases c with
  | null => exact WithBot.bot_lt_coe _
  | int | real => exact Rank.number_lt_text _ s
  | text s' => exact absurd rfl (h s')

theorem eq_empty_of_rank_le {s : String} (h : (text s).rank ≤ (text "").rank) : s = "" := by
  have hle : s.toList ≤ [] := String.le_iff_toList_le.mp (Rank.text_strictMono.le_iff_le.mp h)
  cases hchars : s.toList with
  | nil => exact String.toList_eq_nil_iff.mp hchars
  | cons a l =>
    rw [hchars] at hle
    exact absurd (List.nil_lt_cons a l) (not_lt.mpr hle)

theorem rank_le_one_of_isZero (h : x.isZero = true) : (real x).rank ≤ (int 1).rank := by
  cases x with
  | nan | infinite => cases h
  | finite s m e =>
    obtain rfl : m = 0 := by
      cases m with
      | zero => rfl
      | succ m => cases h
    refine Rank.number_strictMono.monotone (Binary.rank_strictMono.monotone ?_)
    cases s <;> simp [Binary.fraction, Binary.signed]

end Cell

/-! ### Places in a backup -/

/-- A value of the data format that backups are written in. Its reals are numbers of the format, or
not numbers at all. -/
inductive Value.Json : Value → Prop
  | null : Json .null
  | bool (b : Bool) : Json (.bool b)
  | int (n : Int) : Json (.int n)
  | float {x : Binary} (h : x ≠ .nan → x.InFormat) : Json (.float x)
  | text (s : String) : Json (.text s)
  | list {items : List Value} (h : ∀ v ∈ items, Json v) : Json (.list items)
  | object {fields : List (String × Value)} (h : ∀ field ∈ fields, Json field.2) :
    Json (.object fields)

namespace Value.Json

variable {fields : List (String × Value)} {name : String} {v : Value}

theorem lookup (h : (Value.object fields).Json) (hv : Value.lookup name fields = some v) :
    v.Json := by
  cases h with
  | object h =>
    induction fields with
    | nil => cases hv
    | cons field fields ih =>
      obtain ⟨key, w⟩ := field
      rw [Value.lookup] at hv
      split at hv
      · cases hv
        exact h _ List.mem_cons_self
      · exact ih hv fun field hfield => h field (List.mem_cons_of_mem _ hfield)

theorem storable (h : v.Json) {c : Cell} (hbound : Cell.Bound v c) : c.Storable := by
  obtain ⟨position, hbound⟩ := hbound
  cases h with
  | null | text =>
    cases hbound
    trivial
  | bool b =>
    cases hbound
    change Cell.inRange _ = true
    cases b <;> decide +kernel
  | int n =>
    rw [Cell.ofValue] at hbound
    split at hbound
    · cases hbound
      assumption
    · cases hbound
  | float hx =>
    cases hbound
    split
    · trivial
    · exact hx ‹_›
  | list | object => cases hbound

end Value.Json

namespace Database

variable {fields : List (String × Value)} {settings : List Setting} {rows : List Prompt}

theorem json_of_lists (h : (Value.object fields).Json) {part : String} {items : List Value}
    (hitems : Value.Lists fields part items) : ∀ item ∈ items, item.Json := by
  cases hitems with
  | missing | emptyText | emptyObject => simp
  | list hpart =>
    cases h.lookup hpart with
    | list h => exact h
  | row hpart => cases h.lookup hpart

theorem Describes.storable (h : Describes fields settings rows)
    (hjson : (Value.object fields).Json) : ∀ row ∈ rows, row.place.Storable := by
  intro row hrow
  obtain ⟨items, hitems, hrows⟩ := h.promptItems
  obtain ⟨entry, hentry, fields', hobject, -, -, bound, hbound, hplace⟩ :=
    exists_of_mem_right hrows hrow
  have hitem : entry.1.Json := json_of_lists hjson hitems _ (List.fst_mem_of_mem_zipIdx hentry)
  have hvalue : ((Value.lookup "order_id" fields').getD (.int entry.2)).Json := by
    cases hfound : Value.lookup "order_id" fields' with
    | none => exact .int _
    | some v => exact (hobject ▸ hitem).lookup hfound
  rw [← hplace]
  exact Cell.storable_asNumber (hvalue.storable hbound)

/-! ### The greatest place -/

/-- A cell is the greatest of the places of prompts, null if they have none. -/
structure Greatest (greatest : Cell) (rows : List Prompt) : Prop where
  one : greatest = .null ∨ ∃ row ∈ rows, row.place = greatest
  all : ∀ row ∈ rows, row.place.rank ≤ greatest.rank

namespace Greatest

variable {greatest : Cell} {last : Prompt}

theorem concat_of_le (h : Greatest greatest rows) (hle : last.place.rank ≤ greatest.rank) :
    Greatest greatest (rows ++ [last]) := by
  constructor
  · rcases h.one with hnull | ⟨row, hrow, hplace⟩
    · exact .inl hnull
    · exact .inr ⟨row, List.mem_append_left _ hrow, hplace⟩
  · intro row hrow
    rcases List.mem_append.mp hrow with hrow | hrow
    · exact h.all row hrow
    · rw [List.mem_singleton.mp hrow]
      exact hle

theorem concat_of_ge (h : Greatest greatest rows) (hge : greatest.rank ≤ last.place.rank) :
    Greatest last.place (rows ++ [last]) := by
  constructor
  · exact .inr ⟨last, List.mem_append_right _ List.mem_cons_self, rfl⟩
  · intro row hrow
    rcases List.mem_append.mp hrow with hrow | hrow
    · exact (h.all row hrow).trans hge
    · rw [List.mem_singleton.mp hrow]

theorem storable (h : Greatest greatest rows) (hrows : ∀ row ∈ rows, row.place.Storable) :
    greatest.Storable := by
  rcases h.one with rfl | ⟨row, hrow, rfl⟩
  · trivial
  · exact hrows row hrow

end Greatest

theorem greatest_greatestPlace (h : ∀ row ∈ rows, row.place.Storable) :
    Greatest (greatestPlace rows) rows := by
  induction rows using List.reverseRecOn with
  | nil => exact ⟨.inl rfl, by simp⟩
  | append_singleton rows last ih =>
    have hrows : ∀ row ∈ rows, row.place.Storable := fun row hrow => h row (by simp [hrow])
    have hgreatest := ih hrows
    have hcompare := Cell.compare_eq_cmp (hgreatest.storable hrows).ne_nan (h last (by simp)).ne_nan
    rw [greatestPlace, List.foldl_append]
    change Greatest (if last.place = .null then greatestPlace rows
      else if greatestPlace rows = .null then last.place
      else if Cell.compare (greatestPlace rows) last.place = .lt then last.place
      else greatestPlace rows) _
    split
    · rename_i hnull
      refine hgreatest.concat_of_le ?_
      rw [hnull]
      exact bot_le
    split
    · rename_i hnull
      refine hgreatest.concat_of_ge ?_
      rw [hnull]
      exact bot_le
    split
    · rename_i hlt
      rw [hcompare, cmp_eq_lt_iff] at hlt
      exact hgreatest.concat_of_ge hlt.le
    · rename_i hge
      rw [hcompare, cmp_eq_lt_iff, not_lt] at hge
      exact hgreatest.concat_of_le hge

end Database

/-! ### Saving at the end -/

namespace Store

variable {b b' : Bench} {settings : List Setting} {rows : List Prompt} {t c : String}

/-- A prompt that is saved comes last exactly if no other prompt has a greater place. -/
theorem titles_replacePrompt_iff {place : Cell} (hrows : ∀ row ∈ rows, row.place.Storable)
    (hplace : place.asNumber.Storable) :
    (∃ before, (Database.inOrder (Database.replacePrompt rows (.text t) (.text c) place)).map
        Prompt.title = before ++ [.text t]) ↔
      ∀ row ∈ rows, row.title ≠ .text t → row.place.rank ≤ place.asNumber.rank := by
  let new : Prompt := ⟨.text t, .text c, place.asNumber⟩
  let others := rows.filter fun row => !row.title.collides (.text t)
  have hothers {row : Prompt} : row ∈ others ↔ row ∈ rows ∧ row.title ≠ .text t := by
    simp [others, ← Cell.collides_text_iff]
  have hsorted : Database.inOrder (Database.replacePrompt rows (.text t) (.text c) place) =
      sortOn (fun row => row.place.rank) (others ++ [new]) := by
    refine Database.inOrder_eq_sortOn fun row hrow => ?_
    rcases List.mem_append.mp hrow with hrow | hrow
    · exact (hrows row (hothers.mp hrow).1).ne_nan
    · rw [List.mem_singleton.mp hrow]
      exact hplace.ne_nan
  rw [hsorted]
  constructor
  · rintro ⟨before, hlast⟩ row hrow htitle
    obtain ⟨l, last, heq, -, hend⟩ := List.map_eq_append_iff.mp hlast
    obtain ⟨x, rfl, hx⟩ : ∃ x, last = [x] ∧ x.title = .text t := by
      simpa [List.map_eq_singleton_iff] using hend
    have hmem {y : Prompt} : y ∈ l ++ [x] ↔ y ∈ others ∨ y = new := by
      rw [← heq, mem_sortOn, List.mem_append, List.mem_singleton]
    -- Only the new prompt has its title, so it is the one that comes last.
    obtain rfl : x = new := by
      rcases hmem.mp (List.mem_append_right l List.mem_cons_self) with hx' | hx'
      · exact absurd hx (hothers.mp hx').2
      · exact hx'
    have hpairs := pairwise_sortOn (fun row => row.place.rank) (others ++ [new])
    rw [heq] at hpairs
    rcases List.mem_append.mp (hmem.mpr (.inl (hothers.mpr ⟨hrow, htitle⟩))) with hl | hl
    · exact (List.pairwise_append.mp hpairs).2.2 row hl new List.mem_cons_self
    · rw [List.mem_singleton.mp hl]
  · intro hall
    have hle : ∀ row ∈ others, row.place.rank ≤ new.place.rank := fun row hrow =>
      hall row (hothers.mp hrow).1 (hothers.mp hrow).2
    rw [sortOn_concat hle, List.map_append]
    exact ⟨_, rfl⟩

theorem json_nextPlace {greatest : Cell} {next : Value} (hgreatest : greatest.Storable)
    (hnext : nextPlace greatest = .ok next) : next.Json := by
  cases greatest with
  | null | int =>
    cases hnext
    exact .int _
  | real x =>
    cases hnext
    split
    · exact .int _
    · exact .float fun _ => Binary.inFormat_add_one hgreatest
  | text s =>
    rw [nextPlace] at hnext
    split at hnext <;> cases hnext
    exact .int _

/-- A prompt is saved and found: the answer says so, its content is there, and its title comes
last. -/
def SavedLast (t c : String) (b : Bench) : Prop :=
  ∃ b', savePrompt (.text t) (.text c) b = (.ok true, b') ∧
    content (.text t) b' = (.ok (.text c), b') ∧
    ∃ before, Store.titles b' = (.ok (before ++ [.text t]), b')

theorem content_replacePrompt (place : Cell)
    (h : b.store = some (.tables ⟨some settings,
      some (Database.replacePrompt rows (.text t) (.text c) place), true⟩)) :
    content (.text t) b = (.ok (.text c), b) := by
  have hfound : (Database.replacePrompt rows (.text t) (.text c) place).find?
      (fun row => row.title.collides (.text t)) = some ⟨.text t, .text c, place.asNumber⟩ := by
    have hothers : (rows.filter fun row => !row.title.collides (.text t)).find?
        (fun row => row.title.collides (.text t)) = none := by
      simp
    have hself : (Cell.text t).collides (.text t) = true := Cell.collides_text_iff.mpr rfl
    rw [Database.replacePrompt, List.find?_append, Cell.asText_text, hothers, Option.none_or,
      List.find?_cons_of_pos (by exact hself)]
    rfl
  rw [content_apply h rfl]
  simp only [Cell.ofValue, Cell.asText_text, hfound]
  rfl

theorem titles_last_iff (h : b.store = some (.tables ⟨some settings, some rows, true⟩)) :
    (∃ before, Store.titles b = (.ok (before ++ [.text t]), b)) ↔
      ∃ before, (Database.inOrder rows).map Prompt.title = before ++ [.text t] := by
  have htext {cell : Cell} (hcell : cell.toValue = .text t) : cell = .text t := by
    cases cell <;> cases hcell
    rfl
  rw [titles_apply h rfl]
  constructor
  · rintro ⟨before, hlast⟩
    obtain ⟨l, last, heq, -, hend⟩ :=
      List.map_eq_append_iff.mp (Except.ok.inj (Prod.mk.inj hlast).1)
    obtain ⟨cell, rfl, hcell⟩ := List.map_eq_singleton_iff.mp hend
    exact ⟨l, by rw [heq, htext hcell]⟩
  · rintro ⟨before, hlast⟩
    exact ⟨before.map Cell.toValue, by rw [hlast, List.map_append]; rfl⟩

/-- A prompt for which there is a next place comes last exactly if no other has a greater one. -/
theorem savedLast_iff (h : b.store = some (.tables ⟨some settings, some rows, true⟩))
    (hrows : ∀ row ∈ rows, row.place.Storable) (ht : t ≠ "") (hc : c ≠ "") {next : Value}
    {place : Cell} (hnext : nextPlace (Database.greatestPlace rows) = .ok next)
    (hplace : Cell.ofValue 3 next = .ok place) :
    SavedLast t c b ↔
      ∀ row ∈ rows, row.title ≠ .text t → row.place.rank ≤ place.asNumber.rank := by
  have hgreatest := (Database.greatest_greatestPlace hrows).storable hrows
  have hstorable : place.asNumber.Storable := Cell.storable_asNumber
    ((json_nextPlace hgreatest hnext).storable ⟨3, hplace⟩)
  let b' := b.holding ⟨some settings,
    some (Database.replacePrompt rows (.text t) (.text c) place), true⟩
  have hsave : savePrompt (.text t) (.text c) b = (.ok true, b') := by
    rw [savePrompt_apply h ht hc, hnext]
    simp only [hplace]
    rfl
  have htitles := (titles_last_iff (b := b') rfl).trans (titles_replacePrompt_iff hrows hstorable)
  constructor
  · rintro ⟨b'', hsave', -, hlast⟩
    cases hsave.symm.trans hsave'
    exact htitles.mp hlast
  · intro hall
    exact ⟨b', hsave, content_replacePrompt place rfl, htitles.mpr hall⟩

theorem not_savedLast {fault : Fault}
    (h : savePrompt (.text t) (.text c) b = (.error fault, b')) : ¬SavedLast t c b := by
  rintro ⟨b'', hsave, -⟩
  cases h.symm.trans hsave

/-- There is room for a prompt behind all others. No place is a text, but for the empty one. The
last whole number of 64 bits is not the greatest place. And if there is an empty text, which counts
as zero when the next place is made but comes behind all numbers, no other prompt has a place behind
one. -/
structure RoomFor (rows : List Prompt) (t : String) : Prop where
  texts : ∀ row ∈ rows, ∀ s, row.place = .text s → s = ""
  last : ∀ row ∈ rows, row.place = .int (2 ^ 63 - 1) →
    ∃ row' ∈ rows, Cell.compare row.place row'.place = .lt
  empty : (∃ row ∈ rows, row.place = .text "") →
    ∀ row ∈ rows, row.title ≠ .text t → row.place.le (.int 1) = true

section

variable {greatest : Cell} (hgreatest : Database.Greatest greatest rows)
  (hrows : ∀ row ∈ rows, row.place.Storable)
include hgreatest hrows

/-- If the greatest place is no text, there is room unless it is the last whole number. -/
theorem roomFor_iff_of_not_text (hnumber : ∀ s, greatest ≠ .text s) (t : String) :
    RoomFor rows t ↔ greatest ≠ .int (2 ^ 63 - 1) := by
  have hnone (row : Prompt) (hrow : row ∈ rows) (s : String) : row.place ≠ .text s := by
    intro hplace
    have hle := hgreatest.all row hrow
    rw [hplace] at hle
    exact absurd hle (not_le.mpr (Cell.rank_lt_text hnumber s))
  have hcompare {row row' : Prompt} (hrow : row ∈ rows) (hrow' : row' ∈ rows) :
      Cell.compare row.place row'.place = .lt ↔ row.place.rank < row'.place.rank := by
    rw [Cell.compare_eq_cmp (hrows row hrow).ne_nan (hrows row' hrow').ne_nan, cmp_eq_lt_iff]
  constructor
  · rintro hroom rfl
    obtain hnull | ⟨row, hrow, hplace⟩ := hgreatest.one
    · cases hnull
    · obtain ⟨row', hrow', hlt⟩ := hroom.last row hrow hplace
      rw [hcompare hrow hrow', hplace] at hlt
      exact absurd (hgreatest.all row' hrow') (not_le.mpr hlt)
  · intro hne
    refine ⟨fun row hrow s hplace => absurd hplace (hnone row hrow s), ?_, ?_⟩
    · intro row hrow hplace
      have hlt : row.place.rank < greatest.rank := by
        refine lt_of_le_of_ne (hgreatest.all row hrow) fun heq => hne ?_
        rw [hplace] at heq
        exact Cell.eq_of_rank_eq_odd (hgreatest.storable hrows) (by decide) (by decide) heq.symm
      obtain rfl | ⟨row', hrow', rfl⟩ := hgreatest.one
      · exact absurd hlt not_lt_bot
      · exact ⟨row', hrow', (hcompare hrow hrow').mpr hlt⟩
    · rintro ⟨row, hrow, hplace⟩
      exact absurd hplace (hnone row hrow "")

/-- If the greatest place is a text, there is room if it is empty and no other prompt has a place
behind one. -/
theorem roomFor_iff_of_text {s : String} (htext : greatest = .text s) (t : String) :
    RoomFor rows t ↔
      s = "" ∧ ∀ row ∈ rows, row.title ≠ .text t → row.place.rank ≤ (Cell.int 1).rank := by
  have hle (row : Prompt) (hrow : row ∈ rows) :
      row.place.le (.int 1) = true ↔ row.place.rank ≤ (Cell.int 1).rank := by
    have hone : Cell.int 1 ≠ .real .nan := by simp
    rw [Cell.le_eq_decide (hrows row hrow).ne_nan hone, decide_eq_true_eq]
  obtain ⟨row₀, hrow₀, hplace₀⟩ : ∃ row ∈ rows, row.place = .text s := by
    obtain hnull | ⟨row, hrow, hplace⟩ := hgreatest.one
    · cases htext.symm.trans hnull
    · exact ⟨row, hrow, hplace.trans htext⟩
  constructor
  · intro hroom
    obtain rfl := hroom.texts row₀ hrow₀ s hplace₀
    exact ⟨rfl, fun row hrow htitle =>
      (hle row hrow).mp (hroom.empty ⟨row₀, hrow₀, hplace₀⟩ row hrow htitle)⟩
  · rintro ⟨rfl, hall⟩
    refine ⟨?_, ?_, fun _ row hrow htitle => (hle row hrow).mpr (hall row hrow htitle)⟩
    · intro row hrow s' hplace
      have hbelow := hgreatest.all row hrow
      rw [hplace, htext] at hbelow
      exact Cell.eq_empty_of_rank_le hbelow
    · intro row hrow hplace
      refine ⟨row₀, hrow₀, ?_⟩
      rw [hplace, hplace₀]
      rfl

end

/-- Prompts are saved behind all others exactly where there is room. -/
theorem savedLast_iff_roomFor (h : b.store = some (.tables ⟨some settings, some rows, true⟩))
    (hrows : ∀ row ∈ rows, row.place.Storable) (ht : t ≠ "") (hc : c ≠ "") :
    SavedLast t c b ↔ RoomFor rows t := by
  have hgreatest := Database.greatest_greatestPlace hrows
  have hstorable := hgreatest.storable hrows
  have hsave := savePrompt_apply h ht hc
  have hlast {next : Value} {place : Cell}
      (hnext : nextPlace (Database.greatestPlace rows) = .ok next)
      (hplace : Cell.ofValue 3 next = .ok place) := savedLast_iff h hrows ht hc hnext hplace
  have hbehind {place : Cell} (hle : (Database.greatestPlace rows).rank ≤ place.rank) :
      ∀ row ∈ rows, row.title ≠ .text t → row.place.rank ≤ place.rank :=
    fun row hrow _ => (hgreatest.all row hrow).trans hle
  generalize Database.greatestPlace rows = greatest at *
  cases greatest with
  | null =>
    rw [roomFor_iff_of_not_text hgreatest hrows (by simp)]
    exact iff_of_true ((hlast rfl rfl).mpr (hbehind bot_le)) (by simp)
  | int n =>
    rw [roomFor_iff_of_not_text hgreatest hrows (by simp)]
    by_cases hmax : n = 2 ^ 63 - 1
    · have hrange : Cell.inRange (2 ^ 63 - 1 + 1) = false := by decide +kernel
      simp only [hmax, nextPlace, Cell.ofValue, hrange, Bool.false_eq_true, if_false] at hsave
      exact iff_of_false (not_savedLast hsave) (by simp [hmax])
    · have hrange : Cell.inRange (n + 1) = true := by
        have htwo : twoTo 63 = 2 ^ 63 := twoTo_eq 63
        simp only [Cell.Storable, Cell.inRange, Bool.and_eq_true, decide_eq_true_eq, htwo]
          at hstorable ⊢
        omega
      have hplace : Cell.ofValue 3 (.int (n + 1)) = .ok (.int (n + 1)) := by
        simp [Cell.ofValue, hrange]
      have hle : (Cell.int n).rank ≤ (Cell.int (n + 1)).rank :=
        Cell.rank_int_strictMono.monotone (by omega)
      exact iff_of_true ((hlast rfl hplace).mpr (hbehind hle)) (by simpa using hmax)
  | real x =>
    rw [roomFor_iff_of_not_text hgreatest hrows (by simp)]
    refine iff_of_true ?_ (by simp)
    by_cases hzero : x.isZero = true
    · have hnext : nextPlace (.real x) = .ok (.int 1) := by rw [nextPlace, if_pos hzero]
      exact (hlast hnext rfl).mpr (hbehind (Cell.rank_le_one_of_isZero hzero))
    · have hnext : nextPlace (.real x) = .ok (.float (x + Binary.ofInt 1)) := by
        rw [nextPlace, if_neg hzero]
      have hformat := Binary.inFormat_add_one hstorable
      have hplace : Cell.ofValue 3 (.float (x + Binary.ofInt 1)) =
          .ok (.real (x + Binary.ofInt 1)) := by
        rw [Cell.ofValue, if_neg hformat.ne_nan]
      refine (hlast hnext hplace).mpr (hbehind ?_)
      rw [Cell.asNumber, Cell.rank_ofReal hformat]
      exact Cell.Rank.number_strictMono.monotone (Binary.rank_le_add_one hstorable)
  | text s =>
    rw [roomFor_iff_of_text hgreatest hrows rfl]
    by_cases hempty : s = ""
    · subst hempty
      rw [hlast rfl rfl, and_iff_right rfl]
      rfl
    · have hnext : nextPlace (.text s) = .error (.concatenation "str" "int") := by
        simp [nextPlace, hempty]
      rw [hnext] at hsave
      exact iff_of_false (not_savedLast hsave) fun hroom => hempty hroom.1

/-- What was restored from a value of the data format is a store that prompts can be added to
exactly where there is room: the prompt is saved, its content is found and it comes last. -/
theorem saved_last_after_restore_iff {data : Value} (hjson : data.Json)
    (h : restore data b = (.ok (), b')) :
    ∃ fields settings rows, data = .object fields ∧ Database.Describes fields settings rows ∧
      b'.store = some (.tables ⟨some settings, some rows, true⟩) ∧
      ∀ t c, t ≠ "" → c ≠ "" → (SavedLast t c b' ↔ RoomFor rows t) := by
  obtain ⟨d, d', counts, -, hrestore, hstore, -⟩ | ⟨⟨fault, hfault⟩, -⟩ := restore_cases data b
  · obtain ⟨-, fields, settings, rows, rfl, hdescribes, rfl⟩ := Database.restore_eq_ok hrestore
    rw [h] at hstore
    refine ⟨fields, settings, rows, rfl, hdescribes, hstore, fun t c ht hc => ?_⟩
    exact savedLast_iff_roomFor hstore (hdescribes.storable hjson) ht hc
  · rw [h] at hfault
    cases hfault

/-- A workbench whose store has tables without rows. -/
def clearedBench : Bench :=
  { (default : Bench) with store := some (.tables ⟨some [], some [], true⟩) }

/-- A backup with prompts at the given places. -/
def backupAt (places : List (String × Value)) : Value :=
  .object [("prompts", .list (places.map fun (title, place) =>
    .object [("title", .text title), ("order_id", place)]))]

theorem json_backupAt {places : List (String × Value)} (h : ∀ entry ∈ places, entry.2.Json) :
    (backupAt places).Json := by
  refine .object fun field hfield => ?_
  rw [List.mem_singleton.mp hfield]
  refine .list fun item hitem => ?_
  obtain ⟨entry, hentry, rfl⟩ := List.mem_map.mp hitem
  refine .object fun field hfield => ?_
  simp only [List.mem_cons, List.not_mem_nil, or_false] at hfield
  rcases hfield with rfl | rfl
  · exact .text _
  · exact h entry hentry

/-- A prompt at the last whole number, one at a greater real and one at no place. -/
def farPlaces : List (String × Value) :=
  [("a", .int (2 ^ 63 - 1)), ("b", .float (.finite false (2 ^ 52) 12)), ("c", .null)]

theorem saved_last_after_restore_iff_far :
    (backupAt farPlaces).Json ∧
      ∃ b', restore (backupAt farPlaces) clearedBench = (.ok (), b') ∧ SavedLast "a" "x" b' := by
  have hjson : (backupAt farPlaces).Json := by
    refine json_backupAt fun entry hentry => ?_
    simp only [farPlaces, List.mem_cons, List.not_mem_nil, or_false] at hentry
    rcases hentry with rfl | rfl | rfl
    · exact .int _
    · exact .float fun _ => ⟨by decide, by decide, by decide⟩
    · exact .null
  have hrestore : restore (backupAt farPlaces) clearedBench =
      (.ok (), (restore (backupAt farPlaces) clearedBench).2) := rfl
  obtain ⟨fields, settings, rows, -, -, hstore, hlast⟩ :=
    saved_last_after_restore_iff hjson hrestore
  have hrows : (restore (backupAt farPlaces) clearedBench).2.store =
      some (.tables ⟨some [], some [⟨.text "a", .null, .int (2 ^ 63 - 1)⟩,
        ⟨.text "b", .null, .real (.finite false (2 ^ 52) 12)⟩,
        ⟨.text "c", .null, .null⟩], true⟩) := by
    decide +kernel
  cases hrows.symm.trans hstore
  refine ⟨hjson, _, hrestore, (hlast "a" "x" (by decide) (by decide)).mpr ⟨?_, ?_, ?_⟩⟩
  · simp
  · rintro row - hplace
    rw [hplace]
    exact ⟨_, List.mem_cons_of_mem _ List.mem_cons_self, by decide +kernel⟩
  · simp

/-- A backup is restored whose only prompt has a text for a place. No prompt can be saved then. -/
theorem text_place_blocks_saving :
    ∃ b', restore (backupAt [("a", .text "soon")]) clearedBench = (.ok (), b') ∧
      savePrompt (.text "t") (.text "c") b' =
        (.error (.value (.concatenation "str" "int")), b') := by
  have hrows : (restore (backupAt [("a", .text "soon")]) clearedBench).2.store =
      some (.tables ⟨some [], some [⟨.text "a", .null, .text "soon"⟩], true⟩) := by
    decide +kernel
  refine ⟨(restore (backupAt [("a", .text "soon")]) clearedBench).2, rfl, ?_⟩
  rw [savePrompt_apply hrows (by decide) (by decide)]
  rfl

end Store

end PromptStudio

import PromptStudio.Bench.Store

/-!
# Pictures

The words that describe a picture's size, the size of its thumbnail, and saving.
-/

namespace PromptStudio

namespace Picture

/-- The resolution class of a picture: by its longer side, or its height for small ones. -/
def resolutionText (width height : Nat) : String :=
  let longer := max width height
  if 1024 ≤ longer ∧ longer < 2048 then "1K"
  else if 2048 ≤ longer ∧ longer < 4096 then "2K"
  else if 4096 ≤ longer then "4K"
  else s!"{height}p"

def quotient (r : Nat × Nat) : Binary := Binary.ofQuotient false r.1 r.2

/-- The quotient that a choice of an aspect ratio stands for. Some choices stand for none. -/
def ratioOf (choice : Value) : Except ValueFault (Option Binary) := do
  if choice.same (.text Options.noRatio) then return none
  match choice with
  | .text s =>
    match s.splitOn ":" with
    | [] => return none
    | first :: rest =>
      let .ok width := Numeral.read first | return none
      let second :: _ := rest | .error (.itemRange "list")
      let .ok height := Numeral.read second | return none
      if height = 0 then return none
      let negative := decide (width < 0) != decide (height < 0)
      return some (Binary.ofQuotient negative width.natAbs height.natAbs)
  | v => .error (.noField v "split")

/-- The first of the given choices whose ratio is nearest to a quotient, among them and a best so
far. -/
def nearestRatio (q : Binary) : Option (Binary × String) → List Value → Except ValueFault String
  | best, [] => .ok ((best.map Prod.snd).getD "")
  | best, choice :: rest => do
    match ← ratioOf choice, best with
    | none, best => nearestRatio q best rest
    | some r, some (least, nearest) =>
      let distance := (q - r).abs
      if distance < least then nearestRatio q (some (distance, choice.display)) rest
      else nearestRatio q (some (least, nearest)) rest
    | some r, none => nearestRatio q (some ((q - r).abs, choice.display)) rest

/-- The description of a picture: its resolution and its nearest aspect ratio. -/
def describe (ratios : List Value) (width height : Nat) : Except ValueFault String := do
  if height = 0 then return resolutionText width height ++ " / ?"
  return resolutionText width height ++ " / " ++
    (← nearestRatio (quotient (width, height)) none ratios)

/-- Of the two integers next to a number the one with the smaller distance, the lower one on a
tie, and at least one. -/
def nearestSide (x : Binary) (distance : Int → Binary) : Nat :=
  let low := x.floor?.getD 0
  let high := x.ceil?.getD 0
  (max 1 (if distance high < distance low then high else low)).toNat

/-- The size of a thumbnail in a square of the given side. A picture that fits keeps its size;
otherwise one side is the square's and the other is chosen to keep the ratio. -/
def thumbnail (side width height : Nat) : Nat × Nat :=
  if width ≤ side ∧ height ≤ side then (width, height)
  else
    let ratio := quotient (width, height)
    let full := Binary.ofInt side
    if ratio ≤ Binary.ofInt 1 then
      (nearestSide (full * ratio) fun n => (ratio - Binary.ofInt n / full).abs, side)
    else
      (side, nearestSide (full / ratio) fun n =>
        if n = 0 then Binary.zero false else (ratio - full / Binary.ofInt n).abs)

end Picture

/-- Describes the picture at a path; one that does not open is logged and unknown. -/
def pictureDetails (path : Value) : BenchStep String := do
  match (← get).files.pictureAt path with
  | .ok p =>
    orFail ((Picture.describe (← get).choices.ratios p.width p.height).mapError .value)
  | .error fault =>
    logText ("Error opening image " ++ path.display ++ ": " ++ fault.message)
    pure "Unknown"

/-- Saves a picture as a PNG file; all its pixels have to be there. The file is written where the
path leads when its links are followed. If the format is to be known from the name, that name has to
have an extension. -/
def savePng (path : String) (p : Picture) (byName : Bool) : BenchStep Unit := do
  if !p.whole then throw (.unsaved "image file is truncated (0 bytes not processed)")
  let target := (← get).files.realPath path
  if byName && (Path.extension target).isEmpty then throw (.refused "unknown file extension: ")
  onFiles (·.write target (.encoded p.width p.height "PNG") none)

end PromptStudio

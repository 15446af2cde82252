import PromptStudio.Value.Basic

/-!
# Options

The choices that the interfaces offer: models, aspect ratios and resolutions. The lists of choices
are handed out, and whoever has got one may change it.
-/

namespace PromptStudio.Options

def models : List String := ["gemini-2.5-flash-image", "gemini-3-pro-image-preview"]

def defaultModel : String := "gemini-3-pro-image-preview"

def noRatio : String := "ar_none"

/-- The aspect ratios to choose from, as width and height. -/
def ratios : List (Nat × Nat) :=
  [(1, 1), (2, 3), (3, 2), (3, 4), (4, 3), (4, 5), (5, 4), (9, 16), (16, 9), (21, 9)]

def ratioText (r : Nat × Nat) : String := s!"{r.1}:{r.2}"

/-- The choices of aspect ratios: none, then each ratio. -/
def ratioChoices : List String := noRatio :: ratios.map ratioText

def resolutions : List String := ["1K", "2K", "4K"]

def defaultResolution : String := "2K"

/-- What is chosen. -/
inductive Choice where
  | model
  | ratio
  | resolution
deriving DecidableEq, Repr, Inhabited

/-- The folders that may be shown, by platform. -/
def allowedFolders (platform : String) : List String :=
  if platform = "Windows" then
    (List.range 26).map (fun i => (Char.ofNat (65 + i)).toString ++ ":\\") ++
      ["\\\\DS720plus\\home", "\\\\192.168.1.1\\share"]
  else ["/", "/mnt", "/media", "/home"]

def texts (ss : List String) : Value := .list (ss.map .text)

def Choice.initial : Choice → List Value
  | model => models.map .text
  | ratio => ratioChoices.map .text
  | resolution => resolutions.map .text

end PromptStudio.Options

namespace PromptStudio

/-- The lists of choices. -/
structure Choices where
  models : List Value := Options.Choice.model.initial
  ratios : List Value := Options.Choice.ratio.initial
  resolutions : List Value := Options.Choice.resolution.initial
deriving Repr, Inhabited

namespace Choices

open Options (Choice)

def list (c : Choices) : Choice → List Value
  | .model => c.models
  | .ratio => c.ratios
  | .resolution => c.resolutions

/-- The choices with another list of one kind. -/
def put (c : Choices) (kind : Choice) (values : List Value) : Choices :=
  match kind with
  | .model => { c with models := values }
  | .ratio => { c with ratios := values }
  | .resolution => { c with resolutions := values }

end Choices

end PromptStudio

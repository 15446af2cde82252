import PromptStudio.Bench.Store

/-!
# Constants

The constants of the program by name. The lists of choices among them are those that the interfaces
use.
-/

namespace PromptStudio

def Options.Choice.constant : Options.Choice → String
  | model => "MODEL_SELECTOR_CHOICES"
  | ratio => "AR_SELECTOR_CHOICES"
  | resolution => "RES_SELECTOR_CHOICES"

open Options in
/-- The constants by name. -/
def Bench.constants (b : Bench) : Value := .object [
  ("APP_AUTHOR", .text "joycai"),
  ("APP_NAME", .text "Gemini-Image-Tool"),
  ("AR_SELECTOR_CHOICES", .list b.choices.ratios),
  ("AR_SELECTOR_DEFAULT", .text noRatio),
  ("DB_FILE", .text storeFile),
  ("DB_FILE_NAME", .text "database.sqlite"),
  ("MODEL_SELECTOR_CHOICES", .list b.choices.models),
  ("MODEL_SELECTOR_DEFAULT", .text defaultModel),
  ("OUTPUT_DIR", .text outputFolder),
  ("RES_SELECTOR_CHOICES", .list b.choices.resolutions),
  ("RES_SELECTOR_DEFAULT", .text defaultResolution),
  ("STORAGE_DIR", .text storageFolder),
  ("TEMP_DIR", .text temporaryFolder),
  ("UPLOAD_DIR", .text uploadFolder),
  ("VALID_IMAGE_EXTENSIONS",
    texts (Path.imageExtensions.mergeSort fun a b => decide (a ≤ b)))]

end PromptStudio

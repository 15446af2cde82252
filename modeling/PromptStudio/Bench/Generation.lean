import PromptStudio.Bench.Service

/-!
# Generating an image

One request for an image: a prompt, reference images that open, and the wanted size. The image is
looked for in the parts of the reply; a reply without one counts as a failure.
-/

namespace PromptStudio.Generation

/-- The settings of a request for an image. -/
def config (model ratio resolution : Value) : BenchStep Value := do
  let modalities : Value := .list [.text "IMAGE"]
  if ← orFail (Service.mentions model "gemini-2.5") then
    logValue (← Texts.say "api_log_gemini25")
    pure (.config "GenerateContentConfig" [("response_modalities", modalities)])
  else
    let resolution := if resolution.truthy then resolution else .text Options.defaultResolution
    let size := [("image_size", resolution)]
    let size := if Service.hasRatio ratio then size ++ [("aspect_ratio", ratio)] else size
    pure (.config "GenerateContentConfig"
      [("response_modalities", modalities), ("image_config", .config "ImageConfig" size)])

/-- The picture in what a part's conversion gave, if there is one. -/
def pictureOf (image : ServiceImage) : BenchStep (Option Picture) := do
  match image.data, image.picture with
  | some data, _ =>
    logValue (← Texts.say "api_log_receivedImgSdk")
    pure (some (← orFail data.opened))
  | none, some (w, h) =>
    logValue (← Texts.say "api_log_receivedImgSdk")
    pure (some { width := w, height := h })
  | none, none => pure none

/-- The picture that a part's conversion gives; a conversion that fails gives none. -/
def converted (part : ReplyPart) : BenchStep (Option Picture) := do
  match part.conversion with
  | .image image =>
    match ← outcome (pictureOf image) with
    | .ok p => pure p
    | .error _ => pure none
  | _ => pure none

/-- The picture of one part, if it has one. A text where a picture is missing is a failure. -/
def pictureIn (part : ReplyPart) : BenchStep (Option Picture) := do
  match part.inlineData with
  | some data =>
    if !data.isEmpty then
      logValue (← Texts.say "api_log_receivedImgInline")
      return some (← orFail data.opened)
  | none => pure ()
  match ← converted part with
  | some p => pure (some p)
  | none =>
    let text := part.text.getD .null
    if !text.truthy then pure none
    else throw (.refused (← Texts.sayWith "api_error_textResponse" [("text", text)]).display)

/-- The first picture among the parts of a reply. -/
def firstPicture : List ReplyPart → BenchStep Picture
  | [] => do throw (.refused (← Texts.say "api_error_noValidImage").display)
  | part :: rest => do
    match ← pictureIn part with
    | some p => pure p
    | none => firstPicture rest

/-- The first picture among values that should be parts of a reply. -/
def firstPictureOf : List Value → BenchStep Picture
  | [] => firstPicture []
  | .part inlineData text conversion :: rest => do
    match ← pictureIn ⟨inlineData, text, conversion⟩ with
    | some p => pure p
    | none => firstPictureOf rest
  | v :: _ => throw (.value (.noField v "inline_data"))

/-- Opens the reference images that open; the others are logged and left out. -/
def openImages : List Value → BenchStep (List Value)
  | [] => pure []
  | path :: rest => do
    match (← get).files.pictureAt path with
    | .ok p => pure (.picture p :: (← openImages rest))
    | .error fault =>
      if fault.ofSystem then
        logValue (← Texts.sayWith "api_log_skipImg"
          [("path", path), ("err", fault.toValue)])
        openImages rest
      else throw fault

/-- Why a reply without parts has none. -/
def refusal (response : Response) : BenchStep Fault := do
  let blocked (reason : Value) : BenchStep Fault := do
    logValue (← Texts.sayWith "api_log_gemini_api_error" [("reason", reason)])
    pure (.refused ("Request was blocked due to: " ++ reason.display))
  match response.candidates with
  | some (.finished (some reason) :: _) => blocked reason
  | some (.finished none :: _) => pure (.value (.noField .null "value"))
  | _ =>
    match response.feedback with
    | .blocked reason => blocked reason
    | _ => pure (.refused (← Texts.say "api_error_noParts").display)

/-- Logs the usage of a reply and takes the image out of it. -/
def takeImage (response : Response) : BenchStep Picture := do
  match response.usage with
  | some (some u) =>
    Service.logUsage (u.input.getD (.int 0)) (u.output.getD (.int 0)) (u.total.getD (.int 0))
  | _ => pure ()
  match response.parts with
  | some (part :: rest) => firstPicture (part :: rest)
  | _ => throw (← refusal response)

/-- Sends one request and takes the image out of its reply. -/
def request (model : Value) (contents : List Value) (config : Value) : BenchStep Picture := do
  recordEvent (.imageRequested model contents config)
  takeImage (← Service.nextReply)

/-- What a request for an image is made of. -/
structure Order where
  prompt : Value
  images : Value
  key : Value
  model : Value
  ratio : Value
  resolution : Value
deriving Repr, Inhabited

/-- The contents of a request: the prompt if there is one, then the images that open. -/
def contents (order : Order) : BenchStep (List Value) := do
  let start := if order.prompt.truthy then [order.prompt] else []
  if order.images.truthy then
    let count ← orFail (order.images.length.mapError .value)
    logValue (← Texts.sayWith "api_log_loadingImgs" [("count", .int count)])
    let paths ← orFail (order.images.items.mapError .value)
    pure (start ++ (← openImages paths))
  else pure start

/-- Logs what is sent, makes the settings and sends the request. -/
def dispatch (order : Order) (model : Value) (contents : List Value) (ratioText : Value)
    (promptLength : Nat) : BenchStep (Option Picture) := do
  let imageCount ← orFail (order.images.length.mapError .value)
  logValue (← Texts.sayWith "api_log_requestInfo"
    [("prompt_len", .int promptLength), ("img_count", .int imageCount)])
  logValue (← Texts.sayWith "api_log_requestSent"
    [("model", model), ("ar", ratioText), ("res", order.resolution)])
  let config ← config model order.ratio order.resolution
  Service.persist Service.isKeyRefused (request model contents config)

/-- Generates an image. Nothing is given back without a key or when every attempt failed. -/
def generate (order : Order) : BenchStep (Option Picture) := do
  if !order.key.truthy then
    logValue (← Texts.say "api_error_apiKey")
    return none
  let model := if order.model.truthy then order.model else .text Options.defaultModel
  let _ ← Service.makeClient order.key
  let contents ← contents order
  let ratioText ← Texts.lookup order.ratio order.ratio []
  let promptLength ← if order.prompt.truthy then orFail (order.prompt.length.mapError .value)
    else pure 0
  dispatch order model contents ratioText promptLength

end PromptStudio.Generation

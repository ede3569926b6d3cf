import Focalboard.Js.Object

/-!
# The assistant's configuration in `localStorage`

`saveAIConfig` writes the API key, then each optional field only when it is set: a string
field when it is truthy, a number when it is not `undefined`; it never removes an item.
`loadAIConfig` reads them back, with the window override, the build's key and a default key
before and after the stored key, drops a stored URL of OpenAI or Anthropic (removing it from
storage), and parses the numbers with their defaults. `handleSave` builds the config from the
settings form, where an empty URL or model field becomes `undefined`, saves it and hands it to
the service.

So a field left empty in the form keeps whatever an earlier save stored, and the next load
returns that stale value where the session runs with none (`loadAIConfig_handleSave`). Numbers
are left abstract (`JsNumbers`): no statement here depends on their arithmetic.
-/

namespace Focalboard.Ai

open Focalboard.Js

/-- `window.localStorage`, by its items. -/
structure LocalStorage where
  items : List (List Char × List Char)
  deriving DecidableEq, Repr

namespace LocalStorage

def getItem (storage : LocalStorage) (key : List Char) : Option (List Char) :=
  storage.items.lookup key

def setItem (storage : LocalStorage) (key value : List Char) : LocalStorage :=
  ⟨(key, value) :: storage.items.filter fun item => item.1 ≠ key⟩

def removeItem (storage : LocalStorage) (key : List Char) : LocalStorage :=
  ⟨storage.items.filter fun item => item.1 ≠ key⟩

theorem lookup_filter_ne {k key : List Char} (h : k ≠ key) :
    ∀ items : List (List Char × List Char),
      (items.filter fun item => item.1 ≠ key).lookup k = items.lookup k
  | [] => rfl
  | (k', v) :: rest => by
    by_cases hk : k' = key
    · subst hk
      rw [List.filter_cons_of_neg (by simp), lookup_filter_ne h rest, List.lookup_cons,
        beq_false_of_ne h]
    · rw [List.filter_cons_of_pos (by simpa using hk), List.lookup_cons, List.lookup_cons,
        lookup_filter_ne h rest]

@[simp] theorem getItem_setItem_self (storage : LocalStorage) (key value : List Char) :
    (storage.setItem key value).getItem key = some value := by
  simp [getItem, setItem]

theorem getItem_setItem_ne (storage : LocalStorage) {k key : List Char} (h : k ≠ key)
    (value : List Char) : (storage.setItem key value).getItem k = storage.getItem k := by
  rw [getItem, setItem, List.lookup_cons, beq_false_of_ne h]
  exact lookup_filter_ne h _

theorem getItem_removeItem_ne (storage : LocalStorage) {k key : List Char} (h : k ≠ key) :
    (storage.removeItem key).getItem k = storage.getItem k :=
  lookup_filter_ne h _

end LocalStorage

open LocalStorage

/-- How the code reads and writes numbers, left abstract: `parseFloat`, `parseInt(_, 10)`,
`toString()`, truthiness (false for `0` and `NaN`), and the value of a numeric literal. -/
structure JsNumbers (ν : Type) where
  parseFloat : List Char → ν
  parseInt : List Char → ν
  toString : ν → List Char
  truthy : ν → Bool
  literal : List Char → ν

def JsNumbers.or {ν : Type} (N : JsNumbers ν) (a b : ν) : ν := if N.truthy a then a else b

def textNumbers : JsNumbers (List Char) := ⟨id, id, id, fun n => !n.isEmpty, id⟩

/-- `AIConfig`. -/
structure AIConfig (ν : Type) where
  apiKey : List Char
  apiUrl : Option (List Char)
  model : Option (List Char)
  temperature : Option ν
  maxTokens : Option ν
  topP : Option ν
  deriving DecidableEq, Repr

section Keys

/-- The `localStorage` keys, in the order `saveAIConfig` writes them. -/
def apiKeyItem : List Char := "focalboard_ai_api_key".toList
def apiUrlItem : List Char := "focalboard_ai_api_url".toList
def modelItem : List Char := "focalboard_ai_model".toList
def temperatureItem : List Char := "focalboard_ai_temperature".toList
def maxTokensItem : List Char := "focalboard_ai_max_tokens".toList
def topPItem : List Char := "focalboard_ai_top_p".toList

end Keys

/-- `if (value) localStorage.setItem(key, value)`. -/
def setIfTruthy (key : List Char) (value : Option (List Char)) (storage : LocalStorage) :
    LocalStorage :=
  match value with
  | some v => if truthyText (some v) then storage.setItem key v else storage
  | none => storage

/-- `if (value !== undefined) localStorage.setItem(key, value.toString())`. -/
def setIfDefined {ν : Type} (toString : ν → List Char) (key : List Char) (value : Option ν)
    (storage : LocalStorage) : LocalStorage :=
  match value with
  | some v => storage.setItem key (toString v)
  | none => storage

/-- `saveAIConfig(config)` (`aiService.ts`, lines 193-210). -/
def saveAIConfig {ν : Type} (N : JsNumbers ν) (config : AIConfig ν) (storage : LocalStorage) :
    LocalStorage :=
  let storage := storage.setItem apiKeyItem config.apiKey
  let storage := setIfTruthy apiUrlItem config.apiUrl storage
  let storage := setIfTruthy modelItem config.model storage
  let storage := setIfDefined N.toString temperatureItem config.temperature storage
  let storage := setIfDefined N.toString maxTokensItem config.maxTokens storage
  setIfDefined N.toString topPItem config.topP storage

/-- `apiUrl.includes('openai.com') || apiUrl.includes('anthropic.com')`. -/
def isProviderUrl (apiUrl : List Char) : Bool :=
  decide ("openai.com".toList <:+: apiUrl) || decide ("anthropic.com".toList <:+: apiUrl)

/-- `localStorage.getItem(key) || fallback`, the text a number is parsed from. -/
def storedText (storage : LocalStorage) (key fallback : List Char) : List Char :=
  (jsOr (storage.getItem key) (some fallback)).getD fallback

/-- The stored URL, unless it is OpenAI's or Anthropic's, which is removed from storage
(lines 170-176): the URL, and the storage after it. -/
def loadApiUrl (storage : LocalStorage) : Option (List Char) × LocalStorage :=
  match jsOr (storage.getItem apiUrlItem) none with
  | some url =>
    if isProviderUrl url then (none, storage.removeItem apiUrlItem) else (some url, storage)
  | none => (none, storage)

/-- `loadAIConfig()` (lines 154-190), with the window override `__FOCALBOARD_AI_API_KEY__`,
the build's `REACT_APP_AI_API_KEY` and the key written in the source as parameters. It returns
the config, or none for `null`, and the storage after it. -/
def loadAIConfig {ν : Type} (N : JsNumbers ν) (windowApiKey envApiKey : Option (List Char))
    (defaultApiKey : List Char) (storage : LocalStorage) : Option (AIConfig ν) × LocalStorage :=
  let apiKey := jsOr (jsOr (jsOr windowApiKey (storage.getItem apiKeyItem)) envApiKey)
    (some defaultApiKey)
  match apiKey with
  | none => (none, storage)
  | some apiKey =>
    if apiKey = [] then (none, storage) else
    let apiUrl := (loadApiUrl storage).1
    let storage := (loadApiUrl storage).2
    let model := jsOr (storage.getItem modelItem) none
    let temperature := N.parseFloat (storedText storage temperatureItem "0.6".toList)
    let maxTokens := N.parseInt (storedText storage maxTokensItem "4096".toList)
    let topP := N.parseFloat (storedText storage topPItem "0.95".toList)
    (some ⟨apiKey, apiUrl, model, some temperature, some maxTokens, some topP⟩, storage)

/-- The settings form's fields, as the text typed in them. -/
structure ConfigForm where
  apiKey : List Char
  apiUrl : List Char
  model : List Char
  temperature : List Char
  maxTokens : List Char
  topP : List Char
  deriving DecidableEq, Repr

/-- `handleSave` (`chatbotConfig.tsx`, lines 36-55): the alert for a blank key, or the config
handed to `aiService.setConfig` and the storage `saveAIConfig` leaves. -/
def handleSave {ν : Type} (N : JsNumbers ν) (form : ConfigForm) (storage : LocalStorage) :
    Except (List Char) (AIConfig ν × LocalStorage) :=
  if trim form.apiKey = [] then .error "Please enter an API key".toList
  else
    let config : AIConfig ν :=
      { apiKey := trim form.apiKey
        apiUrl := jsOr (some (trim form.apiUrl)) none
        model := jsOr (some (trim form.model)) none
        temperature := some (N.or (N.parseFloat form.temperature) (N.literal "0.6".toList))
        maxTokens := some (N.or (N.parseInt form.maxTokens) (N.literal "4096".toList))
        topP := some (N.or (N.parseFloat form.topP) (N.literal "0.95".toList)) }
    .ok (config, saveAIConfig N config storage)

def ConfigForm.initial : ConfigForm := ⟨[], [], [], "0.6".toList, "4096".toList, "0.95".toList⟩

/-- The mount effect of the settings dialog (lines 24-34): the form filled from the loaded config,
each number printed, a missing field empty or its default. -/
def loadForm {ν : Type} (N : JsNumbers ν) : Option (AIConfig ν) → ConfigForm
  | some config =>
    { apiKey := config.apiKey
      apiUrl := orText config.apiUrl []
      model := orText config.model []
      temperature := orText (config.temperature.map N.toString) "0.6".toList
      maxTokens := orText (config.maxTokens.map N.toString) "4096".toList
      topP := orText (config.topP.map N.toString) "0.95".toList }
  | none => ConfigForm.initial

theorem getItem_setIfTruthy_self (key : List Char) (value : Option (List Char))
    (storage : LocalStorage) : (setIfTruthy key value storage).getItem key =
      jsOr value (storage.getItem key) := by
  unfold setIfTruthy jsOr
  cases value with
  | none => rfl
  | some v => by_cases h : truthyText (some v) <;> simp [h]

theorem getItem_setIfTruthy_ne {k key : List Char} (h : k ≠ key) (value : Option (List Char))
    (storage : LocalStorage) : (setIfTruthy key value storage).getItem k = storage.getItem k := by
  unfold setIfTruthy
  split
  · split
    · exact getItem_setItem_ne _ h _
    · rfl
  · rfl

theorem getItem_setIfDefined_ne {ν : Type} (toString : ν → List Char) {k key : List Char}
    (h : k ≠ key) (value : Option ν) (storage : LocalStorage) :
    (setIfDefined toString key value storage).getItem k = storage.getItem k := by
  unfold setIfDefined
  split
  · exact getItem_setItem_ne _ h _
  · rfl

section Save

variable {ν : Type} (N : JsNumbers ν) (config : AIConfig ν) (storage : LocalStorage)

theorem getItem_saveAIConfig_of_ne {k : List Char} (h1 : k ≠ temperatureItem)
    (h2 : k ≠ maxTokensItem) (h3 : k ≠ topPItem) :
    (saveAIConfig N config storage).getItem k =
      (setIfTruthy modelItem config.model (setIfTruthy apiUrlItem config.apiUrl
        (storage.setItem apiKeyItem config.apiKey))).getItem k := by
  simp only [saveAIConfig, getItem_setIfDefined_ne _ h3, getItem_setIfDefined_ne _ h2,
    getItem_setIfDefined_ne _ h1]

theorem getItem_saveAIConfig_apiKey :
    (saveAIConfig N config storage).getItem apiKeyItem = some config.apiKey := by
  rw [getItem_saveAIConfig_of_ne _ _ _ (by decide) (by decide) (by decide),
    getItem_setIfTruthy_ne (by decide), getItem_setIfTruthy_ne (by decide), getItem_setItem_self]

theorem getItem_saveAIConfig_apiUrl :
    (saveAIConfig N config storage).getItem apiUrlItem =
      jsOr config.apiUrl (storage.getItem apiUrlItem) := by
  rw [getItem_saveAIConfig_of_ne _ _ _ (by decide) (by decide) (by decide),
    getItem_setIfTruthy_ne (by decide), getItem_setIfTruthy_self,
    getItem_setItem_ne _ (by decide)]

theorem getItem_saveAIConfig_model :
    (saveAIConfig N config storage).getItem modelItem =
      jsOr config.model (storage.getItem modelItem) := by
  rw [getItem_saveAIConfig_of_ne _ _ _ (by decide) (by decide) (by decide),
    getItem_setIfTruthy_self, getItem_setIfTruthy_ne (by decide), getItem_setItem_ne _ (by decide)]

end Save

/-- With no window override and a stored key, the load returns the stored key, the stored URL
unless it is OpenAI's or Anthropic's, the stored model, and the stored numbers. -/
theorem loadAIConfig_of_stored_key {ν : Type} (N : JsNumbers ν) (envApiKey : Option (List Char))
    (defaultApiKey : List Char) {storage : LocalStorage} {apiKey : List Char}
    (hkey : storage.getItem apiKeyItem = some apiKey) (hne : apiKey ≠ []) :
    (loadAIConfig N none envApiKey defaultApiKey storage).1 =
      some ⟨apiKey, (jsOr (storage.getItem apiUrlItem) none).filter fun url => !isProviderUrl url,
        jsOr (storage.getItem modelItem) none,
        some (N.parseFloat (storedText storage temperatureItem "0.6".toList)),
        some (N.parseInt (storedText storage maxTokensItem "4096".toList)),
        some (N.parseFloat (storedText storage topPItem "0.95".toList))⟩ := by
  have hfirst : jsOr (jsOr (jsOr none (storage.getItem apiKeyItem)) envApiKey) (some defaultApiKey) =
      some apiKey := by
    rw [jsOr_none, hkey, jsOr_some_of_ne_nil hne, jsOr_some_of_ne_nil hne]
  have hurl : (loadApiUrl storage).1 =
      (jsOr (storage.getItem apiUrlItem) none).filter fun url => !isProviderUrl url := by
    unfold loadApiUrl
    split
    · split <;> simp_all [Option.filter]
    · simp_all
  have hkeep : ∀ k, k ≠ apiUrlItem → (loadApiUrl storage).2.getItem k = storage.getItem k := by
    intro k hk
    unfold loadApiUrl
    split
    · split
      · exact getItem_removeItem_ne _ hk
      · rfl
    · rfl
  simp only [loadAIConfig, hfirst, if_neg hne, hurl, storedText, hkeep _ (by decide : modelItem ≠ apiUrlItem),
    hkeep _ (by decide : temperatureItem ≠ apiUrlItem), hkeep _ (by decide : maxTokensItem ≠ apiUrlItem),
    hkeep _ (by decide : topPItem ≠ apiUrlItem)]

/-- What `handleSave` hands on: the trimmed key, which is not empty, a URL and a model that are
truthy or `undefined`, and the storage after `saveAIConfig`. -/
theorem handleSave_ok {ν : Type} {N : JsNumbers ν} {form : ConfigForm} {storage saved : LocalStorage}
    {config : AIConfig ν} (h : handleSave N form storage = .ok (config, saved)) :
    config.apiKey = trim form.apiKey ∧ trim form.apiKey ≠ [] ∧
      (config.apiUrl = none ∨ truthyText config.apiUrl) ∧
      (config.model = none ∨ truthyText config.model) ∧ saved = saveAIConfig N config storage := by
  unfold handleSave at h
  split at h
  · cases h
  · next hk =>
    obtain ⟨rfl, rfl⟩ := Prod.mk.inj (Except.ok.inj h)
    refine ⟨rfl, hk, ?_, ?_, rfl⟩ <;> simp only [jsOr] <;> split <;> simp_all

theorem jsOr_jsOr_none {a : Option (List Char)} (ha : a = none ∨ truthyText a)
    (b : Option (List Char)) : jsOr (jsOr a b) none = (a <|> jsOr b none) := by
  rcases ha with rfl | ha
  · rfl
  · cases a with
    | none => simp [truthyText] at ha
    | some s => simp [jsOr, ha]

/-- **A field cleared in the form comes back from storage.** After `handleSave` with no window
override, the next load returns the key just saved, and for the URL and the model the value
just saved when there is one and otherwise the value an earlier save stored, where the session
runs with none; a URL of OpenAI or Anthropic is dropped either way. -/
theorem loadAIConfig_handleSave {ν : Type} (N : JsNumbers ν) (envApiKey : Option (List Char))
    (defaultApiKey : List Char) (form : ConfigForm) (storage : LocalStorage)
    {config : AIConfig ν} {saved : LocalStorage}
    (hsave : handleSave N form storage = .ok (config, saved)) :
    ∃ loaded, (loadAIConfig N none envApiKey defaultApiKey saved).1 = some loaded ∧
      loaded.apiKey = config.apiKey ∧
      loaded.apiUrl = (config.apiUrl <|> jsOr (storage.getItem apiUrlItem) none).filter
        (fun url => !isProviderUrl url) ∧
      loaded.model = (config.model <|> jsOr (storage.getItem modelItem) none) := by
  obtain ⟨hkey, hne, hurl, hmodel, rfl⟩ := handleSave_ok hsave
  refine ⟨_, loadAIConfig_of_stored_key N envApiKey defaultApiKey
    (getItem_saveAIConfig_apiKey N config storage) (hkey ▸ hne), rfl, ?_, ?_⟩
  · rw [getItem_saveAIConfig_apiUrl, jsOr_jsOr_none hurl]
  · rw [getItem_saveAIConfig_model, jsOr_jsOr_none hmodel]

/-- A text field shown in the form and saved again comes back as it was, an empty one as
`undefined`. -/
theorem jsOr_trim_orText {a : Option (List Char)} (h : ∀ s ∈ a, trim s = s) :
    jsOr (some (trim (orText a []))) none = jsOr a none := by
  cases a with
  | none => rfl
  | some s => rw [orText_some_nil, h s rfl]

/-- **Saving the dialog unchanged keeps the settings.** Opened on a config whose key, URL and
model have no surrounding whitespace, the dialog saved as it is hands the service the same key,
URL and model, and writes that key to storage, wherever the loaded key came from. -/
theorem handleSave_loadForm {ν : Type} (N : JsNumbers ν) {config : AIConfig ν}
    (hkey : trim config.apiKey = config.apiKey) (hne : config.apiKey ≠ [])
    (hurl : ∀ url ∈ config.apiUrl, trim url = url)
    (hmodel : ∀ model ∈ config.model, trim model = model) (storage : LocalStorage) :
    ∃ saved, handleSave N (loadForm N (some config)) storage =
        .ok (saved, saveAIConfig N saved storage) ∧
      saved.apiKey = config.apiKey ∧ saved.apiUrl = jsOr config.apiUrl none ∧
      saved.model = jsOr config.model none ∧
      (saveAIConfig N saved storage).getItem apiKeyItem = some config.apiKey := by
  simp only [handleSave, loadForm, hkey, if_neg hne]
  exact ⟨_, rfl, rfl, jsOr_trim_orText hurl, jsOr_trim_orText hmodel,
    getItem_saveAIConfig_apiKey N _ storage⟩

def storedConfig : AIConfig (List Char) :=
  ⟨"k".toList, none, some "m".toList, some "0.6".toList, some "4096".toList, some "0.95".toList⟩

theorem handleSave_loadForm_stored :
    trim storedConfig.apiKey = storedConfig.apiKey ∧ storedConfig.apiKey ≠ [] ∧
      (∀ url ∈ storedConfig.apiUrl, trim url = url) ∧
      (∀ model ∈ storedConfig.model, trim model = model) ∧
      ∃ saved, handleSave textNumbers (loadForm textNumbers (some storedConfig)) ⟨[]⟩ =
          .ok (saved, saveAIConfig textNumbers saved ⟨[]⟩) ∧
        saved.apiKey = storedConfig.apiKey ∧ saved.apiUrl = jsOr storedConfig.apiUrl none ∧
        saved.model = jsOr storedConfig.model none ∧
        (saveAIConfig textNumbers saved ⟨[]⟩).getItem apiKeyItem = some storedConfig.apiKey :=
  have hurl : ∀ url ∈ storedConfig.apiUrl, trim url = url := nofun
  have hmodel : ∀ model ∈ storedConfig.model, trim model = model := by
    rintro _ ⟨⟩
    decide
  ⟨by decide, by decide, hurl, hmodel,
    handleSave_loadForm textNumbers (by decide) (by decide) hurl hmodel ⟨[]⟩⟩

/-- What happens to the configuration: the user saves the form, or the page loads it. -/
inductive ConfigOp where
  | save (form : ConfigForm)
  | load
  deriving DecidableEq, Repr

section Run

variable {ν : Type} (N : JsNumbers ν) (windowApiKey envApiKey : Option (List Char))
  (defaultApiKey : List Char)

/-- The storage after one operation; an alert leaves it as it was. -/
def configStep (storage : LocalStorage) : ConfigOp → LocalStorage
  | .save form =>
    match handleSave N form storage with
    | .ok (_, saved) => saved
    | .error _ => storage
  | .load => (loadAIConfig N windowApiKey envApiKey defaultApiKey storage).2

/-- The storage after a run of operations. -/
def configRun (storage : LocalStorage) (ops : List ConfigOp) : LocalStorage :=
  ops.foldl (configStep N windowApiKey envApiKey defaultApiKey) storage

theorem loadApiUrl_storage (storage : LocalStorage) :
    (loadApiUrl storage).2 = storage ∨ (loadApiUrl storage).2 = storage.removeItem apiUrlItem := by
  unfold loadApiUrl
  split
  · split
    · exact .inr rfl
    · exact .inl rfl
  · exact .inl rfl

/-- A load removes the stored URL or nothing. -/
theorem loadAIConfig_storage (storage : LocalStorage) :
    (loadAIConfig N windowApiKey envApiKey defaultApiKey storage).2 = storage ∨
      (loadAIConfig N windowApiKey envApiKey defaultApiKey storage).2 =
        storage.removeItem apiUrlItem := by
  unfold loadAIConfig
  dsimp only
  split
  · exact .inl rfl
  · split
    · exact .inl rfl
    · exact loadApiUrl_storage storage

theorem truthyText_jsOr_of_right {a b : Option (List Char)} (h : truthyText b) :
    truthyText (jsOr a b) := by
  unfold jsOr
  split <;> assumption

/-- One operation keeps a stored model. -/
theorem configStep_model (storage : LocalStorage) (op : ConfigOp)
    (h : truthyText (storage.getItem modelItem)) :
    truthyText ((configStep N windowApiKey envApiKey defaultApiKey storage op).getItem modelItem) := by
  cases op with
  | save form =>
    cases hs : handleSave N form storage with
    | error => simpa [configStep, hs] using h
    | ok result =>
      simp only [configStep, hs]
      rw [(handleSave_ok hs).2.2.2.2, getItem_saveAIConfig_model]
      exact truthyText_jsOr_of_right h
  | load =>
    rcases loadAIConfig_storage N windowApiKey envApiKey defaultApiKey storage with he | he <;>
      simp only [configStep, he]
    · exact h
    · rwa [getItem_removeItem_ne _ (by decide)]

/-- **No run clears a stored model.** Once the storage holds a model, it holds one after
every sequence of saves and loads, whatever the forms say. -/
theorem configRun_model (ops : List ConfigOp) :
    ∀ storage : LocalStorage, truthyText (storage.getItem modelItem) →
      truthyText ((configRun N windowApiKey envApiKey defaultApiKey storage ops).getItem modelItem) := by
  induction ops with
  | nil => exact fun _ h => h
  | cons op ops ih =>
    exact fun storage h => ih _ (configStep_model N windowApiKey envApiKey defaultApiKey storage op h)

end Run

def staleStorage : LocalStorage := ⟨[(modelItem, "m1".toList)]⟩

def clearedForm : ConfigForm := ⟨"k".toList, [], [], "0.6".toList, "4096".toList, "0.95".toList⟩

theorem loadAIConfig_stale_model :
    ∃ config saved, handleSave textNumbers clearedForm staleStorage = .ok (config, saved) ∧
      config.model = none ∧
      ∃ loaded, (loadAIConfig textNumbers none none [] saved).1 = some loaded ∧
        loaded.model = some "m1".toList := by
  obtain ⟨loaded, hload, -, -, hmodel⟩ :=
    loadAIConfig_handleSave textNumbers none [] clearedForm staleStorage rfl
  exact ⟨_, _, rfl, rfl, loaded, hload, hmodel⟩

theorem configRun_model_cleared :
    truthyText (staleStorage.getItem modelItem) ∧
      truthyText ((configRun textNumbers none none [] staleStorage
        [.save clearedForm, .load, .save clearedForm]).getItem modelItem) :=
  ⟨rfl, configRun_model textNumbers none none [] _ staleStorage rfl⟩

end Focalboard.Ai

import ScriptBridge.Proofs.Bridge.Settings
import ScriptBridge.Proofs.Script.Forgetting
import ScriptBridge.Proofs.Table

/-! # What a script finds

A request that begins is given its symbols one after the other, on top of those that it started with,
and some of them only if the request or the environment has something to give. What the engine holds
in the end is nevertheless a function of the request, the environment and the configuration alone:
each symbol is said here by itself, and whatever went on before leaves no trace.
-/

namespace ScriptBridge

namespace Seeder

variable (seeder : Seeder) (request : Request) (env : Environment)

/-- The fields of what stands behind the first question mark of the URI. -/
def queryFields : Value :=
  match Text.cutFirst? '?' request.uri with
  | some (_, query) => Form.decode (utf8 query)
  | none => .emptyMap

def cookieFields : Value :=
  match env.get? seeder.config.cookieEnv with
  | some header => .ofTexts (Cookie.parse header)
  | none => .emptyMap

/-- Whether the content type that counts speaks of JSON. -/
def SpeaksOfJson : Prop :=
  ∃ given, seeder.contentType request env = some given ∧ Text.hasPart "json" given = true

instance : Decidable (seeder.SpeaksOfJson request env) :=
  match given : seeder.contentType request env with
  | some type =>
    decidable_of_iff (Text.hasPart "json" type = true) (by simp [SpeaksOfJson, given])
  | none => isFalse (by simp [SpeaksOfJson, given])

/-- A body is a form unless it is JSON, and what three methods send is always read as one. -/
def HasForm : Prop :=
  ¬ seeder.SpeaksOfJson request env ∨ request.method ∈ ["POST", "PUT", "PATCH"]

instance : Decidable (seeder.HasForm request env) :=
  inferInstanceAs (Decidable (_ ∨ _))

def postFields : Value :=
  match request.body with
  | some body => if seeder.HasForm request env then Form.decode body else .emptyMap
  | none => .emptyMap

/-- The symbols that the script of a request finds. -/
def symbols (now : Int64) : Table Value :=
  .ofPairs ([(Symbol.server, .map (serverInfo request seeder.constants now)),
    (Symbol.cookie, seeder.cookieFields env), (Symbol.post, seeder.postFields request env),
    (Symbol.get, queryFields request)] ++
    if seeder.config.exposeEnv then [(Symbol.env, .ofTexts env.vars)] else [])

variable {seeder request env}

theorem normalize_contentType :
    MediaType.normalize (seeder.contentType request env) =
      if seeder.SpeaksOfJson request env then MediaType.json else MediaType.form := by
  cases given : seeder.contentType request env with
  | none => simp [MediaType.normalize, SpeaksOfJson, given]
  | some type => simp [MediaType.normalize, SpeaksOfJson, given]

theorem readsForm_iff :
    MediaType.readsForm (MediaType.normalize (seeder.contentType request env)) request.method =
        true ↔ seeder.HasForm request env := by
  have form : Text.hasPart MediaType.form MediaType.form = true := by decide +kernel
  have json : Text.hasPart MediaType.form MediaType.json = false := by decide +kernel
  rw [normalize_contentType]
  by_cases speaks : seeder.SpeaksOfJson request env
  · simp [MediaType.readsForm, HasForm, speaks, json, or_assoc]
  · simp [MediaType.readsForm, HasForm, speaks, form]

/-- Puts in what there is for a key, if there is anything. -/
def offer {α : Type} (key : String) (gift : Option α) (table : Table α) : Table α :=
  match gift with
  | some a => Table.insert key a table
  | none => table

theorem get?_offer {α : Type} (key name : String) (gift : Option α) (table : Table α) :
    Table.get? name (offer key gift table) =
      if key = name then gift.or (Table.get? name table) else Table.get? name table := by
  cases gift with
  | none => simp [offer]
  | some a => simp [offer, Table.get?_insert]

theorem ordered_offer {α : Type} {table : Table α} (ordered : Table.Ordered table) (key : String)
    (gift : Option α) : Table.Ordered (offer key gift table) := by
  cases gift with
  | none => exact ordered
  | some a => exact ordered.insert key a

variable (seeder request env)

/-- What there is to give for the query: nothing if it is empty. -/
def queryGift : Option Value :=
  if request.query.isEmpty then none else some (Form.decode (utf8 request.query))

def cookieGift : Option Value :=
  (env.get? seeder.config.cookieEnv).map fun header => .ofTexts (Cookie.parse header)

def formGift : Option Value :=
  request.body.bind fun body =>
    if seeder.HasForm request env then some (Form.decode body) else none

def environmentGift : Option Value :=
  if seeder.config.exposeEnv then some (.ofTexts env.vars) else none

/-- The symbols of a request, with all that there is for them. -/
def enrich (now : Int64) (table : Table Value) : Table Value :=
  let table := offer Symbol.get (queryGift request) table
  let table := Table.insert Symbol.server (.map (serverInfo request seeder.constants now)) table
  let table := offer Symbol.cookie (seeder.cookieGift env) table
  let table := offer Symbol.post (seeder.formGift request env) table
  offer Symbol.env (seeder.environmentGift env) table

section

variable (engine : Script.Engine)

theorem giveQuery_eq :
    giveQuery request engine =
      { engine with symbols := offer Symbol.get (queryGift request) engine.symbols } := by
  simp only [giveQuery, queryGift]
  split <;> rfl

theorem giveCookies_eq :
    seeder.giveCookies env engine =
      { engine with symbols := offer Symbol.cookie (seeder.cookieGift env) engine.symbols } := by
  simp only [giveCookies, cookieGift]
  cases env.get? seeder.config.cookieEnv <;> rfl

theorem giveBody_eq :
    seeder.giveBody request env engine = { engine with
      symbols := offer Symbol.post (seeder.formGift request env) engine.symbols
      body := request.body.getD engine.body } := by
  simp only [giveBody, formGift]
  cases request.body with
  | none => rfl
  | some body =>
      simp only [readsForm_iff, Option.bind_some]
      split <;> rfl

theorem giveEnvironment_eq :
    seeder.giveEnvironment env engine =
      { engine with symbols := offer Symbol.env (seeder.environmentGift env) engine.symbols } := by
  simp only [giveEnvironment, environmentGift]
  split <;> rfl

theorem give_eq (now : Int64) :
    seeder.give now request env engine = { engine with
      symbols := seeder.enrich request env now engine.symbols
      body := request.body.getD engine.body
      outlet := { engine.outlet with exposed := true } } := by
  simp only [give, giveQuery_eq, giveCookies_eq, giveBody_eq, giveEnvironment_eq]
  rfl

end

theorem queryFields_eq : queryFields request = (queryGift request).getD .emptyMap := by
  have empty : Form.decode (utf8 "") = .emptyMap := by rfl
  have query : queryFields request = Form.decode (utf8 request.query) := by
    simp only [queryFields, Request.query]
    rcases Text.cutFirst? '?' request.uri with _ | ⟨before, query⟩
    · exact empty.symm
    · rfl
  rw [query, queryGift]
  split
  · next none => rw [String.isEmpty_iff.mp none, empty]; rfl
  · rfl

theorem cookieFields_eq : seeder.cookieFields env = (seeder.cookieGift env).getD .emptyMap := by
  simp only [cookieFields, cookieGift]
  cases env.get? seeder.config.cookieEnv <;> rfl

theorem postFields_eq :
    seeder.postFields request env = (seeder.formGift request env).getD .emptyMap := by
  simp only [postFields, formGift]
  cases request.body with
  | none => rfl
  | some body =>
      simp only [Option.bind_some]
      split <;> rfl

theorem symbols_eq (now : Int64) :
    seeder.symbols request env now = offer Symbol.env (seeder.environmentGift env)
      (.ofPairs [(Symbol.server, .map (serverInfo request seeder.constants now)),
        (Symbol.cookie, seeder.cookieFields env), (Symbol.post, seeder.postFields request env),
        (Symbol.get, queryFields request)]) := by
  simp only [symbols, environmentGift, Table.ofPairs, Table.insertAll_append]
  split <;> rfl

/-- The symbols that the script finds, if the request was declared with the cookies of the
    environment. -/
theorem enrich_requestSymbols (now : Int64) {info : RequestInfo}
    (cookie : info.cookie = env.get? seeder.config.cookieEnv) :
    seeder.enrich request env now (Script.Engine.requestSymbols (some info)) =
      seeder.symbols request env now := by
  have started : Table.Ordered (Script.Engine.requestSymbols (some info)) :=
    Table.ordered_ofPairs _
  have ordered : Table.Ordered
      (seeder.enrich request env now (Script.Engine.requestSymbols (some info))) :=
    ordered_offer (ordered_offer (ordered_offer
      ((ordered_offer started _ _).insert _ _) _ _) _ _) _ _
  have declared : Script.Engine.requestSymbols (some info) =
      .ofPairs [(Symbol.server, .emptyMap), (Symbol.cookie, seeder.cookieFields env),
        (Symbol.post, .emptyMap), (Symbol.get, .emptyMap)] := by
    cases found : env.get? seeder.config.cookieEnv <;>
      simp only [Script.Engine.requestSymbols, Option.bind_some, cookie, cookieFields, found]
  refine ordered.ext (Table.ordered_ofPairs _) fun name => ?_
  -- A gift counts, and where there is none, what the request started with is the same.
  rw [symbols_eq, declared]
  simp only [enrich, get?_offer, Table.ofPairs, Table.insertAll, List.foldl_cons, List.foldl_nil,
    Table.get?_insert, Table.get?_empty, cookieFields_eq, postFields_eq, queryFields_eq]
  by_cases known : name ∈ [Symbol.env, Symbol.post, Symbol.cookie, Symbol.server, Symbol.get]
  · simp only [List.mem_cons, List.not_mem_nil, or_false] at known
    rcases known with rfl | rfl | rfl | rfl | rfl
    all_goals simp [Symbol.env, Symbol.post, Symbol.cookie, Symbol.server, Symbol.get]
    cases seeder.cookieGift env <;> rfl
  · simp only [List.mem_cons, List.not_mem_nil, or_false, not_or] at known
    simp [Ne.symm known.1, Ne.symm known.2.1, Ne.symm known.2.2.1, Ne.symm known.2.2.2.1,
      Ne.symm known.2.2.2.2]

/-- An engine without compiled scripts that was started with some settings and serves a request. -/
def serving (limits : Script.Limits) (settings : Script.Settings) (now : Int64) : Script.Engine :=
  { Script.Engine.warm limits settings with
    outlet := { Script.Outlet.new limits.maxOutputSize with exposed := true }
    request := some (seeder.info request env)
    body := request.body.getD []
    symbols := seeder.symbols request env now
    active := true }

/-- Whatever it served before, an idle engine is led to the same by seeding a request, up to its
    compiled scripts and the modules that were imported. -/
theorem seed_of_idle {limits : Script.Limits} {ini : Table String} {directory : Directory}
    {engine : Script.Engine}
    (idle : Script.Engine.Shaped limits ini directory (.idle .requests) engine) (now : Int64) :
    ∃ settings, Script.Settings.ofTable ini = .ok settings ∧
      seeder.seed now request env engine = (.ok (), {
        seeder.serving request env limits settings now with
          cache := engine.cache
          modules := engine.modules
          hits := engine.hits
          misses := engine.misses }) := by
  obtain ⟨settings, isSettings, eq⟩ := idle.shape
  refine ⟨settings, isSettings, ?_⟩
  have cookie : (seeder.info request env).cookie = env.get? seeder.config.cookieEnv := rfl
  have symbols := seeder.enrich_requestSymbols request env now cookie
  cases engine
  simp only [Script.Engine.base, Script.Engine.core, Script.Engine.warm, Script.Engine.new,
    Script.Engine.mk.injEq] at eq
  obtain ⟨rfl, rfl, rfl, rfl, rfl, -, rfl, rfl, rfl, -⟩ := eq
  simp only [seed, Interpreter.declare, Interpreter.requestStartup, Script.Engine.requestStartup,
    if_true, give_eq, symbols]
  rfl

end Seeder

namespace Bridge

variable {config : Config} {limits : Script.Limits} {bridge begun : Bridge Script.Engine}

theorem endRequest_warmUp_frame (bridge : Bridge Script.Engine) :
    ∃ interpreter state, bridge.endRequest.warmUp.2 = { bridge with interpreter, state } ∧
      interpreter.cache = bridge.interpreter.cache := by
  have ended : ∃ interpreter, bridge.endRequest = { bridge with interpreter } ∧
      interpreter.cache = bridge.interpreter.cache := by
    simp only [endRequest]
    split
    · exact ⟨_, rfl, rfl⟩
    · exact ⟨_, rfl, rfl⟩
  obtain ⟨idle, eq, cache⟩ := ended
  rw [eq]
  have kept := Script.Engine.cache_startup ⟨[], bridge.ini⟩ idle
  simp only [warmUp]
  split
  · exact ⟨idle, bridge.state, rfl, cache⟩
  · rcases called : Interpreter.startup ⟨[], bridge.ini⟩ idle with ⟨result, started⟩
    rw [show idle.startup ⟨[], bridge.ini⟩ = (result, started) from called] at kept
    cases result with
    | error fault => exact ⟨started, _, rfl, kept.trans cache⟩
    | ok => exact ⟨started, _, rfl, kept.trans cache⟩

/-- The engine of a request that began serves this request and no other, whatever the bridge went
    through. -/
theorem Rests.eq_of_begins
    (rests : bridge.Rests config (Script.Engine.Shaped limits config.interpreter.ini))
    {host : Surroundings} {request : Request} {script : Option String}
    (begins : bridge.beginRequest host request script = (.ok (), begun)) :
    ∃ settings hits misses, Script.Settings.ofTable config.interpreter.ini = .ok settings ∧
      let env := bridge.seeder.exportEnvironment request script bridge.env
      let engine := bridge.seeder.serving request env limits settings host.now
      begun = { bridge with
        interpreter := { engine with
          cache := bridge.interpreter.cache
          modules := bridge.interpreter.modules
          hits
          misses }
        env
        capture := bridge.capture.reset.openStdout
        state := .seeding } := by
  have warm := rests.endRequest_warmUp
    (Script.Engine.shaped_phaseInvariant limits config.interpreter.ini)
  obtain ⟨idle, state, ready, cache⟩ := endRequest_warmUp_frame bridge
  have modules := kept_warmUp (Script.Engine.forgetful limits config.interpreter.ini host) bridge
  simp only [Bridge.beginRequest] at begins
  rcases called : bridge.endRequest.warmUp with ⟨result, next⟩
  rw [called] at warm ready begins modules
  obtain rfl : next = { bridge with interpreter := idle, state } := ready
  cases result with
  | error fault => simp at begins
  | ok =>
      obtain ⟨settings, isSettings, seeded⟩ := bridge.seeder.seed_of_idle request
        (bridge.seeder.exportEnvironment request script bridge.env) warm.interpreter host.now
      simp only [Bridge.seed, seeded] at begins
      obtain rfl := (Prod.mk.inj begins).2
      exact ⟨settings, idle.hits, idle.misses, isSettings, by rw [← cache, ← modules]⟩

end Bridge

end ScriptBridge

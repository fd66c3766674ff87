import Mathlib
import ScriptBridge.Proofs.Bridge.Splitting
import ScriptBridge.Proofs.Bridge.Visibility
import ScriptBridge.Proofs.Cookie
import ScriptBridge.Proofs.Server.Handling

/-! # Cookies that come back

A service gives the cookies of earlier responses to the requests that bring none. They go through a
header, a variable of the environment and the reader of cookies, and arrive as they were in the jar.
Only the variable cannot carry all of them: it holds no NUL, and then none of the cookies arrives.
-/

namespace ScriptBridge

open Environment (lastValue?)

namespace Script.Engine

/-- The cookies that a script finds for a header. -/
def cookiesOf (header : Option String) : Value :=
  match header with
  | some header => .ofTexts (Cookie.parse header)
  | none => .emptyMap

theorem symbol?_setSymbol (name other : String) (value : Value) (engine : Engine) :
    (engine.setSymbol name value).symbol? other =
      if name = other then some value else engine.symbol? other :=
  Table.get?_insert name other value engine.symbols

theorem cookie_requestSymbols (request : Option RequestInfo) :
    Table.get? Symbol.cookie (requestSymbols request) =
      some (cookiesOf (request.bind (·.cookie))) := by
  simp only [requestSymbols, Table.ofPairs, Table.insertAll, List.foldl_cons, List.foldl_nil,
    Table.get?_insert]
  cases request.bind (·.cookie) <;> rfl

theorem cookie_giveQuery (request : Request) (engine : Engine) :
    (Seeder.giveQuery request engine).symbol? Symbol.cookie = engine.symbol? Symbol.cookie := by
  simp only [Seeder.giveQuery]
  split
  · rfl
  · exact symbol?_setSymbol _ _ _ _

theorem cookie_giveBody (seeder : Seeder) (request : Request) (env : Environment)
    (engine : Engine) :
    (seeder.giveBody request env engine).symbol? Symbol.cookie = engine.symbol? Symbol.cookie := by
  simp only [Seeder.giveBody]
  split
  · rfl
  · split
    · exact symbol?_setSymbol _ _ _ _
    · rfl

theorem cookie_giveEnvironment (seeder : Seeder) (env : Environment) (engine : Engine) :
    (seeder.giveEnvironment env engine).symbol? Symbol.cookie = engine.symbol? Symbol.cookie := by
  simp only [Seeder.giveEnvironment]
  split
  · exact symbol?_setSymbol _ _ _ _
  · rfl

theorem cookie_give (seeder : Seeder) (now : Int64) (request : Request) (env : Environment)
    (engine : Engine) :
    (seeder.give now request env engine).symbol? Symbol.cookie =
      match env.get? seeder.config.cookieEnv with
      | some header => some (cookiesOf (some header))
      | none => engine.symbol? Symbol.cookie := by
  have served : ((Seeder.giveQuery request engine).setSymbol Symbol.server
      (.map (serverInfo request seeder.constants now))).symbol? Symbol.cookie =
        engine.symbol? Symbol.cookie := by
    rw [symbol?_setSymbol, cookie_giveQuery]
    rfl
  calc (seeder.give now request env engine).symbol? Symbol.cookie
    _ = (seeder.giveCookies env ((Seeder.giveQuery request engine).setSymbol Symbol.server
          (.map (serverInfo request seeder.constants now)))).symbol? Symbol.cookie :=
        (cookie_giveEnvironment _ _ _).trans (cookie_giveBody _ _ _ _)
    _ = _ := by
        simp only [Seeder.giveCookies]
        split
        · next absent =>
            rw [absent]
            exact served
        · next header found =>
            rw [found]
            exact symbol?_setSymbol _ _ _ _

theorem cookie_seed {engine : Engine} (started : engine.started = true) (seeder : Seeder)
    (now : Int64) (request : Request) (env : Environment) :
    ∃ ready, seeder.seed now request env engine = (.ok (), ready) ∧
      ready.symbol? Symbol.cookie = some (cookiesOf (env.get? seeder.config.cookieEnv)) := by
  refine ⟨_, by simp only [Seeder.seed, Interpreter.requestStartup, Interpreter.declare,
    requestStartup, started, if_true]; rfl, ?_⟩
  rw [cookie_give]
  cases named : env.get? seeder.config.cookieEnv with
  | some header => rfl
  | none =>
      refine (cookie_requestSymbols _).trans ?_
      simp [Seeder.info, RequestInfo.declare, named]

end Script.Engine

namespace Bridge

theorem exists_begun_of_readable {bridge : Bridge Script.Engine} {settings : Script.Settings}
    (readable : Script.Settings.ofTable bridge.ini = .ok settings) (host : Surroundings)
    (request : Request) (script : Option String) :
    ∃ ready, bridge.beginRequest host request script = (.ok (), ready) ∧
      ready.interpreter.symbol? Symbol.cookie =
        some (Script.Engine.cookiesOf (ready.env.get? bridge.seeder.config.cookieEnv)) := by
  have keepsake : bridge.endRequest.warmUp.2.keepsake = bridge.keepsake := by simp
  have ini : bridge.endRequest.ini = bridge.ini :=
    congrArg (fun kept => kept.2.1) (keepsake_endRequest bridge)
  obtain ⟨warm, warmed, started⟩ : ∃ warm, bridge.endRequest.warmUp = (.ok (), warm) ∧
      warm.interpreter.started = true := by
    by_cases up : bridge.endRequest.started = true
    · exact ⟨_, warmUp_of_started up, up⟩
    · have down : bridge.endRequest.started = false := by simpa using up
      have idle : bridge.endRequest.interpreter.started = false := down
      simp only [Bridge.warmUp, down, Interpreter.startup, Script.Engine.startup, idle, ini,
        readable]
      exact ⟨_, rfl, rfl⟩
  rw [warmed] at keepsake
  have seeder : warm.seeder = bridge.seeder := congrArg Prod.fst keepsake
  obtain ⟨engine, seeded, cookies⟩ := Script.Engine.cookie_seed started warm.seeder host.now request
    (warm.seeder.exportEnvironment request script warm.env)
  rw [← seeder]
  simp only [Bridge.beginRequest, warmed, Bridge.seed, seeded]
  refine ⟨_, rfl, ?_⟩
  rw [cookies]

end Bridge

theorem eq_cookie_of_headerVariable {name : String} (lower : Text.lowerAscii name = name)
    (same : Bridge.headerVariable name = "HTTP_COOKIE") : name = "cookie" := by
  have chars : name.toList.map (fun c => if c == '-' then '_' else c.toUpper) =
      "COOKIE".toList := by
    have eq := congrArg String.toList same
    simpa [Bridge.headerVariable] using eq
  have dashless : '-' ∉ name.toList := by
    intro member
    have mapped := List.mem_map_of_mem (f := fun c => if c == '-' then '_' else c.toUpper) member
    rw [chars] at mapped
    exact absurd mapped (by decide)
  have lowered : name.toList.map Char.toLower = name.toList := by
    have eq := congrArg String.toList lower
    simpa [Text.lowerAscii] using eq
  apply String.toList_inj.mp
  calc name.toList
    _ = name.toList.map Char.toLower := lowered.symm
    _ = (name.toList.map fun c => if c == '-' then '_' else c.toUpper).map Char.toLower := by
        rw [List.map_map]
        refine List.map_congr_left fun c member => ?_
        have other : c ≠ '-' := fun eq => dashless (eq ▸ member)
        simp [other]
    _ = "cookie".toList := by
        rw [chars]
        decide

namespace Incoming

/-- Whether the names of the headers are in lower case, as a connection delivers them. -/
def LowerCased (incoming : Incoming) : Prop :=
  ∀ header ∈ incoming.headers, Text.lowerAscii header.1 = header.1

theorem mem_of_mem_plainHeaders {incoming : Incoming} {header : String × String}
    (member : header ∈ incoming.plainHeaders) :
    ∃ value, (header.1, value) ∈ incoming.headers := by
  obtain ⟨⟨name, value⟩, grouped, plain⟩ := List.mem_filterMap.mp member
  obtain ⟨_, -, filtered⟩ := List.mem_flatMap.mp grouped
  obtain ⟨text, -, rfl⟩ := Option.map_eq_some_iff.mp plain
  exact ⟨value, (List.mem_filter.mp filtered).1⟩

end Incoming

namespace Service

/-- What the worker of a service does for a request. -/
def errand (host : Surroundings) (incoming : Incoming) (service : Service) : Errand :=
  ⟨host, incoming.plainHeaders ++ service.replayed incoming, incoming.request, service.script⟩

theorem job_of_fits {service : Service} {incoming : Incoming}
    (fits : incoming.body.length ≤ service.maxBodySize) (host : Surroundings) :
    service.job incoming = .ok (service.errand host incoming).job := by
  rw [job, if_neg (Nat.not_lt.mpr fits)]
  rfl

theorem job_cases (host : Surroundings) (incoming : Incoming) (service : Service) :
    service.job incoming = .ok (service.errand host incoming).job ∨
      ∃ fault, service.job incoming = .error fault := by
  by_cases fits : incoming.body.length ≤ service.maxBodySize
  · exact Or.inl (job_of_fits fits host)
  · rw [job, if_pos (Nat.not_le.mp fits)]
    exact Or.inr ⟨_, rfl⟩

theorem receive_spec (output : Bytes) (service : Service) :
    ∃ texts, (service.receive output).2 =
      { service with cookies := service.cookies.storeAll texts } := by
  cases read : Message.parse output with
  | error fault => exact ⟨[], by simp only [receive, read]; rfl⟩
  | ok message =>
      simp only [receive, read, keepCookies]
      split
      · exact ⟨_, rfl⟩
      · exact ⟨[], rfl⟩

theorem lastValue?_cookie {service : Service} {incoming : Incoming}
    (replays : service.replayCookies = true) (lower : incoming.LowerCased)
    (bare : incoming.has "cookie" = false) (host : Surroundings) :
    lastValue? "HTTP_COOKIE" (service.errand host incoming).exported =
      service.cookies.header?.filter Environment.isValue := by
  have own : lastValue? "HTTP_COOKIE" (incoming.plainHeaders.filterMap Bridge.exportable?) =
      none := by
    rw [Environment.lastValue?_eq_none_iff]
    intro member
    obtain ⟨entry, exported, named⟩ := List.mem_map.mp member
    obtain ⟨header, plain, eq⟩ := List.mem_filterMap.mp exported
    simp only [Bridge.exportable?] at eq
    split at eq
    · obtain rfl := Option.some.inj eq
      obtain ⟨value, brought⟩ := Incoming.mem_of_mem_plainHeaders plain
      have cookie := eq_cookie_of_headerVariable (lower _ brought) named
      have has : incoming.has "cookie" = true :=
        List.any_eq_true.mpr ⟨_, brought, by simpa using cookie⟩
      exact absurd has (by simp [bare])
    · simp at eq
  have exportedAs : Bridge.headerVariable "cookie" = "HTTP_COOKIE" := by decide +kernel
  have name : Environment.isName "HTTP_COOKIE" = true := by decide +kernel
  rw [Errand.exported, errand, List.filterMap_append, Environment.lastValue?_append, own,
    Option.or_none, replayed, replays, bare]
  cases header : service.cookies.header? with
  | none => rfl
  | some value =>
      by_cases storable : Environment.isValue value = true
      · simp [Bridge.exportable?, exportedAs, Environment.isStorable, name, storable, lastValue?,
          Option.filter]
      · simp [Bridge.exportable?, exportedAs, Environment.isStorable, name, storable, lastValue?,
          Option.filter]

end Service

namespace CookieJar

open Script.Engine (cookiesOf)

theorem ofTexts_eq_emptyMap {table : Table String} :
    Value.ofTexts table = .emptyMap ↔ table = [] := by
  simp [Value.ofTexts, Value.emptyMap]

/-- No cookies arrive if one of them holds a NUL. -/
theorem cookiesOf_header_of_nul {jar : CookieJar} (nul : ¬ jar.Storable) :
    cookiesOf (jar.header?.filter Environment.isValue) = .emptyMap := by
  cases sent : jar.header? with
  | none => rfl
  | some header =>
      have refused : ¬ Environment.isValue header = true := fun storable =>
        nul ((isValue_header_iff sent).mp storable)
      simp [Option.filter, refused, cookiesOf]

theorem Sound.cookiesOf_header_iff {jar : CookieJar} (sound : jar.Sound) :
    cookiesOf (jar.header?.filter Environment.isValue) = .ofTexts jar.cookies ↔ jar.Storable := by
  by_cases storable : jar.Storable
  · simp only [storable, iff_true]
    cases sent : jar.header? with
    | none =>
        have empty : jar.cookies = [] := by simpa [header?] using sent
        rw [empty]
        rfl
    | some header =>
        have held := (isValue_header_iff sent).mpr storable
        simp [Option.filter, held, cookiesOf, sound.parse_header sent]
  · simp only [storable, iff_false, cookiesOf_header_of_nul storable]
    intro same
    refine storable fun cookie member => ?_
    rw [ofTexts_eq_emptyMap.mp same.symm] at member
    exact absurd member List.not_mem_nil

end CookieJar

namespace Traffic

/-- Traffic of a service that was set up by a configuration, between two requests. -/
structure Tended {σ : Type} (config : Config) (before : Environment) (traffic : Traffic σ) :
    Prop where
  quiet : traffic.worker.Quiet
  kept : ∃ seen, Errand.Kept config before seen traffic.worker.bridge
  service : ∃ jar, traffic.service = { Service.ofConfig config.serve with cookies := jar }
  sound : traffic.service.cookies.Sound

/-- The traffic of a configured service, over a new engine and a queue of some depth. -/
def start (config : Config) (limits : Script.Limits) (before : Environment) (depth : Nat) :
    Traffic Script.Engine :=
  new (.ofConfig config.serve)
    (.spawn (Bridge.new config (Script.Engine.new limits) before) depth)

variable {config : Config} {before : Environment} {traffic : Traffic Script.Engine}

theorem tended_start (config : Config) (limits : Script.Limits) (before : Environment)
    (depth : Nat) : (start config limits before depth).Tended config before where
  quiet := Worker.quiet_spawn _ _
  kept := ⟨[], Errand.kept_new _ _ _⟩
  service := ⟨_, rfl⟩
  sound := CookieJar.sound_empty

theorem Tended.handle (tended : traffic.Tended config before) (host : Surroundings)
    (incoming : Incoming) : (traffic.handle host incoming).2.Tended config before := by
  obtain ⟨quiet, ⟨seen, kept⟩, ⟨jar, service⟩, sound⟩ := tended
  rcases traffic.service.job_cases host incoming with made | ⟨fault, refused⟩
  · obtain ⟨again, bridge, received, -⟩ := handle_of_job quiet host made rfl
    obtain ⟨texts, stored⟩ := traffic.service.receive_spec _
    rw [stored] at received
    refine ⟨again, ⟨_, bridge ▸ kept.run _⟩, ?_, ?_⟩
    · rw [received, service]
      exact ⟨_, rfl⟩
    · rw [received]
      exact sound.storeAll texts
  · obtain ⟨-, worker, same⟩ := handle_of_error quiet host refused
    refine ⟨worker ▸ quiet, ⟨seen, worker ▸ kept⟩, same ▸ ⟨jar, service⟩, same ▸ sound⟩

theorem Tended.handleAll (tended : traffic.Tended config before)
    (requests : List (Surroundings × Incoming)) :
    (traffic.handleAll requests).Tended config before := by
  induction requests generalizing traffic with
  | nil => exact tended
  | cons request requests ih => exact ih (tended.handle request.1 request.2)

theorem Tended.exists_ready (tended : traffic.Tended config before) {settings : Script.Settings}
    (readable : Script.Settings.ofTable config.interpreter.ini = .ok settings)
    (host : Surroundings) {incoming : Incoming}
    (fits : incoming.body.length ≤ config.serve.maxBodySize.toNat)
    (valid : incoming.request.validate = .ok ()) :
    ∃ ready, (traffic.service.errand host incoming).ready? traffic.worker.bridge = some ready ∧
      (traffic.handle host incoming).2.worker.bridge =
        ready.executeSeeded host config.serve.script ∧
      ready.interpreter.symbol? Symbol.cookie =
        some (Script.Engine.cookiesOf (ready.env.get? config.request.cookieEnv)) := by
  obtain ⟨quiet, ⟨seen, kept⟩, ⟨jar, service⟩, -⟩ := tended
  have script : traffic.service.script = config.serve.script := by rw [service]; rfl
  have room : incoming.body.length ≤ traffic.service.maxBodySize := by rw [service]; exact fits
  have ini : Script.Settings.ofTable (traffic.worker.bridge.exportRequestHeaders
      (incoming.plainHeaders ++ traffic.service.replayed incoming)).ini = .ok settings :=
    (congrArg Script.Settings.ofTable kept.ini).trans readable
  obtain ⟨ready, begins, given⟩ := Bridge.exists_begun_of_readable ini host incoming.request
    (some traffic.service.script)
  have runs : (traffic.service.errand host incoming).ready? traffic.worker.bridge = some ready := by
    simp only [Service.errand, Errand.ready?, valid, begins]
  have seeder : (traffic.worker.bridge.exportRequestHeaders
      (incoming.plainHeaders ++ traffic.service.replayed incoming)).seeder =
        ⟨config.serverInfo, config.request⟩ := kept.seeder
  rw [seeder] at given
  obtain ⟨-, bridge, -⟩ := handle_of_job quiet host (Service.job_of_fits room host) rfl
  have run := Errand.run_of_ready runs
  refine ⟨ready, runs, ?_, given⟩
  rw [bridge, ← script]
  exact congrArg Prod.snd run

/-- After any requests that were handled one after the other, the script of a request without
    cookies finds the cookies of the jar, just if no NUL is in them; and else it finds none. -/
theorem cookies_arrive_iff (config : Config) (limits : Script.Limits) (before : Environment)
    (depth : Nat) {settings : Script.Settings}
    (readable : Script.Settings.ofTable config.interpreter.ini = .ok settings)
    (replays : config.serve.replayCookies = true)
    (named : config.request.cookieEnv = "HTTP_COOKIE")
    (unset : before.get? "HTTP_COOKIE" = none)
    (unconfigured : lastValue? "HTTP_COOKIE" config.request.exports = none)
    (earlier : List (Surroundings × Incoming)) (host : Surroundings) {incoming : Incoming}
    (lower : incoming.LowerCased) (bare : incoming.has "cookie" = false)
    (fits : incoming.body.length ≤ config.serve.maxBodySize.toNat)
    (valid : incoming.request.validate = .ok ()) :
    let traffic := (start config limits before depth).handleAll earlier
    let jar := traffic.service.cookies
    ∃ ready, (traffic.service.errand host incoming).ready? traffic.worker.bridge = some ready ∧
      (traffic.handle host incoming).2.worker.bridge =
        ready.executeSeeded host config.serve.script ∧
      (ready.interpreter.symbol? Symbol.cookie = some (.ofTexts jar.cookies) ↔ jar.Storable) ∧
      (¬ jar.Storable → ready.interpreter.symbol? Symbol.cookie = some .emptyMap) := by
  intro traffic jar
  have tended : traffic.Tended config before :=
    (tended_start config limits before depth).handleAll earlier
  obtain ⟨ready, runs, done, given⟩ := tended.exists_ready readable host fits valid
  obtain ⟨-, ⟨seen, kept⟩, ⟨cookies, service⟩, sound⟩ := tended
  have replaying : traffic.service.replayCookies = true := by rw [service]; exact replays
  have free : Errand.IsFree config "HTTP_COOKIE" := ⟨unconfigured, fun errand => by
    simp [Errand.spoken?]⟩
  have held : ready.env.get? "HTTP_COOKIE" = jar.header?.filter Environment.isValue := by
    rw [kept.get?_ready runs free, Service.lastValue?_cookie replaying lower bare, unset]
    simp [jar]
  rw [named, held] at given
  refine ⟨ready, runs, done, ?_, fun nul => ?_⟩
  · rw [given, Option.some.injEq, sound.cookiesOf_header_iff]
  · rw [given, jar.cookiesOf_header_of_nul nul]

/-- A service that answers with one script and gives cookies back. -/
def replayingConfig (script : String) : Config :=
  { Config.standard with
    serve := { Config.standard.serve with script := script, replayCookies := true } }

/-- A request for a target, with no headers but the one that names the host. -/
def visit (target : String) : Incoming :=
  ⟨"GET", target, [("host", utf8 "localhost")], []⟩

theorem lowerCased_visit (target : String) : (visit target).LowerCased := by
  intro header member
  obtain rfl := List.mem_singleton.mp member
  decide +kernel

/-- Two visits, where the answer to the first sets a cookie. -/
theorem cookies_arrive_of_plain_cookie :
    let config := replayingConfig "s.rhai"
    let host := Bridge.hostOf "s.rhai" "header(\"Set-Cookie: sid=1\");"
    Script.Settings.ofTable config.interpreter.ini = .ok .standard ∧
      config.serve.replayCookies = true ∧ config.request.cookieEnv = "HTTP_COOKIE" ∧
      (Environment.recording []).get? "HTTP_COOKIE" = none ∧
      lastValue? "HTTP_COOKIE" config.request.exports = none ∧ (visit "/").LowerCased ∧
      (visit "/").has "cookie" = false ∧
      (visit "/").body.length ≤ config.serve.maxBodySize.toNat ∧
      (visit "/").request.validate = .ok () ∧
      ∃ traffic ready,
        traffic = (start config .standard (.recording []) 1).handleAll [(host, visit "/")] ∧
        traffic.service.cookies.cookies = [("sid", "1")] ∧
        (traffic.service.errand host (visit "/")).ready? traffic.worker.bridge = some ready ∧
        ready.interpreter.symbol? Symbol.cookie = some (.ofTexts [("sid", "1")]) := by
  intro config host
  have readable : Script.Settings.ofTable config.interpreter.ini = .ok .standard := rfl
  have unset : (Environment.recording []).get? "HTTP_COOKIE" = none := rfl
  have unconfigured : lastValue? "HTTP_COOKIE" config.request.exports = none := by decide +kernel
  have bare : (visit "/").has "cookie" = false := by decide +kernel
  have fits : (visit "/").body.length ≤ config.serve.maxBodySize.toNat := by decide +kernel
  have valid : (visit "/").request.validate = .ok () :=
    Request.validate_eq_ok_iff.mpr (by decide +kernel)
  have arrives := cookies_arrive_iff config .standard (.recording []) 1 readable rfl rfl unset
    unconfigured [(host, visit "/")] host (lowerCased_visit "/") bare fits valid
  have held : ((start config .standard (.recording []) 1).handleAll
      [(host, visit "/")]).service.cookies.cookies = [("sid", "1")] := by decide +kernel
  generalize (start config .standard (.recording []) 1).handleAll [(host, visit "/")] =
    traffic at arrives held ⊢
  have storable : traffic.service.cookies.Storable := by
    rw [CookieJar.Storable, held]
    decide
  obtain ⟨ready, runs, -, found, -⟩ := arrives
  have cookies := found.mpr storable
  rw [held] at cookies
  exact ⟨readable, rfl, rfl, unset, unconfigured, lowerCased_visit "/", bare, fits, valid,
    traffic, ready, rfl, held, runs, cookies⟩

/-- The cookie of the second visit takes that of the first away from the third. -/
theorem cookies_lost_of_nul :
    let config := replayingConfig "s.rhai"
    let host := Bridge.hostOf "s.rhai" "header(\"Set-Cookie: \" + _GET[\"c\"]);"
    ∃ traffic ready,
      traffic = (start config .standard (.recording []) 1).handleAll
        [(host, visit "/?c=sid=1"), (host, visit "/?c=a=%00b")] ∧
      traffic.service.cookies.cookies = [("a", "\x00b"), ("sid", "1")] ∧
      (traffic.service.errand host (visit "/")).ready? traffic.worker.bridge = some ready ∧
      ready.interpreter.symbol? Symbol.cookie ≠
        some (.ofTexts traffic.service.cookies.cookies) := by
  intro config host
  have run : ((start config .standard (.recording []) 1).handleAll
        [(host, visit "/?c=sid=1"), (host, visit "/?c=a=%00b")]).service.cookies.cookies =
          [("a", "\x00b"), ("sid", "1")] ∧
      ((((start config .standard (.recording []) 1).handleAll
        [(host, visit "/?c=sid=1"), (host, visit "/?c=a=%00b")]).service.errand host (visit "/")).ready?
        ((start config .standard (.recording []) 1).handleAll
          [(host, visit "/?c=sid=1"), (host, visit "/?c=a=%00b")]).worker.bridge).map (fun ready =>
            ((ready.interpreter.symbol? Symbol.cookie).bind (Value.get? "sid")).isSome) =
        some false := by decide +kernel
  generalize (start config .standard (.recording []) 1).handleAll
    [(host, visit "/?c=sid=1"), (host, visit "/?c=a=%00b")] = traffic at run ⊢
  obtain ⟨held, lost⟩ := run
  obtain ⟨ready, runs, lost⟩ := Option.map_eq_some_iff.mp lost
  refine ⟨traffic, ready, rfl, held, runs, fun same => ?_⟩
  rw [same, held] at lost
  exact absurd lost (by decide +kernel)

end Traffic

end ScriptBridge

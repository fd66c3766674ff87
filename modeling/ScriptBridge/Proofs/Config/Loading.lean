import ScriptBridge.Config.Load
import ScriptBridge.Proofs.Config.Excerpts

/-! # Configurations that are loaded

The tables of a configuration that is read are in the order of their names, in whatever form its
sections are given, and nothing that variables override changes that.
-/

namespace ScriptBridge

open ScriptBridge.Field (Keeps)

theorem Setting.ordered_of_read_texts {lists : ListSections} {doc : Document}
    {table : Table String} (read : Setting.texts.read lists doc = some table) :
    Table.Ordered table := by
  obtain ⟨members, _, rest⟩ := Option.bind_eq_some_iff.mp read
  obtain ⟨pairs, _, same⟩ := Option.bind_eq_some_iff.mp rest
  obtain rfl := Option.some.inj same
  exact Table.ordered_ofPairs pairs

/-- Whether the variables of requests are in the order of their names. -/
def RequestConfig.IsOrdered (config : RequestConfig) : Prop :=
  Table.Ordered config.exports

/-- Whether the tables of commands are in the order of their names. -/
structure CommandConfig.IsOrdered (config : CommandConfig) : Prop where
  env : Table.Ordered config.env
  ini : Table.Ordered config.ini

/-- Whether the table of interpreters is in the order of its names. -/
def InterpreterConfig.IsOrdered (config : InterpreterConfig) : Prop :=
  Table.Ordered config.ini

theorem RequestConfig.keeps_fields :
    ∀ field ∈ RequestConfig.fields, field.Keeps RequestConfig.IsOrdered := by
  simp only [RequestConfig.fields, List.forall_mem_cons]
  exact ⟨.of_apart fun _ _ ordered => ordered, .of_apart fun _ _ ordered => ordered,
    .of (fun _ _ _ => Setting.ordered_of_read_texts) fun _ _ exports _ => exports,
    .of_apart fun _ _ ordered => ordered, by simp⟩

theorem CommandConfig.keeps_fields :
    ∀ field ∈ CommandConfig.fields, field.Keeps CommandConfig.IsOrdered := by
  simp only [CommandConfig.fields, List.forall_mem_cons]
  exact ⟨.of_apart fun _ _ ordered => ⟨ordered.env, ordered.ini⟩,
    .of_apart fun _ _ ordered => ⟨ordered.env, ordered.ini⟩,
    .of_apart fun _ _ ordered => ⟨ordered.env, ordered.ini⟩,
    .of_apart fun _ _ ordered => ⟨ordered.env, ordered.ini⟩,
    .of (fun _ _ _ => Setting.ordered_of_read_texts) fun _ _ env ordered => ⟨env, ordered.ini⟩,
    .of (fun _ _ _ => Setting.ordered_of_read_texts) fun _ _ ini ordered => ⟨ordered.env, ini⟩,
    by simp⟩

theorem InterpreterConfig.keeps_fields :
    ∀ field ∈ InterpreterConfig.fields, field.Keeps InterpreterConfig.IsOrdered := by
  simp only [InterpreterConfig.fields, List.forall_mem_cons]
  exact ⟨.of_apart fun _ _ ordered => ordered, .of_apart fun _ _ ordered => ordered,
    .of_apart fun _ _ ordered => ordered, .of_apart fun _ _ ordered => ordered,
    .of_apart fun _ _ ordered => ordered, .of_apart fun _ _ ordered => ordered,
    .of (fun _ _ _ => Setting.ordered_of_read_texts) fun _ _ ini _ => ini, by simp⟩

theorem RequestConfig.isOrdered_standard : RequestConfig.standard.IsOrdered :=
  Table.ordered_ofPairs _

theorem CommandConfig.isOrdered_standard : CommandConfig.standard.IsOrdered :=
  ⟨Table.ordered_ofPairs _, Table.ordered_ofPairs _⟩

theorem InterpreterConfig.isOrdered_standard : InterpreterConfig.standard.IsOrdered :=
  List.Pairwise.nil

theorem RequestConfig.isOrdered_of_read {lists : ListSections} {doc : Document}
    {config : RequestConfig} (read : RequestConfig.setting.read lists doc = some config) :
    config.IsOrdered :=
  Field.readSection_keeps RequestConfig.keeps_fields RequestConfig.isOrdered_standard read

theorem CommandConfig.isOrdered_of_read {lists : ListSections} {doc : Document}
    {config : CommandConfig} (read : CommandConfig.setting.read lists doc = some config) :
    config.IsOrdered :=
  Field.readSection_keeps CommandConfig.keeps_fields CommandConfig.isOrdered_standard read

theorem InterpreterConfig.isOrdered_of_read {lists : ListSections} {doc : Document}
    {config : InterpreterConfig} (read : InterpreterConfig.setting.read lists doc = some config) :
    config.IsOrdered :=
  Field.readSection_keeps InterpreterConfig.keeps_fields InterpreterConfig.isOrdered_standard read

namespace Config

theorem isOrdered_standard : Config.standard.IsOrdered :=
  ⟨RequestConfig.isOrdered_standard, CommandConfig.isOrdered_standard.env,
    CommandConfig.isOrdered_standard.ini, InterpreterConfig.isOrdered_standard⟩

theorem keeps_fields : ∀ field ∈ Config.fields, field.Keeps Config.IsOrdered := by
  have apart : ∀ {s t : Config}, t.request = s.request → t.command = s.command →
      t.interpreter = s.interpreter → s.IsOrdered → t.IsOrdered := by
    intro s t request command interpreter ordered
    obtain ⟨exports, env, commandIni, interpreterIni⟩ := ordered
    rw [← request] at exports
    rw [← command] at env commandIni
    rw [← interpreter] at interpreterIni
    exact ⟨exports, env, commandIni, interpreterIni⟩
  simp only [Config.fields, List.forall_mem_cons]
  exact ⟨.of_apart fun _ _ => apart rfl rfl rfl, .of_apart fun _ _ => apart rfl rfl rfl,
    .of (fun _ _ _ => RequestConfig.isOrdered_of_read) fun _ _ request ordered =>
      ⟨request, ordered.env, ordered.commandIni, ordered.interpreterIni⟩,
    .of (fun _ _ _ => CommandConfig.isOrdered_of_read) fun _ _ command ordered =>
      ⟨ordered.exports, command.env, command.ini, ordered.interpreterIni⟩,
    .of (fun _ _ _ => InterpreterConfig.isOrdered_of_read) fun _ _ interpreter ordered =>
      ⟨ordered.exports, ordered.env, ordered.commandIni, interpreter⟩,
    .of_apart fun _ _ => apart rfl rfl rfl, .of_apart fun _ _ => apart rfl rfl rfl, by simp⟩

theorem isOrdered_of_read {lists : ListSections} {doc : Document} {config : Config}
    (read : Config.setting.read lists doc = some config) : config.IsOrdered :=
  Field.readSection_keeps keeps_fields isOrdered_standard read

/-- Whether loading can give a configuration: that of a text in one of the formats, that of a file,
    or that which a host works with, with what variables override. -/
inductive Loadable : Config → Prop where
  | text {vars : Table String} {format : ConfigFormat} {s : String} {config : Config}
    (loaded : loadText vars format s = .ok config) : Loadable config
  | file {vars : Table String} {files : FileTree} {workingDir : Location} {path : String}
    {config : Config} (loaded : loadFile vars files workingDir path = .ok config) :
    Loadable config
  | host {vars : Table String} {files : FileTree} {workingDir : Location} {path : Option String}
    {config : Config} (loaded : load vars files workingDir path = .ok config) : Loadable config

variable {vars : Table String} {config : Config}

theorem bind_eq_ok {ε α β : Type} {first : Except ε α} {next : α → Except ε β} {b : β}
    (done : first >>= next = .ok b) : ∃ a, first = .ok a ∧ next a = .ok b := by
  cases first with
  | error fault => contradiction
  | ok a => exact ⟨a, rfl, done⟩

theorem isOrdered_of_loadText {format : ConfigFormat} {s : String}
    (loaded : loadText vars format s = .ok config) : config.IsOrdered := by
  simp only [loadText] at loaded
  split at loaded
  · contradiction
  · simp only [parse] at loaded
    split at loaded
    · obtain rfl := Except.ok.inj loaded
      exact isOrdered_standard
    · split at loaded
      · next read =>
          obtain rfl := Except.ok.inj loaded
          obtain ⟨doc, _, read⟩ := Option.bind_eq_some_iff.mp read
          exact isOrdered_of_read read
      · contradiction

theorem isOrdered_of_loadFile {files : FileTree} {workingDir : Location} {path : String}
    (loaded : loadFile vars files workingDir path = .ok config) : config.IsOrdered := by
  simp only [loadFile] at loaded
  split at loaded
  · contradiction
  · obtain ⟨format, _, read⟩ := bind_eq_ok loaded
    exact isOrdered_of_loadText read

theorem isOrdered_of_overrideListen {before : Config} (ordered : before.IsOrdered)
    (overridden : overrideListen vars before = .ok config) : config.IsOrdered := by
  simp only [overrideListen] at overridden
  split at overridden
  · obtain rfl := Except.ok.inj overridden
    exact ordered
  · obtain ⟨listen, _, same⟩ := bind_eq_ok overridden
    obtain rfl := Except.ok.inj same
    exact ⟨ordered.exports, ordered.env, ordered.commandIni, ordered.interpreterIni⟩

theorem isOrdered_of_overrideMaxBody {before : Config} (ordered : before.IsOrdered)
    (overridden : overrideMaxBody vars before = .ok config) : config.IsOrdered := by
  simp only [overrideMaxBody] at overridden
  split at overridden
  · obtain rfl := Except.ok.inj overridden
    exact ordered
  · obtain ⟨size, _, same⟩ := bind_eq_ok overridden
    obtain rfl := Except.ok.inj same
    exact ⟨ordered.exports, ordered.env, ordered.commandIni, ordered.interpreterIni⟩

theorem isOrdered_of_overrideMaxBuffer {before : Config} (ordered : before.IsOrdered)
    (overridden : overrideMaxBuffer vars before = .ok config) : config.IsOrdered := by
  simp only [overrideMaxBuffer] at overridden
  split at overridden
  · obtain rfl := Except.ok.inj overridden
    exact ordered
  · obtain ⟨size, _, same⟩ := bind_eq_ok overridden
    obtain rfl := Except.ok.inj same
    exact ⟨ordered.exports, ordered.env, ordered.commandIni, ordered.interpreterIni⟩

theorem isOrdered_of_override {before : Config} (ordered : before.IsOrdered)
    (overridden : override vars before = .ok config) : config.IsOrdered := by
  obtain ⟨listening, listen, rest⟩ := bind_eq_ok overridden
  obtain ⟨bounded, body, rest⟩ := bind_eq_ok rest
  obtain ⟨buffered, buffer, rest⟩ := bind_eq_ok rest
  obtain rfl := Except.ok.inj rest
  obtain ⟨exports, env, commandIni, interpreterIni⟩ := isOrdered_of_overrideListen ordered listen
  have scripted : (overrideScript vars listening).IsOrdered := by
    simp only [overrideScript]
    split <;> exact ⟨exports, env, commandIni, interpreterIni⟩
  have sized := isOrdered_of_overrideMaxBuffer (isOrdered_of_overrideMaxBody scripted body) buffer
  simp only [overrideLevel]
  split <;> exact ⟨sized.exports, sized.env, sized.commandIni, sized.interpreterIni⟩

theorem isOrdered_of_load {files : FileTree} {workingDir : Location} {path : Option String}
    (loaded : load vars files workingDir path = .ok config) : config.IsOrdered := by
  have finished : ∀ {before : Config}, before.IsOrdered →
      (override vars before >>= checked) = .ok config → config.IsOrdered := by
    intro before ordered rest
    obtain ⟨overridden, overriding, checking⟩ := bind_eq_ok rest
    simp only [checked] at checking
    split at checking
    · obtain rfl := Except.ok.inj checking
      exact isOrdered_of_override ordered overriding
    · contradiction
  cases path with
  | none => exact finished isOrdered_standard loaded
  | some path =>
      have steps : (loadFile vars files workingDir path >>= fun read =>
          override vars read >>= checked) = .ok config := loaded
      obtain ⟨read, reading, rest⟩ := bind_eq_ok steps
      exact finished (isOrdered_of_loadFile reading) rest

theorem Loadable.isOrdered (loadable : config.Loadable) : config.IsOrdered := by
  cases loadable with
  | text loaded => exact isOrdered_of_loadText loaded
  | file loaded => exact isOrdered_of_loadFile loaded
  | host loaded => exact isOrdered_of_load loaded

end Config

end ScriptBridge

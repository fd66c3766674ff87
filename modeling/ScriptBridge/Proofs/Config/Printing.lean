import ScriptBridge.Proofs.Config.Loading
import ScriptBridge.Proofs.Config.References

/-! # Printed configurations load back

What is printed of a configuration is read as the configuration again, whatever the variables are,
if no reference stands in it. Sections and fields that are deleted from it take their standard
values, and deleting them makes no reference.
-/

namespace ScriptBridge

namespace Json

theorem HasLiteral.of_keepMembers {json : Json} {keep : String → Bool} {s : String}
    (literal : (json.keepMembers keep).HasLiteral s) : json.HasLiteral s := by
  cases json with
  | object members =>
      cases literal with
      | name inside => exact .name (List.mem_filter.mp inside).1
      | member within inside => exact .member (List.mem_filter.mp within).1 inside
  | _ => exact literal

end Json

namespace Config

open Expansion (Refers)

variable {config : Config} (keepSection : String → Bool) (keepField : String → String → Bool)

theorem mem_toJson_of_kept (config : Config) {field : Field Config}
    (kept : field ∈ fields.filter fun field => keepSection field.name) :
    (field.name, field.write config) ∈ fields.map fun field => (field.name, field.write config) :=
  List.mem_map_of_mem (List.mem_filter.mp kept).1

theorem isPlain_excerpt (config : Config) : (config.excerpt keepSection keepField).IsPlain := by
  have whole : (Json.object (fields.map fun field => (field.name, field.write config))).IsPlain :=
    isPlain_toJson config
  rw [excerpt_eq]
  cases whole with
  | object plain =>
      refine .object fun member listed => ?_
      obtain ⟨field, kept, rfl⟩ := List.mem_map.mp listed
      exact (plain _ (mem_toJson_of_kept keepSection config kept)).keepMembers _

theorem hasLiteral_of_excerpt {s : String}
    (literal : (config.excerpt keepSection keepField).HasLiteral s) :
    config.toJson.HasLiteral s := by
  rw [excerpt_eq] at literal
  cases literal with
  | name inside =>
      obtain ⟨field, kept, rfl⟩ := List.mem_map.mp inside
      exact @Json.HasLiteral.name _ (field.name, field.write config)
        (mem_toJson_of_kept keepSection config kept)
  | member within inside =>
      obtain ⟨field, kept, rfl⟩ := List.mem_map.mp within
      exact @Json.HasLiteral.member _ (field.name, field.write config) _
        (mem_toJson_of_kept keepSection config kept) inside.of_keepMembers

theorem not_refers_excerpt (plain : ¬Refers config.render) :
    ¬Refers (config.excerpt keepSection keepField).pretty := fun refers =>
  plain (Json.IsPlain.refers_of_refers (isPlain_excerpt keepSection keepField config)
    (isPlain_toJson config) (fun _ literal => hasLiteral_of_excerpt _ _ literal) refers)

/-- A text without references in which sections and fields are left is loaded as the configuration
    with standard values for the others, however the text is laid out. -/
theorem loadText_of_parse (ordered : config.IsOrdered) {s : String}
    (text : Json.parse? s = some (config.excerpt keepSection keepField)) (plain : ¬Refers s)
    (vars : Table String) :
    loadText vars .json s = .ok (config.restrict keepSection keepField) := by
  have other : ¬(ConfigFormat.json = .yaml ∧ isVoid s = true) := by simp
  simp only [loadText, Expansion.expand_of_not_refers plain vars, parse, if_neg other,
    ConfigFormat.parse?, text, Option.map_some, Option.bind_some,
    read_excerpt keepSection keepField ordered]

/-- What is printed of a loaded configuration is loaded as the configuration, under any variables,
    if no reference stands in it; and if any sections and any fields are deleted from it, it is
    loaded as the configuration with standard values for these. -/
theorem loadText_render (loadable : config.Loadable) (plain : ¬Refers config.render)
    (vars : Table String) :
    loadText vars .json config.render = .ok config ∧
      ∀ (keepSection : String → Bool) (keepField : String → String → Bool),
        loadText vars .json (config.excerpt keepSection keepField).pretty =
          .ok (config.restrict keepSection keepField) := by
  have deleted : ∀ (keepSection : String → Bool) (keepField : String → String → Bool),
      loadText vars .json (config.excerpt keepSection keepField).pretty =
        .ok (config.restrict keepSection keepField) := fun keepSection keepField =>
    loadText_of_parse keepSection keepField loadable.isOrdered
      (isPlain_excerpt keepSection keepField config).parse_pretty
      (not_refers_excerpt keepSection keepField plain) vars
  have whole := deleted (fun _ => true) (fun _ _ => true)
  rw [excerpt_all] at whole
  exact ⟨whole, deleted⟩

/-- A host that listens on an address of version 6 and takes its time to shut down. -/
def patientHost : Config :=
  { Config.standard with
    request := { RequestConfig.standard with exports := [("APP", "a \"b\""), ("LOG", "c\\d")] }
    serve := { ServeConfig.standard with
      listen := .v6 ⟨[0x2001, 0xdb8, 0, 0, 0, 0, 0, 1], rfl⟩ 0 8080
      shutdownTimeout := ⟨86461, ⟨5000000, by decide⟩⟩ } }

/-- A host that is loaded from another format, with a reference in its text, is printed without the
    reference. -/
theorem loadText_render_of_patient_host :
    loadText [] .yaml ("request:\n  exports: \x7bLOG: 'c\\d', APP: 'a \"b\"'\x7d\n" ++
      "serve:\n  listen: '[2001:db8::$\x7bLAST:-1\x7d]:8080'\n  shutdown_timeout: 1day 61s 5ms\n") =
        .ok patientHost ∧
      ¬Refers patientHost.render ∧
      loadText [] .json patientHost.render = .ok patientHost ∧
      loadText [] .json (patientHost.excerpt (fun name => name != "request")
          fun _ name => name != "listen").pretty =
        .ok { patientHost with
          request := .standard
          serve := { patientHost.serve with listen := ServeConfig.standard.listen } } :=
  have loaded := eq_ok_of_toOption (by decide +kernel)
  have plain := (isPlain_toJson patientHost).not_refers (by decide +kernel)
  ⟨loaded, plain, (loadText_render (.text loaded) plain []).1,
    (loadText_render (.text loaded) plain []).2 _ _⟩

end Config

end ScriptBridge

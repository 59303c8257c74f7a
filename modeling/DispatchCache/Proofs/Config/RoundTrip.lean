import DispatchCache.CommandLine.Program
import DispatchCache.Proofs.Json.Writing
import Mathlib.Data.List.Perm.Basic
import Mathlib.Tactic.SplitIfs

/-! # Configurations read back

What is written for a configuration reads back as that configuration. Its fields may be left out,
come in any order and stand among fields of other names, in any JSON text: those that are there
count, and the others have their defaults. A field that comes twice is refused. -/

namespace DispatchCache

/-- An object with these fields. -/
def Json.ofFields (fields : List (String × Json)) : Json :=
  .object (fields.map fun (key, value) => (some key, value))

theorem Json.valuesOf_map (fields : List (String × Json)) (key : String) :
    valuesOf (fields.map fun (key, value) => (some key, value)) key =
      (fields.filter (·.1 = key)).map Prod.snd := by
  rw [valuesOf, List.filter_map, List.map_map]
  simp only [Function.comp_def, Option.some.injEq]

namespace Config

/-- The fields of a configuration, as they are in JSON. -/
def jsonFields (config : Config) : List (String × Json) :=
  [("insert_policy", .string (some config.insertPolicy.name)),
   ("collect_metrics", .bool config.collectMetrics),
   ("log_filter", .string (some config.logFilter))]

def fieldNames : List String := ["insert_policy", "collect_metrics", "log_filter"]

/-- The configuration that agrees in the fields of these names and has all other defaults. -/
def only (config : Config) (names : List String) : Config :=
  let defaults : Config := {}
  { insertPolicy := if "insert_policy" ∈ names then config.insertPolicy else defaults.insertPolicy
    collectMetrics :=
      if "collect_metrics" ∈ names then config.collectMetrics else defaults.collectMetrics
    logFilter := if "log_filter" ∈ names then config.logFilter else defaults.logFilter }

theorem written_toJsonText (config : Config) :
    Json.Written (Json.ofFields config.jsonFields).tokens config.toJsonText.toList := by
  rw [toJsonText, String.toList_ofList]
  refine Json.written_record (.cons ⟨rfl, ?_⟩ (.cons ⟨rfl, ?_⟩ (.cons ⟨rfl, ?_⟩ .nil))) 0
  · exact (Json.written_quoted _).single
  · cases config.collectMetrics with
    | true => exact Json.Token.Written.yes.single
    | false => exact Json.Token.Written.no.single
  · exact (Json.written_quoted _).single

section Fields

variable {config : Config} {fields kept : List (String × Json)}

/-- A field counts if it is among those that are kept, wherever it stands. -/
theorem filter_of_kept (sublist : kept.Sublist config.jsonFields)
    (known : (fields.filter (·.1 ∈ fieldNames)).Perm kept) {name : String} {value : Json}
    (own : config.jsonFields.filter (·.1 = name) = [(name, value)]) :
    fields.filter (·.1 = name) = if name ∈ kept.map Prod.fst then [(name, value)] else [] := by
  have isKnown : name ∈ config.jsonFields.map Prod.fst := by
    have member : (name, value) ∈ config.jsonFields.filter (·.1 = name) := by simp [own]
    exact List.mem_map_of_mem (List.mem_filter.mp member).1
  have among : fields.filter (·.1 = name) =
      (fields.filter (·.1 ∈ fieldNames)).filter (·.1 = name) := by
    rw [List.filter_filter]
    refine List.filter_congr fun field _ => ?_
    by_cases same : field.1 = name
    · have isKnown : name ∈ fieldNames := isKnown
      simp [same, isKnown]
    · simp [same]
  have same : (fields.filter (·.1 = name)).Perm (kept.filter (·.1 = name)) := by
    rw [among]
    exact known.filter _
  have once : (kept.filter (·.1 = name)).Sublist [(name, value)] := by
    rw [← own]
    exact sublist.filter _
  rcases List.sublist_singleton.mp once with left | there
  · have absent : name ∉ kept.map Prod.fst := by
      rintro present
      obtain ⟨field, member, rfl⟩ := List.mem_map.mp present
      have found : field ∈ kept.filter (·.1 = field.1) := List.mem_filter.mpr ⟨member, by simp⟩
      rw [left] at found
      exact absurd found List.not_mem_nil
    rw [if_neg absent, ← List.perm_nil, ← left]
    exact same
  · have present : name ∈ kept.map Prod.fst := by
      have member : (name, value) ∈ kept.filter (·.1 = name) := by simp [there]
      exact List.mem_map_of_mem (List.mem_filter.mp member).1
    rw [if_pos present, ← List.perm_singleton, ← there]
    exact same

theorem optionalField_of_kept (sublist : kept.Sublist config.jsonFields)
    (known : (fields.filter (·.1 ∈ fieldNames)).Perm kept) {name : String} {value : Json}
    (own : config.jsonFields.filter (·.1 = name) = [(name, value)]) {α : Type}
    {read : Json → Option α} {given : α} (reads : read value = some given) (missing : α) :
    Json.optionalField (fields.map fun (key, value) => (some key, value)) name missing read =
      some (if name ∈ kept.map Prod.fst then given else missing) := by
  rw [Json.optionalField, Json.valuesOf_map, filter_of_kept sublist known own]
  split_ifs
  · exact reads
  · rfl

/-- Each field is read on its own. -/
theorem ofJson?_ofFields_eq_some_iff :
    ofJson? (Json.ofFields fields) = some config ↔
      let named := fields.map fun (key, value) => (some key, value)
      let defaults : Config := {}
      Json.optionalField named "insert_policy" defaults.insertPolicy InsertPolicy.ofJson? =
          some config.insertPolicy ∧
        Json.optionalField named "collect_metrics" defaults.collectMetrics Json.bool? =
          some config.collectMetrics ∧
        Json.optionalField named "log_filter" defaults.logFilter Json.string? =
          some config.logFilter := by
  have unnamed : (fields.map fun (key, value) => (some key, value)).any (·.1.isNone) = false := by
    simp
  rcases config with ⟨policy, metrics, filter⟩
  simp only [ofJson?, Json.ofFields, ofFields?, unnamed, Bool.false_eq_true, if_false,
    Option.bind_eq_bind, Option.bind_eq_some_iff, Option.pure_def, Option.some.injEq]
  constructor
  · rintro ⟨_, policy, _, metrics, _, filter, same⟩
    cases same
    exact ⟨policy, metrics, filter⟩
  · rintro ⟨policy, metrics, filter⟩
    exact ⟨_, policy, _, metrics, _, filter, rfl⟩

/-- Fields that are left out have their defaults, and fields of other names are passed over. -/
theorem ofJson?_of_kept (sublist : kept.Sublist config.jsonFields)
    (known : (fields.filter (·.1 ∈ fieldNames)).Perm kept) :
    ofJson? (Json.ofFields fields) = some (config.only (kept.map Prod.fst)) := by
  have policy : InsertPolicy.ofJson? (.string (some config.insertPolicy.name)) =
      some config.insertPolicy := InsertPolicy.ofName?_name _
  have metrics : Json.bool? (.bool config.collectMetrics) = some config.collectMetrics := rfl
  have filter : Json.string? (.string (some config.logFilter)) = some config.logFilter := rfl
  exact ofJson?_ofFields_eq_some_iff.mpr
    ⟨optionalField_of_kept sublist known rfl policy _,
      optionalField_of_kept sublist known rfl metrics _,
      optionalField_of_kept sublist known rfl filter _⟩

theorem optionalField_of_repeated {name : String}
    (repeated : 2 ≤ (fields.filter (·.1 = name)).length) {α : Type} (missing : α)
    (read : Json → Option α) :
    Json.optionalField (fields.map fun (key, value) => (some key, value)) name missing read =
      none := by
  rw [Json.optionalField, Json.valuesOf_map]
  generalize fields.filter (·.1 = name) = found at repeated ⊢
  rcases found with _ | ⟨first, _ | ⟨second, later⟩⟩
  · exact absurd repeated (by simp)
  · exact absurd repeated (by simp)
  · rfl

theorem ofJson?_of_repeated {name : String} (isKnown : name ∈ fieldNames)
    (repeated : 2 ≤ (fields.filter (·.1 = name)).length) :
    ofJson? (Json.ofFields fields) = none := by
  rw [Option.eq_none_iff_forall_ne_some]
  intro config read
  obtain ⟨policy, metrics, filter⟩ := ofJson?_ofFields_eq_some_iff.mp read
  simp only [fieldNames, List.mem_cons, List.not_mem_nil, or_false] at isKnown
  rcases isKnown with rfl | rfl | rfl
  · rw [optionalField_of_repeated repeated] at policy; cases policy
  · rw [optionalField_of_repeated repeated] at metrics; cases metrics
  · rw [optionalField_of_repeated repeated] at filter; cases filter

end Fields

theorem ofJsonText?_of_written {value : Json} {text : String}
    (written : Json.Written value.tokens text.toList) : ofJsonText? text = ofJson? value := by
  rw [ofJsonText?, Json.parse?_of_written written, Option.bind_some]

/-- What is printed for a configuration reads back as that configuration. So does every object that
has its fields, in any order and with any other fields among them, and where fields of it are left
out, their defaults stand in. No object that has a known field twice is read. -/
theorem reads_back (config : Config) :
    (∀ options colours, ∃ text,
      (CommandLine.Invocation.run ⟨options, .config⟩ config colours).1 = .ok text ∧
        ofJsonText? text = some config) ∧
    (∀ fields kept text, Json.Written (Json.ofFields fields).tokens text.toList →
      kept.Sublist config.jsonFields → (fields.filter (·.1 ∈ fieldNames)).Perm kept →
      ofJsonText? text = some (config.only (kept.map Prod.fst))) ∧
    ∀ fields name text, Json.Written (Json.ofFields fields).tokens text.toList →
      name ∈ fieldNames → 2 ≤ (fields.filter (·.1 = name)).length →
      ofJsonText? text = none := by
  refine ⟨fun options colours => ⟨_, rfl, ?_⟩, ?_, ?_⟩
  · have ended : Json.Written (Json.ofFields config.jsonFields).tokens
        (config.toJsonText ++ "\n").toList := by
      rw [String.toList_append]
      have line := config.written_toJsonText.append
        (.blank (by decide : Json.isBlank '\n' = true) .nil)
      rwa [List.append_nil] at line
    have all : config.jsonFields.filter (·.1 ∈ fieldNames) = config.jsonFields := rfl
    rw [ofJsonText?_of_written ended, ofJson?_of_kept (.refl config.jsonFields) (.of_eq all)]
    rfl
  · intro fields kept text written sublist known
    rw [ofJsonText?_of_written written]
    exact ofJson?_of_kept sublist known
  · intro fields name text written isKnown repeated
    rw [ofJsonText?_of_written written]
    exact ofJson?_of_repeated isKnown repeated

/-- A field may be escaped where it need not be, and an unknown one may hold anything. -/
theorem escaped_filter_read :
    let config : Config := { logFilter := "\"" }
    ofJsonText? "\x7b\"later\":[-1],\"log_filter\":\"\\u0022\"\x7d" = some config ∧
      config.only ["log_filter"] = config := by
  intro config
  refine ⟨?_, rfl⟩
  let fields := [("later", Json.array [.number "-1"]), ("log_filter", .string (some "\""))]
  have zero : Text.hexValue '0' = some 0 := by decide
  have two : Text.hexValue '2' = some 2 := by decide
  have escaped : Json.Token.Written (.string (some "\"")) "\"\\u0022\"".toList :=
    .string (.cons (.unit zero zero two two) .nil)
  have number : Json.Token.Written (.number "-1") "-1".toList := .number (by decide)
  have written : Json.Written (Json.ofFields fields).tokens
      "\x7b\"later\":[-1],\"log_filter\":\"\\u0022\"\x7d".toList :=
    .token .openObject <| .token (Json.written_quoted "later") <| .token .colon <|
    .token .openArray <| .token number <| .token .closeArray <| .token .comma <|
    .token (Json.written_quoted "log_filter") <| .token .colon <| .token escaped <|
    .token .closeObject .nil
  have kept : [("log_filter", Json.string (some "\""))].Sublist config.jsonFields :=
    .cons _ (.cons _ (.refl _))
  exact (reads_back config).2.1 fields _ _ written kept (.refl _)

end Config

end DispatchCache

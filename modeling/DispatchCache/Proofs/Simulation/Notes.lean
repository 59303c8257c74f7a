import DispatchCache.CommandLine.Program
import DispatchCache.Proofs.Simulation.ClosedForm

/-! # What the notes of a summary say

A summary has its note on a line of its own, and no other line can be taken for it. So whether the
note stands in the text is told by the sizes of the workload, and that agrees with what the cache
did in the run. -/

namespace DispatchCache

section Characters

variable {c : Char}

theorem not_mem_toDigits (other : c.isDigit = false) (n : Nat) : c ∉ Nat.toDigits 10 n := by
  intro member
  have digit := Nat.isDigit_of_mem_toDigits (by decide) (by decide) member
  rw [other] at digit
  cases digit

/-- What a number with a fixed number of places is never written with. -/
theorem Decimal.not_mem_fixed (other : c.isDigit = false) (strange : c ∉ "NaN-inf.".toList)
    (places : Nat) (x : Float) : c ∉ (fixed places x).toList := by
  have digits := not_mem_toDigits other
  have zero : c ≠ '0' := by
    rintro rfl
    cases other
  simp only [String.reduceToList, List.mem_cons, List.not_mem_nil, not_or] at strange
  unfold fixed
  split
  · simp [strange]
  · split <;> simp [strange]
  · split <;> simp [strange, Decimal.pointed, digits, zero, List.mem_replicate]

end Characters

/-- A text without a line break stands in lines of text exactly if it stands in one of them. -/
theorem infix_lines_iff {part : List Char} (nonempty : part ≠ []) (unbroken : '\n' ∉ part)
    (lines : List (List Char)) :
    part <:+: lines.flatMap (· ++ ['\n']) ↔ ∃ line ∈ lines, part <:+: line := by
  -- What ends with a line break is no part of the text.
  have ends {start line : List Char} (part_eq : ∃ rest, part = start ++ rest)
      (ending : start <:+ line ++ ['\n']) : start = [] := by
    obtain ⟨rest, rfl⟩ := part_eq
    rcases List.suffix_concat_iff.mp ending with rfl | ⟨before, rfl, -⟩
    · rfl
    · exact absurd (by simp) unbroken
  induction lines with
  | nil => simpa using nonempty
  | cons line lines ih =>
    rw [List.flatMap_cons, List.infix_append_iff, List.infix_concat_iff, List.exists_mem_cons_iff]
    constructor
    · rintro ((ending | inside) | later | ⟨first, rest, rfl, ending, starting⟩)
      · exact absurd (ends ⟨[], (List.append_nil part).symm⟩ ending) nonempty
      · exact .inl inside
      · exact .inr (ih.mp later)
      · obtain rfl := ends ⟨rest, rfl⟩ ending
        exact .inr (ih.mp starting.isInfix)
    · rintro (inside | later)
      · exact .inl (.inr inside)
      · exact .inr (.inl (ih.mpr later))

namespace SimulationReport

theorem note?_eq_neverCached_iff {report : SimulationReport} :
    report.note? = some .neverCached ↔ maxArity < report.arity := by
  unfold note?
  split_ifs with wide crowded <;> simp [wide]

theorem note?_eq_bucketLimit_iff {report : SimulationReport} :
    report.note? = some .bucketLimit ↔
      report.arity ≤ maxArity ∧ 0 < report.arity ∧ maxPerArity < report.shapes := by
  unfold note?
  split_ifs with wide crowded
  · simp [wide]
  · simp [crowded, Nat.not_lt.mp wide]
  · simp [crowded]

/-- A line without its end, as it is rendered. -/
def lineOf (colours : Bool) (line : Heading × String) : List Char :=
  (line.1.render colours ++ " " ++ line.2).toList

theorem toList_render (report : SimulationReport) (colours : Bool) :
    (report.render colours).toList =
      (report.lines.map (lineOf colours)).flatMap (· ++ ['\n']) := by
  simp [render, lineOf, String.toList_join, List.flatMap_map]

/-- The text of the note stands somewhere in the summary. -/
def Says (report : SimulationReport) (colours : Bool) (note : Note) : Prop :=
  note.text.toList <:+: (report.render colours).toList

theorem Note.text_injective : Function.Injective Note.text := by
  intro note other
  cases note <;> cases other <;> decide

/-- A letter of a note that lines with the heading do not have, unless it is the note's own. -/
def Note.telltale : Note → Heading → Char
  | .neverCached, _ => 'v'
  | .bucketLimit, .workload | .bucketLimit, .dispatch => 'f'
  | .bucketLimit, .cache | .bucketLimit, .note => 'b'

theorem Note.telltale_mem (note : Note) (heading : Heading) :
    note.telltale heading ∈ note.text.toList := by
  cases note <;> cases heading <;> decide

theorem Note.telltale_not_mem_render (note : Note) (heading other : Heading) (colours : Bool) :
    note.telltale heading ∉ (other.render colours).toList := by
  cases note <;> cases heading <;> cases other <;> cases colours <;> decide

theorem Note.telltale_not_mem {note : Note} {report : SimulationReport} {line : Heading × String}
    (member : line ∈ report.lines) (other : line ≠ (.note, note.text)) :
    note.telltale line.1 ∉ line.2.toList := by
  have number (note : Note) (heading : Heading) (n : Nat) :
      note.telltale heading ∉ (toString n).toList := by
    rw [Nat.toString_eq_ofList_toDigits, String.toList_ofList]
    exact not_mem_toDigits (by cases note <;> cases heading <;> rfl) n
  have percent (note : Note) : note.telltale .cache ∉ report.hitPercent.toList :=
    Decimal.not_mem_fixed (by cases note <;> rfl) (by cases note <;> decide) _ _
  have literal (text : String) : toString text = text := rfl
  simp only [lines, List.mem_append, List.mem_cons, List.not_mem_nil, or_false, Option.mem_toList,
    Option.map_eq_some_iff] at member
  rcases member with (rfl | ⟨shown, -, rfl⟩) | rfl | rfl
  · simp only [String.toList_append, List.mem_append, number, literal]
    cases note <;> decide
  · cases note <;> cases shown
    · exact absurd rfl other
    · decide
    · decide
    · exact absurd rfl other
  · simp only [String.toList_append, List.mem_append, number, literal, percent]
    cases note <;> decide
  · simp only [String.toList_append, List.mem_append, number, literal]
    cases note <;> decide

/-- The note stands in the summary exactly if it is the report's. -/
theorem says_iff (report : SimulationReport) (colours : Bool) (note : Note) :
    report.Says colours note ↔ report.note? = some note := by
  have nonempty : note.text.toList ≠ [] := by cases note <;> decide
  have unbroken : '\n' ∉ note.text.toList := by cases note <;> decide
  rw [Says, toList_render, infix_lines_iff nonempty unbroken]
  constructor
  · rintro ⟨_, member, inside⟩
    obtain ⟨line, isLine, rfl⟩ := List.mem_map.mp member
    have own : line = (.note, note.text) := by
      by_contra other
      have letter := inside.subset (note.telltale_mem line.1)
      simp only [lineOf, String.toList_append, List.mem_append] at letter
      rcases letter with (heading | blank) | text
      · exact note.telltale_not_mem_render _ _ colours heading
      · revert blank
        cases note <;> cases line.1 <;> decide
      · exact Note.telltale_not_mem isLine other text
    subst own
    simp only [lines, List.mem_append, List.mem_cons, List.not_mem_nil, or_false, Prod.mk.injEq,
      Option.mem_toList, Option.map_eq_some_iff, true_and] at isLine
    rcases isLine with (⟨⟨⟩, -⟩ | ⟨shown, noted, same⟩) | ⟨⟨⟩, -⟩ | ⟨⟨⟩, -⟩
    rwa [Note.text_injective same] at noted
  · intro noted
    refine ⟨lineOf colours (.note, note.text), List.mem_map.mpr ⟨_, ?_, rfl⟩, ?_⟩
    · simp [lines, noted]
    · simp only [lineOf, String.toList_append]
      exact (List.suffix_append _ _).isInfix

end SimulationReport

namespace Workload

variable {workload : Workload}

theorem dropped_counted_pos_iff (rounds : 0 < workload.rounds) :
    0 < workload.counted.dropped ↔
      0 < workload.arity ∧ workload.arity ≤ maxArity ∧ maxPerArity < workload.shapes := by
  have left : 0 < (workload.shapes - min workload.shapes maxPerArity) * workload.rounds ↔
      maxPerArity < workload.shapes := by
    rw [Nat.mul_pos_iff_of_pos_right rounds]
    omega
  unfold counted
  dsimp only
  split_ifs with idle nullary narrow
  · have none : workload.shapes = 0 := by
      rcases Nat.mul_eq_zero.mp idle with none | none
      · exact none
      · exact absurd none (Nat.ne_of_gt rounds)
    simp [none]
  · simp [nullary]
  · simp [left, narrow, Nat.pos_of_ne_zero nullary]
  · simp [narrow]

theorem counted_of_wide (wide : maxArity < workload.arity) : workload.counted =
    { misses := workload.shapes * workload.rounds
      uncacheable := workload.shapes * workload.rounds } := by
  have some_arguments : workload.arity ≠ 0 := Nat.ne_of_gt (Nat.zero_lt_of_lt wide)
  unfold counted
  dsimp only
  split_ifs with idle
  · rw [idle]
  · omega
  · rfl

end Workload

open SimulationReport CommandLine in
/-- For every workload with a round and every configuration with metrics, the simulation has a
report, and its summary is what the command writes. The note on full buckets stands in the summary
exactly if calls were dropped, the note on wide calls exactly if the calls are too wide, and then
every call was resolved in full. Never do both notes stand there. Counters have no bound here, so
for counters of 64 bits this is about workloads of fewer than `2 ^ 64` calls. -/
theorem notes_agree_with_run (config : Config) (metered : config.collectMetrics = true)
    (workload : Workload) (rounds : 0 < workload.rounds) (colours : Bool) :
    ∃ report, (runSimulation config workload).1 = .ok report ∧
      (∀ options : Options, options.json = false →
        ((⟨options, .simulate workload⟩ : Invocation).run config colours).1 =
          .ok (report.render colours)) ∧
      (report.Says colours .bucketLimit ↔ 0 < report.metrics.dropped) ∧
      (report.Says colours .neverCached ↔ maxArity < workload.arity) ∧
      (maxArity < workload.arity →
        let calls := workload.shapes * workload.rounds
        report.metrics.hits = 0 ∧ report.cachedEntries = 0 ∧ report.resolutions = calls ∧
          report.metrics.misses = calls ∧ report.metrics.uncacheable = calls) ∧
      ¬ (report.Says colours .bucketLimit ∧ report.Says colours .neverCached) := by
  obtain ⟨after, evaluated⟩ := exists_eval_simulate config workload
  have reported : (runSimulation config workload).1 = .ok (workload.reported config) :=
    congrArg Prod.fst evaluated
  have metrics : (workload.reported config).metrics = workload.counted := if_pos metered
  refine ⟨workload.reported config, reported, ?written, ?crowded, ?wide, ?counts, ?apart⟩
  case written =>
    intro options plain
    rcases run : runSimulation config workload with ⟨answer, log⟩
    rw [run] at reported
    obtain rfl : answer = .ok (workload.reported config) := reported
    simp [Invocation.run, Nat.ne_of_gt rounds, run, plain]
  case crowded =>
    rw [says_iff, metrics, workload.dropped_counted_pos_iff rounds, note?_eq_bucketLimit_iff]
    exact and_left_comm
  case wide =>
    rw [says_iff, note?_eq_neverCached_iff]
    rfl
  case counts =>
    intro wide calls
    have counted := workload.counted_of_wide wide
    rw [metrics]
    simp only [Workload.reported, counted]
    exact ⟨trivial, trivial, rfl, rfl, rfl⟩
  case apart =>
    rw [says_iff, says_iff]
    rintro ⟨crowded, wide⟩
    rw [crowded] at wide
    cases wide

/-- Twenty shapes are too many for a bucket, and five arguments are too many for any. -/
theorem crowded_and_wide_runs_noted :
    (∃ report, (runSimulation {} ⟨2, 20, 3⟩).1 = .ok report ∧ report.metrics.dropped = 12 ∧
      report.Says true .bucketLimit) ∧
    ∃ report, (runSimulation {} ⟨5, 3, 2⟩).1 = .ok report ∧ report.Says false .neverCached ∧
      report.cachedEntries = 0 ∧ report.resolutions = 6 := by
  constructor
  · obtain ⟨report, reported, -, crowded, -⟩ :=
      notes_agree_with_run {} rfl ⟨2, 20, 3⟩ (by decide) true
    have closed : ∀ workload config, (runSimulation config workload).1 =
        .ok (workload.reported config) := fun workload config =>
      congrArg Prod.fst (exists_eval_simulate config workload).choose_spec
    have same := Except.ok.inj (reported.symm.trans (closed ⟨2, 20, 3⟩ {}))
    have dropped : report.metrics.dropped = 12 := by
      rw [same]
      decide
    exact ⟨report, reported, dropped, crowded.mpr (by rw [dropped]; decide)⟩
  · obtain ⟨report, reported, -, -, wide, counts, -⟩ :=
      notes_agree_with_run {} rfl ⟨5, 3, 2⟩ (by decide) false
    obtain ⟨-, entries, resolutions, -⟩ := counts (by decide)
    exact ⟨report, reported, wide.mpr (by decide), entries, resolutions⟩

end DispatchCache

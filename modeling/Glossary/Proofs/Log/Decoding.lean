import Glossary.Log.Event
import Glossary.Proofs.Json.Line
import Glossary.Proofs.Json.Members

/-!
# Reading log events back

An event that is written as data stands on one line, whatever is in its message and in its context.
Who reads the line gets back what the event says, so events that say different things are written
differently. What they do not say is where a place stands in characters of the whole text; lines
and columns are all they say of it. The line of an event as plain text tells much less, since
nothing is quoted there.

## Main results

* `Event.Report.ofJson?_toJson` — the data of an event say what it reports.
* `Event.report_eq_iff` — the report tells level, code, message, place and context.
* `Event.jsonText_decodes` — the line of an event, what it says, and which events share it.
-/

namespace Glossary

open Json (Value)

/-- Levels have names of their own. -/
theorem LogLevel.name_injective : Function.Injective LogLevel.name := by
  intro l l' h
  cases l <;> cases l' <;> first | rfl | exact absurd h (by decide)

namespace Event

/-- The lines and columns of a place, all counted from one. -/
structure Place where
  startLine : Nat
  startColumn : Nat
  stopLine : Nat
  stopColumn : Nat
  deriving DecidableEq, Repr

/-- The lines and columns of a span. -/
def Place.ofSpan (s : Span) : Place := ⟨s.start.line, s.start.column, s.stop.line, s.stop.column⟩

/-- What the data of an event say. -/
structure Report where
  level : String
  code : String
  message : String
  area : String
  severity : String
  place? : Option Place
  context? : Option (List (String × String))
  deriving DecidableEq, Repr

/-- What an event has to say. Area and severity are what is registered for its code, and a context
without pairs is none. -/
def report (e : Event) : Report :=
  ⟨e.level.name, e.code.text, e.message, e.code.area, e.code.severity.name,
    e.span?.map Place.ofSpan, if e.context = [] then none else some e.context⟩

/-- A place, by its four counts. -/
def Place.ofMembers? (members : List (String × Value)) : Option Place := do
  pure ⟨← (← Value.required? ["start_line"] members).count?,
    ← (← Value.required? ["start_column"] members).count?,
    ← (← Value.required? ["end_line"] members).count?,
    ← (← Value.required? ["end_column"] members).count?⟩

def Place.ofJson? (v : Value) : Option Place := v.members?.bind ofMembers?

/-- A report, where every key stands once, and place and context may be missing. -/
def Report.ofMembers? (members : List (String × Value)) : Option Report := do
  pure ⟨← (← Value.required? ["level"] members).string?,
    ← (← Value.required? ["code"] members).string?,
    ← (← Value.required? ["message"] members).string?,
    ← (← Value.required? ["category"] members).string?,
    ← (← Value.required? ["severity"] members).string?,
    ← (← Value.optional? ["span"] members).mapM Place.ofJson?,
    ← (← Value.optional? ["context"] members).mapM Value.texts?⟩

/-- A report from data. -/
def Report.ofJson? (v : Value) : Option Report := v.members?.bind ofMembers?

/-- The members of the data of an event. -/
def members (e : Event) (time : Timestamp) : List (String × Value) :=
  ((e.toJson time).members?).getD []

theorem toJson_eq (e : Event) (time : Timestamp) : e.toJson time = .object (e.members time) := rfl

/-- Their keys. -/
theorem keys_members (e : Event) (time : Timestamp) : (e.members time).map (·.1) =
    ["category", "code"] ++ (if e.context = [] then [] else ["context"]) ++
      ["level", "message", "severity"] ++ (e.span?.map fun _ => "span").toList ++
        ["timestamp"] := by
  obtain ⟨level, code, message, span?, context⟩ := e
  by_cases hcontext : context = [] <;> cases span? <;>
    simp [members, toJson, Value.members?, hcontext]

/-- Every key stands there once. -/
theorem nodup_members (e : Event) (time : Timestamp) : ((e.members time).map (·.1)).Nodup := by
  rw [keys_members]
  by_cases hcontext : e.context = [] <;> cases e.span? <;> simp [hcontext]

/-- The members of the data of a place. -/
def Place.members (p : Place) : List (String × Value) :=
  [("end_column", .count p.stopColumn), ("end_line", .count p.stopLine),
    ("start_column", .count p.startColumn), ("start_line", .count p.startLine)]

/-- The data of a place are read back. -/
theorem Place.ofMembers?_members (p : Place) : ofMembers? p.members = some p := by
  have honce : (p.members.map (·.1)).Nodup := by
    show ["end_column", "end_line", "start_column", "start_line"].Nodup
    decide
  have hcount : ∀ key n, (key, .count n) ∈ p.members →
      Value.required? [key] p.members = some (.count n) := fun key n =>
    Value.required?_of_mem honce
  have hstart_line := hcount "start_line" p.startLine (by simp [members])
  have hstart_column := hcount "start_column" p.startColumn (by simp [members])
  have hend_line := hcount "end_line" p.stopLine (by simp [members])
  have hend_column := hcount "end_column" p.stopColumn (by simp [members])
  rw [ofMembers?, Value.bind_required? Value.count? hstart_line (Value.count?_count _),
    Value.bind_required? Value.count? hstart_column (Value.count?_count _),
    Value.bind_required? Value.count? hend_line (Value.count?_count _),
    Value.bind_required? Value.count? hend_column (Value.count?_count _)]
  rfl

/-- There is a place if and only if there is a span. -/
theorem optional?_span (e : Event) (time : Timestamp) :
    Value.optional? ["span"] (e.members time) =
      some (e.span?.map fun s => .object (Place.ofSpan s).members) := by
  cases hspan : e.span? with
  | none =>
      refine Value.optional?_of_not_mem ?_
      rw [keys_members, hspan]
      by_cases hcontext : e.context = [] <;> simp [hcontext]
  | some s =>
      refine Value.optional?_of_mem (e.nodup_members time) ?_
      simp [members, toJson, Value.members?, Place.members, Place.ofSpan, hspan]

/-- There is a context if and only if it has pairs. -/
theorem optional?_context (e : Event) (time : Timestamp) :
    Value.optional? ["context"] (e.members time) =
      some (if e.context = [] then none
        else some (.object (e.context.map fun p => (p.1, .string p.2)))) := by
  by_cases hcontext : e.context = []
  · rw [if_pos hcontext]
    refine Value.optional?_of_not_mem ?_
    rw [keys_members]
    cases e.span? <;> simp [hcontext]
  · rw [if_neg hcontext]
    refine Value.optional?_of_mem (e.nodup_members time) ?_
    simp [members, toJson, Value.members?, hcontext]

/-- The data of an event say what it reports. -/
theorem Report.ofJson?_toJson (e : Event) (time : Timestamp) :
    ofJson? (e.toJson time) = some e.report := by
  have hstring : ∀ key text, (key, .string text) ∈ e.members time →
      Value.required? [key] (e.members time) = some (.string text) := fun key text =>
    Value.required?_of_mem (e.nodup_members time)
  have hlevel := hstring "level" e.level.name (by simp [members, toJson, Value.members?])
  have hcode := hstring "code" e.code.text (by simp [members, toJson, Value.members?])
  have hmessage := hstring "message" e.message (by simp [members, toJson, Value.members?])
  have harea := hstring "category" e.code.area (by simp [members, toJson, Value.members?])
  have hseverity := hstring "severity" e.code.severity.name
    (by simp [members, toJson, Value.members?])
  have hplace : (e.span?.map fun s => .object (Place.ofSpan s).members).mapM Place.ofJson? =
      some (e.span?.map Place.ofSpan) := by
    cases e.span? with
    | none => rfl
    | some s =>
        have hmembers : Place.ofJson? (.object (Place.ofSpan s).members) =
            some (Place.ofSpan s) := Place.ofMembers?_members _
        simp [hmembers]
  have hcontext : (if e.context = [] then none
      else some (.object (e.context.map fun p => (p.1, .string p.2)))).mapM Value.texts? =
        some (if e.context = [] then none else some e.context) := by
    split
    · rfl
    · simp [Value.texts?_object]
  rw [toJson_eq, ofJson?, Value.members?, Option.bind_some, ofMembers?,
    Value.bind_required? Value.string? hlevel rfl, Value.bind_required? Value.string? hcode rfl,
    Value.bind_required? Value.string? hmessage rfl, Value.bind_required? Value.string? harea rfl,
    Value.bind_required? Value.string? hseverity rfl,
    Value.bind_optional? Place.ofJson? (e.optional?_span time) hplace,
    Value.bind_optional? Value.texts? (e.optional?_context time) hcontext]
  rfl

/-- The data of an event are texts, and counts if it has a place. -/
theorem plain_toJson (e : Event) (time : Timestamp) : (e.toJson time).Plain := by
  refine .object ?_
  intro m hm
  simp only [List.mem_append, or_assoc] at hm
  rcases hm with hhead | hcontext | hmiddle | hspan | htime
  · simp only [List.mem_cons, List.not_mem_nil, or_false] at hhead
    rcases hhead with rfl | rfl <;> exact .string _
  · split at hcontext
    · cases hcontext
    · rw [List.mem_singleton.1 hcontext]
      refine .object ?_
      intro pair hpair
      obtain ⟨p, -, rfl⟩ := List.mem_map.1 hpair
      exact .string p.2
  · simp only [List.mem_cons, List.not_mem_nil, or_false] at hmiddle
    rcases hmiddle with rfl | rfl | rfl <;> exact .string _
  · obtain ⟨s, -, rfl⟩ := Option.map_eq_some_iff.1 (Option.mem_toList.1 hspan)
    refine .object ?_
    intro corner hcorner
    simp only [List.mem_cons, List.not_mem_nil, or_false] at hcorner
    rcases hcorner with rfl | rfl | rfl | rfl <;> exact .number _
  · rw [List.mem_singleton.1 htime]
    exact .string _

/-- The report tells everything but the place in characters of the whole text. -/
theorem report_eq_iff {e e' : Event} : e.report = e'.report ↔
    e.level = e'.level ∧ e.code = e'.code ∧ e.message = e'.message ∧
      e.span?.map Place.ofSpan = e'.span?.map Place.ofSpan ∧ e.context = e'.context := by
  constructor
  · intro h
    simp only [report, Report.mk.injEq] at h
    obtain ⟨hlevel, hcode, hmessage, -, -, hplace, hcontext⟩ := h
    refine ⟨LogLevel.name_injective hlevel, congrArg Code.mk hcode, hmessage, hplace, ?_⟩
    split at hcontext
    · next hnone =>
        split at hcontext
        · next hnone' => rw [hnone, hnone']
        · cases hcontext
    · split at hcontext
      · cases hcontext
      · exact Option.some.inj hcontext
  · rintro ⟨hlevel, hcode, hmessage, hplace, hcontext⟩
    simp only [report, hlevel, hcode, hmessage, hplace, hcontext]

/-- Events with the same report have the same data. -/
theorem toJson_congr {e e' : Event} (h : e.report = e'.report) (time : Timestamp) :
    e.toJson time = e'.toJson time := by
  obtain ⟨hlevel, hcode, hmessage, hplace, hcontext⟩ := report_eq_iff.1 h
  have hspan : ((e.span?.map Place.ofSpan).map fun p => ("span", Value.object p.members)) =
      (e'.span?.map Place.ofSpan).map fun p => ("span", .object p.members) := by
    rw [hplace]
  rw [Option.map_map, Option.map_map] at hspan
  rw [toJson, toJson, hlevel, hcode, hmessage, hcontext]
  exact congrArg (fun place? => Value.object (_ ++ Option.toList place? ++ _)) hspan

/-- The line of an event has no control character. Who reads it as JSON gets the data of the event
back, and they say what it reports: every key stands there once, the place if there is one, the
context if it is not empty. So two events ever have the same line exactly if they agree in all that
they report. -/
theorem jsonText_decodes (e : Event) (time : Timestamp) :
    (∀ c ∈ (e.jsonText time).toList, 0x20 ≤ c.toNat) ∧
      Value.read? (e.jsonText time) = some (e.toJson time) ∧
      Report.ofJson? (e.toJson time) = some e.report ∧
      ∀ e' : Event, (∃ time', e'.jsonText time' = e.jsonText time) ↔
        e'.level = e.level ∧ e'.code = e.code ∧ e'.message = e.message ∧
          e'.span?.map Place.ofSpan = e.span?.map Place.ofSpan ∧ e'.context = e.context := by
  have hread : ∀ (e : Event) (time : Timestamp),
      Value.read? (e.jsonText time) = some (e.toJson time) := fun e time =>
    Value.read?_render (e.plain_toJson time) .compact
  refine ⟨?_, hread e time, Report.ofJson?_toJson e time, ?_⟩
  · rw [jsonText, Value.compact, String.toList_ofList]
    exact Json.Writer.noControl_render (e.plain_toJson time)
  · intro e'
    rw [← report_eq_iff]
    constructor
    · rintro ⟨time', hsame⟩
      have hdata : e'.toJson time' = e.toJson time := by
        rw [← Option.some.injEq, ← hread e' time', ← hread e time, hsame]
      rw [← Option.some.injEq, ← Report.ofJson?_toJson e' time', hdata, Report.ofJson?_toJson]
    · intro hreport
      exact ⟨time, by rw [jsonText, jsonText, toJson_congr hreport]⟩

/-- An event with characters that have to be escaped. -/
def escapedEvent : Event :=
  ⟨.error, .invalidJson, "\"\\\n\x01é", some ⟨⟨4, 2, 1⟩, ⟨7, 2, 4⟩⟩, [("\t", "\""), ("k\\", "")]⟩

/-- It is not written like one that has the escapes in its message. -/
theorem jsonText_decodes_escapedEvent :
    (∀ c ∈ (escapedEvent.jsonText .epoch).toList, 0x20 ≤ c.toNat) ∧
      Report.ofJson? (escapedEvent.toJson .epoch) = some ⟨"ERROR", "E066", "\"\\\n\x01é",
        "Dictionary", "Critical", some ⟨2, 1, 2, 4⟩, some [("\t", "\""), ("k\\", "")]⟩ ∧
      ¬∃ time, ({ escapedEvent with message := "\"\\\\n\x01é" } : Event).jsonText time =
        escapedEvent.jsonText .epoch := by
  obtain ⟨hline, -, hreport, hsame⟩ := jsonText_decodes escapedEvent .epoch
  refine ⟨hline, hreport.trans rfl, ?_⟩
  intro hwritten
  obtain ⟨-, -, hmessage, -⟩ := (hsame _).1 hwritten
  exact absurd hmessage (by decide)

end Event

end Glossary

import LiterateCalc.Document.Exchange
import LiterateCalc.Proofs.Calculation.History
import LiterateCalc.Proofs.Decimal.Counts
import LiterateCalc.Proofs.Json.RoundTrip
import LiterateCalc.Report.Lines

namespace LiterateCalc
open Evaluation (Values)
open JsonValue (field)
open scoped Decimal

namespace JsonValue

theorem asString?_ofString (text : String) : (ofString text).asString? = some text := by
  rw [ofString, asString?, unescape_escape, Option.map_some, String.ofList_toList]

theorem isReadable_ofString (text : String) : (ofString text).isReadable = true := by
  rw [ofString, isReadable, unescape_escape, Option.isSome_some]

section
variable {count : Nat}

theorem asCount?_ofNat (bound : count < 2 ^ (64 : Nat)) : (ofNat count).asCount? = some count := by
  have digits : (Text.decimal count).all Decimal.isDigit = true :=
    List.all_eq_true.mpr fun c => Decimal.isDigit_of_mem_decimal
  have value := Decimal.digitsValue_decimal count
  rw [Text.decimal] at digits value
  simp only [ofNat, asCount?, digits, value, decide_eq_true bound, Bool.and_self, if_true]

theorem decimal_eq_cons (count : Nat) :
    ∃ first rest, Text.decimal count = first :: rest ∧ first ≠ '-' := by
  obtain ⟨first, rest, same⟩ := List.exists_cons_of_ne_nil (Decimal.decimal_ne_nil count)
  have inside : first ∈ Text.decimal count := by
    rw [same]
    exact List.mem_cons_self
  have digit := Decimal.isDigit_of_mem_decimal inside
  refine ⟨first, rest, same, ?_⟩
  rintro rfl
  exact absurd digit (by decide)

theorem isReadable_ofNat (bound : count < 2 ^ (64 : Nat)) : (ofNat count).isReadable = true := by
  obtain ⟨first, rest, same, other⟩ := decimal_eq_cons count
  have unsigned : (Text.decimal count).dropWhile (· == '-') = Text.decimal count := by
    rw [same, List.dropWhile_cons_of_neg (by simp [other])]
  have read := Decimal.readNumeral_decimal count
  rw [Text.decimal] at unsigned read
  simp only [ofNat, isReadable, unsigned, read, Option.any_some, Decimal.count_toFloat_isFinite bound]

theorem isNumber_decimal (count : Nat) : isNumber (Text.decimal count) = true := by
  obtain ⟨whole, left⟩ := Prod.mk.inj (Decimal.digitRun_decimal count)
  have fits : Text.decimal count = ['0'] ∨ Text.decimal count ≠ [] ∧ (Text.decimal count).head? ≠ some '0' := by
    by_cases zero : count = 0
    · exact .inl (by rw [zero]; rfl)
    · exact .inr ⟨Decimal.decimal_ne_nil count, Decimal.decimal_head zero⟩
  obtain ⟨first, rest, same, other⟩ := decimal_eq_cons count
  rw [same] at whole left fits ⊢
  simp only [isNumber, List.cons.injEq, other, false_and, false_implies, implies_true]
  simp only [whole, left, isExponent, decide_eq_true fits, Bool.and_self]

theorem written_ofNat (count : Nat) : Written (ofNat count) := by
  refine .number (Decimal.decimal_ne_nil count) (isNumber_decimal count) fun c inside => ?_
  simp [isNumberCharacter, Decimal.isDigit_of_mem_decimal inside]

end

theorem mapM_map {read : β → Option γ} {write : α → β} {view : α → γ} {entries : List α}
    (each : ∀ entry ∈ entries, read (write entry) = some (view entry)) :
    (entries.map write).mapM read = some (entries.map view) := by
  induction entries with
  | nil => rfl
  | cons first rest ih =>
    obtain ⟨here, later⟩ := List.forall_mem_cons.mp each
    rw [List.map_cons, List.mapM_cons, here, ih later]
    rfl

theorem asList?_map {read : JsonValue → Option β} {write : α → JsonValue} {view : α → β} {entries : List α}
    (each : ∀ entry ∈ entries, read (write entry) = some (view entry)) :
    asList? read (.array (entries.map write)) = some (entries.map view) :=
  mapM_map each

/-- The names of all members in an export. -/
def memberNames : List String :=
  ["type"] ++ Variable.fieldNames ++ Prose.fieldNames ++ Section.fieldNames ++ Document.fieldNames

/-- No name of a member needs an escape. -/
theorem escape_memberNames : ∀ name ∈ memberNames, escape name.toList = name.toList := by
  decide

/-- The members of an export with these names and values. -/
def record (members : List (String × JsonValue)) : List (List Char × JsonValue) :=
  members.map fun member => field member.1 member.2

section
variable {members : List (String × JsonValue)} (known : ∀ member ∈ members, member.1 ∈ memberNames)
include known

theorem namedMembers_record : namedMembers (record members) = some members := by
  have each : ∀ member ∈ members, (unescape (field member.1 member.2).1).map
      (fun name => (String.ofList name, (field member.1 member.2).2)) = some (id member) := by
    intro member inside
    rw [field, ← escape_memberNames _ (known member inside), unescape_escape, Option.map_some, String.ofList_toList]
    rfl
  rw [namedMembers, record, mapM_map each, List.map_id]

theorem fields?_record (names : List String) :
    fields? names (.object (record members)) = fieldsOfMembers names members := by
  rw [fields?, namedMembers_record known, Option.bind_some]

theorem written_record (each : ∀ member ∈ members, Written member.2) : Written (.object (record members)) := by
  apply Written.object
  · intro member inside
    obtain ⟨named, source, rfl⟩ := List.mem_map.mp inside
    exact ⟨_, (escape_memberNames _ (known named source)).symm⟩
  · intro member inside
    obtain ⟨named, source, rfl⟩ := List.mem_map.mp inside
    exact each named source

theorem isReadable_record (each : ∀ member ∈ members, member.2.isReadable = true) :
    (JsonValue.object (record members)).isReadable = true := by
  rw [isReadable]
  induction members with
  | nil => rfl
  | cons first rest ih =>
    obtain ⟨here, later⟩ := List.forall_mem_cons.mp known
    obtain ⟨readable, others⟩ := List.forall_mem_cons.mp each
    rw [record, List.map_cons, field, membersReadable, ← escape_memberNames _ here, unescape_escape, readable, ← record,
      ih later others]
    rfl

end

end JsonValue

/-- A variable without its place in the source. -/
def Variable.unplaced (entry : Variable) : Variable := { entry with span := ⟨0, 0⟩ }

def Item.unplaced : Item → Item
  | .definition content => .definition content.unplaced
  | .prose content => .prose content

def Section.unplaced (part : Section) : Section :=
  { part with
    definitions := part.definitions.map Variable.unplaced
    items := part.items.map Item.unplaced }

/-- A document without the places of its variables. -/
def Document.unplaced (document : Document) : Document :=
  { document with
    sections := document.sections.map Section.unplaced
    definitions := document.definitions.map Variable.unplaced }

/-- Counts of at most sixty-four bits. -/
structure Variable.Portable (entry : Variable) : Prop where
  order : entry.order < 2 ^ (64 : Nat)
  line : entry.line < 2 ^ (64 : Nat)

def Item.Portable : Item → Prop
  | .definition content => content.Portable
  | .prose _ => True

structure Section.Portable (part : Section) : Prop where
  order : part.order < 2 ^ (64 : Nat)
  level : part.level < 2 ^ (64 : Nat)
  definitions : ∀ entry ∈ part.definitions, entry.Portable
  items : ∀ item ∈ part.items, item.Portable

structure Document.Portable (document : Document) : Prop where
  sections : ∀ part ∈ document.sections, part.Portable
  definitions : ∀ entry ∈ document.definitions, entry.Portable

namespace Variable
variable {entry : Variable}

def members (entry : Variable) : List (String × JsonValue) :=
  [("name", .ofString entry.name), ("expression", .ofString entry.expression), ("isInput", .bool entry.isInput),
   ("section", .ofString entry.sectionName), ("order", .ofNat entry.order), ("line", .ofNat entry.line)]

theorem members_known (entry : Variable) : ∀ member ∈ entry.members, member.1 ∈ JsonValue.memberNames := by
  simp [members, JsonValue.memberNames, fieldNames]

theorem written_members (entry : Variable) : ∀ member ∈ entry.members, JsonValue.Written member.2 := by
  simp only [members, List.forall_mem_cons]
  exact ⟨.text _, .text _, .bool _, .text _, JsonValue.written_ofNat _, JsonValue.written_ofNat _, by simp⟩

theorem written_toJson (entry : Variable) : JsonValue.Written entry.toJson :=
  JsonValue.written_record entry.members_known entry.written_members

theorem fields_members (portable : entry.Portable) :
    (JsonValue.fieldsOfMembers fieldNames entry.members).bind ofFields = some entry.unplaced := by
  have found : JsonValue.fieldsOfMembers fieldNames entry.members =
      some [some (.ofString entry.name), some (.ofString entry.expression), some (.bool entry.isInput),
        some (.ofString entry.sectionName), some (.ofNat entry.order), some (.ofNat entry.line), none] := rfl
  rw [found, Option.bind_some]
  simp only [ofFields, JsonValue.asString?_ofString, JsonValue.asBool?, JsonValue.orDefault,
    JsonValue.asCount?_ofNat portable.order, JsonValue.asCount?_ofNat portable.line]
  rfl

theorem ofJson_toJson (portable : entry.Portable) : ofJson entry.toJson = some entry.unplaced := by
  have same : entry.toJson = .object (JsonValue.record entry.members) := rfl
  rw [ofJson, same, JsonValue.fields?_record entry.members_known, fields_members portable]

end Variable

namespace Item

def members : Item → List (String × JsonValue)
  | .definition content => ("type", .ofString "variable") :: content.members
  | .prose content =>
    [("type", .ofString "content"), ("text", .ofString content.text), ("html", .ofString content.html)]

theorem toJson_eq (item : Item) : item.toJson = .object (JsonValue.record item.members) := by
  cases item <;> rfl

theorem members_known (item : Item) : ∀ member ∈ item.members, member.1 ∈ JsonValue.memberNames := by
  cases item with
  | definition content =>
    exact List.forall_mem_cons.mpr ⟨by simp [JsonValue.memberNames], content.members_known⟩
  | prose content => simp [members, JsonValue.memberNames, Prose.fieldNames]

theorem written_toJson (item : Item) : JsonValue.Written item.toJson := by
  rw [toJson_eq]
  apply JsonValue.written_record item.members_known
  cases item with
  | definition content => exact List.forall_mem_cons.mpr ⟨.text _, content.written_members⟩
  | prose content =>
    simp only [members, List.forall_mem_cons]
    exact ⟨.text _, .text _, .text _, by simp⟩

variable {item : Item}

theorem isReadable_toJson (portable : item.Portable) : item.toJson.isReadable = true := by
  rw [toJson_eq]
  apply JsonValue.isReadable_record item.members_known
  cases item with
  | definition content =>
    simp only [members, Variable.members, List.forall_mem_cons, JsonValue.isReadable_ofString, JsonValue.isReadable,
      JsonValue.isReadable_ofNat portable.order, JsonValue.isReadable_ofNat portable.line, true_and]
    simp
  | prose content =>
    simp only [members, List.forall_mem_cons, JsonValue.isReadable_ofString, true_and]
    simp

theorem depth_toJson (item : Item) : item.toJson.depth = 1 := by
  cases item <;> rfl

theorem ofJson_toJson (portable : item.Portable) : ofJson item.toJson = some item.unplaced := by
  have readable : (item.toJson.isReadable && decide (item.toJson.depth ≤ JsonValue.maxItemDepth)) = true := by
    rw [isReadable_toJson portable, depth_toJson]
    decide
  rw [toJson_eq] at readable ⊢
  rw [ofJson, if_pos readable, JsonValue.namedMembers_record item.members_known]
  cases item with
  | definition content =>
    have kind : JsonValue.fieldsOfMembers ["type"] (definition content).members =
        some [some (.ofString "variable")] := rfl
    have others : ((definition content).members.filter fun entry => entry.1 != "type") = content.members := rfl
    simp only [bind, Option.bind_some, kind, others, JsonValue.asString?_ofString, ofKind,
      Variable.fields_members portable]
    rfl
  | prose content =>
    have kind : JsonValue.fieldsOfMembers ["type"] (prose content).members = some [some (.ofString "content")] := rfl
    have others : JsonValue.fieldsOfMembers Prose.fieldNames
          ((prose content).members.filter fun entry => entry.1 != "type") =
        some [some (.ofString content.text), some (.ofString content.html)] := rfl
    have different : ¬ "content" = "variable" := by decide
    simp only [bind, Option.bind_some, kind, others, JsonValue.asString?_ofString, ofKind, if_neg different, if_true,
      Prose.ofFields, JsonValue.orDefault]
    rfl

end Item

namespace Section
variable {part : Section}

def members (part : Section) : List (String × JsonValue) :=
  [("name", .ofString part.name), ("order", .ofNat part.order), ("level", .ofNat part.level),
   ("hidden", .bool part.hidden), ("variables", .array (part.definitions.map Variable.toJson)),
   ("items", .array (part.items.map Item.toJson))]

theorem members_known (part : Section) : ∀ member ∈ part.members, member.1 ∈ JsonValue.memberNames := by
  simp [members, JsonValue.memberNames, fieldNames, Variable.fieldNames]

theorem written_toJson (part : Section) : JsonValue.Written part.toJson := by
  apply JsonValue.written_record part.members_known
  simp only [members, List.forall_mem_cons]
  refine ⟨.text _, JsonValue.written_ofNat _, JsonValue.written_ofNat _, .bool _, .array ?_, .array ?_, by simp⟩
  · exact List.forall_mem_map.mpr fun entry _ => entry.written_toJson
  · exact List.forall_mem_map.mpr fun item _ => item.written_toJson

theorem ofJson_toJson (portable : part.Portable) : ofJson part.toJson = some part.unplaced := by
  have same : part.toJson = .object (JsonValue.record part.members) := rfl
  have found : JsonValue.fieldsOfMembers fieldNames part.members =
      some [some (.ofString part.name), some (.ofNat part.order), some (.ofNat part.level), some (.bool part.hidden),
        some (.array (part.definitions.map Variable.toJson)), some (.array (part.items.map Item.toJson))] := rfl
  have definitions := JsonValue.asList?_map fun entry inside => Variable.ofJson_toJson (portable.definitions entry inside)
  have items := JsonValue.asList?_map fun item inside => Item.ofJson_toJson (portable.items item inside)
  rw [ofJson, same, JsonValue.fields?_record part.members_known, found]
  simp only [bind, Option.bind_some, JsonValue.asString?_ofString, JsonValue.asBool?, definitions, items,
    JsonValue.asCount?_ofNat portable.order, JsonValue.asCount?_ofNat portable.level]
  rfl

end Section

namespace Document
variable {document : Document}

def members (document : Document) : List (String × JsonValue) :=
  [("format", .ofString document.format.name), ("language", .ofString document.language),
   ("sections", .array (document.sections.map Section.toJson)),
   ("variables", .array (document.definitions.map Variable.toJson)),
   ("inputVariables", .array (document.inputs.map JsonValue.ofString))]

theorem members_known (document : Document) : ∀ member ∈ document.members, member.1 ∈ JsonValue.memberNames := by
  simp [members, JsonValue.memberNames, fieldNames, Section.fieldNames]

theorem written_toJson (document : Document) : JsonValue.Written document.toJson := by
  apply JsonValue.written_record document.members_known
  simp only [members, List.forall_mem_cons]
  refine ⟨.text _, .text _, .array ?_, .array ?_, .array ?_, by simp⟩
  · exact List.forall_mem_map.mpr fun part _ => part.written_toJson
  · exact List.forall_mem_map.mpr fun entry _ => entry.written_toJson
  · exact List.forall_mem_map.mpr fun name _ => .text _

theorem ofJson_format (format : Format) : Format.ofJson (.ofString format.name) = some format := by
  rw [JsonValue.ofString, Format.ofJson, JsonValue.unescape_escape, Option.bind_some, String.ofList_toList]
  cases format <;> rfl

theorem ofJson_toJson (portable : document.Portable) : ofJson document.toJson = some document.unplaced := by
  have same : document.toJson = .object (JsonValue.record document.members) := rfl
  have found : JsonValue.fieldsOfMembers fieldNames document.members =
      some [some (.ofString document.format.name), some (.ofString document.language),
        some (.array (document.sections.map Section.toJson)), some (.array (document.definitions.map Variable.toJson)),
        some (.array (document.inputs.map JsonValue.ofString))] := rfl
  have sections := JsonValue.asList?_map fun part inside => Section.ofJson_toJson (portable.sections part inside)
  have definitions := JsonValue.asList?_map fun entry inside => Variable.ofJson_toJson (portable.definitions entry inside)
  have inputs : JsonValue.asList? JsonValue.asString? (.array (document.inputs.map JsonValue.ofString)) =
      some (document.inputs.map id) := JsonValue.asList?_map fun name _ => JsonValue.asString?_ofString name
  rw [ofJson, same, JsonValue.fields?_record document.members_known, found]
  simp only [bind, Option.bind_some, JsonValue.asString?_ofString, ofJson_format, sections, definitions, inputs,
    List.map_id]
  rfl

theorem findVariable?_unplaced (document : Document) (name : String) :
    document.unplaced.findVariable? name = (document.findVariable? name).map Variable.unplaced := by
  simp only [findVariable?, unplaced, List.find?_map]
  rfl

theorem calculated_unplaced (document : Document) :
    document.unplaced.calculated = document.calculated.map Variable.unplaced := by
  simp only [calculated, unplaced, List.filter_map]
  rfl

end Document

namespace Calculation

theorem State.initial_unplaced (document : Document) (given : Values) :
    State.initial document.unplaced given = State.initial document given := by
  simp only [State.initial, Document.findVariable?_unplaced]
  rw [show document.unplaced.inputs = document.inputs from rfl, ← List.map_filterMap, List.foldl_map]
  rfl

theorem State.recalculate_unplaced (document : Document) (state : State) :
    state.recalculate document.unplaced = state.recalculate document := by
  simp only [State.recalculate, State.pass, Document.calculated_unplaced, List.foldl_map]
  rfl

namespace Calculator

theorem run_unplaced (document : Document) (given : Values) (operations : List Operation) :
    (start document.unplaced given).1.run operations =
      ⟨document.unplaced, ((start document given).1.run operations).state⟩ := by
  rw [start_eq, start_eq, run_ofInputs, run_ofInputs, State.initial_unplaced, ofInputs, State.ofInputs,
    State.recalculate_unplaced]
  rfl

theorem announced_unplaced (document : Document) (given : Values) (operations : List Operation) :
    (start document.unplaced given).1.announced operations = (start document given).1.announced operations := by
  have states := run_unplaced document given
  rw [start_eq] at states
  rw [start_eq, start_eq, announced_ofInputs, announced_ofInputs]
  simp only [states]
  rfl

end Calculator
end Calculation

namespace Report
open Calculation (Calculator State)

/-- A report shows nothing of the places. -/
theorem report_unplaced (options : Options) (document : Document) (state : State) :
    report options ⟨document.unplaced, state⟩ = report options ⟨document, state⟩ := by
  have items : itemLine options state ∘ Item.unplaced = itemLine options state := by
    funext item
    cases item <;> rfl
  have parts : sectionLines options document.format state ∘ Section.unplaced =
      sectionLines options document.format state := by
    funext part
    simp only [Function.comp_apply, sectionLines, Section.unplaced, List.map_map, items]
    rfl
  have shown : options.shows ∘ Section.unplaced = options.shows := rfl
  simp only [report, lines, Document.unplaced, List.filter_map, List.map_map, shown, parts]

end Report

open Calculation (Calculator Operation)

/-- The export of a document is imported as the document without the places of its variables, and this one
comes to the same states, announces the same and is reported alike, whatever is done with it. -/
theorem Document.imported_exported {document : Document} (portable : document.Portable) :
    imported document.exported = some document.unplaced ∧
      ∀ (given : Values) (operations : List Operation),
        let original := Calculator.start document given
        let reloaded := Calculator.start document.unplaced given
        reloaded.2 = original.2 ∧
          (reloaded.1.run operations).state = (original.1.run operations).state ∧
          reloaded.1.announced operations = original.1.announced operations ∧
          ∀ options : Report.Options,
            Report.report options (reloaded.1.run operations) = Report.report options (original.1.run operations) := by
  refine ⟨?_, ?_⟩
  · rw [imported, exported, String.toList_ofList, document.written_toJson.read_print, Option.bind_some,
      ofJson_toJson portable]
  · intro given operations original reloaded
    have states := Calculator.run_unplaced document given
    refine ⟨?_, ?_, Calculator.announced_unplaced document given operations, fun options => ?_⟩
    · have first := congrArg (·.state) (states [])
      exact congrArg (fun state => [Calculation.Event.calculatedChanged state.calculated]) first
    · exact congrArg (·.state) (states operations)
    · have same : original.1.run operations = ⟨document, (original.1.run operations).state⟩ := by
        rw [Calculator.start_eq, Calculator.run_ofInputs]
        rfl
      rw [states operations, Report.report_unplaced, ← same]

/-- Names and prose with quotes, a control character and a character beyond sixteen bits, and the largest count. -/
theorem Document.imported_exported_quoted :
    let x : Variable := ⟨"x", "1", true, "a \"b\" \\", 0, 3, ⟨14, 19⟩⟩
    let y : Variable := ⟨"y", "x * 2", false, "a \"b\" \\", 1, 2 ^ (64 : Nat) - 1, ⟨20, 29⟩⟩
    let part : Section := ⟨"a \"b\" \\", 0, 2, true, [x, y],
      [.prose ⟨"\x01\t😀", "<p>/</p>\n"⟩, .definition x, .definition y]⟩
    let document : Document := ⟨.outline, "default", [part], [x, y], ["x"]⟩
    document.Portable ∧ imported document.exported = some document.unplaced ∧ document.unplaced ≠ document := by
  intro x y part document
  have small : x.Portable ∧ y.Portable := ⟨⟨by decide, by decide⟩, ⟨by decide, by decide⟩⟩
  have both : ∀ entry ∈ [x, y], entry.Portable := List.forall_mem_cons.mpr ⟨small.1, by simpa using small.2⟩
  have items : ∀ item ∈ part.items, item.Portable := by
    simp only [part, List.forall_mem_cons]
    exact ⟨trivial, small.1, small.2, by simp⟩
  have portable : document.Portable := by
    refine ⟨?_, both⟩
    intro inner inside
    obtain rfl := List.mem_singleton.mp inside
    exact ⟨by decide, by decide, both, items⟩
  exact ⟨portable, (imported_exported portable).1, by decide⟩

end LiterateCalc

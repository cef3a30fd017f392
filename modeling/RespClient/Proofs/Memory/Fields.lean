import Mathlib.Data.List.DropRight
import RespClient.Memory.Report

/-!
# Fields of memory reports

A memory report has seventeen fields. Each has one name in reports and one or more spellings in the
lines of texts, and the names that a text line gives to a field are these spellings
(`MemoryField.reportName_eq_name_iff`). Recording an entry changes the field of its name and no
other (`MemoryReport.value_record`), so the last entry of a name counts
(`MemoryReport.value_ofEntries_last`), and entries of different names can change places
(`MemoryReport.record_comm`).
-/

set_option autoImplicit false

namespace RespClient

open Text

/-! ## Names and spellings -/

/-- The name of a counter in reports. -/
def MemoryCounter.name : MemoryCounter → String
  | .peakAllocated => "peak.allocated"
  | .totalAllocated => "total.allocated"
  | .startupAllocated => "startup.allocated"
  | .replicationBacklog => "replication.backlog"
  | .clientsSlaves => "clients.slaves"
  | .clientsNormal => "clients.normal"
  | .aofBuffer => "aof.buffer"
  | .luaCaches => "lua.caches"
  | .overheadTotal => "overhead.total"
  | .keysCount => "keys.count"
  | .keysBytesPerKey => "keys.bytes-per-key"
  | .datasetBytes => "dataset.bytes"
  | .allocatorAllocated => "allocator.allocated"
  | .allocatorResident => "allocator.resident"

/-- The name of a ratio in reports. -/
def MemoryRatio.name : MemoryRatio → String
  | .datasetPercentage => "dataset.percentage"
  | .peakPercentage => "peak.percentage"
  | .fragmentation => "fragmentation"

theorem MemoryCounter.ofName?_eq_some_iff {name : String} {c : MemoryCounter} :
    ofName? name = some c ↔ name = c.name := by
  constructor
  · unfold ofName?
    split <;> rintro ⟨⟩ <;> rfl
  · rintro rfl
    cases c <;> rfl

theorem MemoryRatio.ofName?_eq_some_iff {name : String} {r : MemoryRatio} :
    ofName? name = some r ↔ name = r.name := by
  constructor
  · unfold ofName?
    split <;> rintro ⟨⟩ <;> rfl
  · rintro rfl
    cases r <;> rfl

/-- A field of a report. -/
inductive MemoryField where
  | counter (c : MemoryCounter)
  | ratio (r : MemoryRatio)
  deriving DecidableEq

namespace MemoryField

/-- The values of a field. -/
def Value : MemoryField → Type
  | .counter _ => Nat64Value
  | .ratio _ => Double

/-- The name of a field in reports. -/
def name : MemoryField → String
  | .counter c => c.name
  | .ratio r => r.name

/-- The spellings of a field in the lines of a text: its name in reports and the older ones. -/
def spellings : MemoryField → List String
  | .counter .peakAllocated => ["peak.allocated", "used_memory_peak"]
  | .counter .totalAllocated => ["total.allocated", "used_memory"]
  | .counter .startupAllocated => ["startup.allocated", "used_memory_startup"]
  | .counter .replicationBacklog => ["replication.backlog", "mem_replication_backlog"]
  | .counter .clientsSlaves => ["clients.slaves", "mem_clients_slaves"]
  | .counter .clientsNormal => ["clients.normal", "mem_clients_normal"]
  | .counter .aofBuffer => ["aof.buffer", "mem_aof_buffer"]
  | .counter .luaCaches => ["lua.caches", "used_memory_lua", "used_memory_vm_eval"]
  | .counter .overheadTotal => ["overhead.total", "used_memory_overhead"]
  | .counter .keysCount => ["keys.count"]
  | .counter .keysBytesPerKey => ["keys.bytes-per-key"]
  | .counter .datasetBytes => ["dataset.bytes", "used_memory_dataset"]
  | .counter .allocatorAllocated => ["allocator.allocated", "allocator_allocated"]
  | .counter .allocatorResident => ["allocator.resident", "allocator_resident"]
  | .ratio .datasetPercentage => ["dataset.percentage", "used_memory_dataset_perc"]
  | .ratio .peakPercentage => ["peak.percentage", "used_memory_peak_perc"]
  | .ratio .fragmentation => ["fragmentation", "mem_fragmentation_ratio"]

/-- The value of a field that no row stands for. -/
def zero : (field : MemoryField) → field.Value
  | .counter _ => Sized.zero .nat64
  | .ratio _ => Binary.zero

/-- The value that a text gives a field: an integer or, without the percent signs at its end, a
floating point number, and zero if it is none. -/
def read : (field : MemoryField) → List Char → field.Value
  | .counter _ => fun raw => (Decimal.read? .nat64 (trim raw)).getD (Sized.zero .nat64)
  | .ratio _ => fun raw =>
    (Literal.read? .double ((trim raw).rdropWhile (· == '%'))).getD Binary.zero

theorem counter_name_ne_ratio_name (c : MemoryCounter) (r : MemoryRatio) : c.name ≠ r.name := by
  cases c <;> cases r <;> decide

/-- Each field has its own name. -/
theorem name_injective : ∀ {f g : MemoryField}, f.name = g.name → f = g
  | .counter c, .counter c', h => by
      have hname : c.name = c'.name := h
      have hc := MemoryCounter.ofName?_eq_some_iff.2 hname
      rw [MemoryCounter.ofName?_eq_some_iff.2 rfl] at hc
      exact congrArg counter (Option.some.inj hc)
  | .ratio r, .ratio r', h => by
      have hname : r.name = r'.name := h
      have hr := MemoryRatio.ofName?_eq_some_iff.2 hname
      rw [MemoryRatio.ofName?_eq_some_iff.2 rfl] at hr
      exact congrArg ratio (Option.some.inj hr)
  | .counter c, .ratio r, h => absurd h (counter_name_ne_ratio_name c r)
  | .ratio r, .counter c, h => absurd h (counter_name_ne_ratio_name c r).symm

theorem name_mem_spellings (field : MemoryField) : field.name ∈ field.spellings := by
  cases field with
  | counter c => cases c <;> exact List.mem_cons_self
  | ratio r => cases r <;> exact List.mem_cons_self

theorem reportName_of_mem_spellings (field : MemoryField) :
    ∀ name ∈ field.spellings, MemoryEntry.reportName name = field.name := by
  cases field with
  | counter c => cases c <;> decide
  | ratio r => cases r <;> decide

/-- Only spellings of fields are changed. -/
theorem reportName_eq_self_or_mem_spellings (name : String) :
    MemoryEntry.reportName name = name ∨
      ∃ field : MemoryField, name ∈ field.spellings ∧ MemoryEntry.reportName name = field.name := by
  unfold MemoryEntry.reportName
  -- one case for each older spelling, and the last one for all other names
  split
  · exact .inr ⟨.counter .totalAllocated, .tail _ (.head _), rfl⟩
  · exact .inr ⟨.counter .peakAllocated, .tail _ (.head _), rfl⟩
  · exact .inr ⟨.ratio .peakPercentage, .tail _ (.head _), rfl⟩
  · exact .inr ⟨.counter .startupAllocated, .tail _ (.head _), rfl⟩
  · exact .inr ⟨.counter .overheadTotal, .tail _ (.head _), rfl⟩
  · exact .inr ⟨.counter .datasetBytes, .tail _ (.head _), rfl⟩
  · exact .inr ⟨.ratio .datasetPercentage, .tail _ (.head _), rfl⟩
  · exact .inr ⟨.counter .luaCaches, .tail _ (.head _), rfl⟩
  · exact .inr ⟨.counter .luaCaches, .tail _ (.tail _ (.head _)), rfl⟩
  · exact .inr ⟨.counter .replicationBacklog, .tail _ (.head _), rfl⟩
  · exact .inr ⟨.counter .clientsSlaves, .tail _ (.head _), rfl⟩
  · exact .inr ⟨.counter .clientsNormal, .tail _ (.head _), rfl⟩
  · exact .inr ⟨.counter .aofBuffer, .tail _ (.head _), rfl⟩
  · exact .inr ⟨.ratio .fragmentation, .tail _ (.head _), rfl⟩
  · exact .inr ⟨.counter .allocatorAllocated, .tail _ (.head _), rfl⟩
  · exact .inr ⟨.counter .allocatorResident, .tail _ (.head _), rfl⟩
  · exact .inl rfl

/-- The names that stand for a field are its spellings. -/
theorem reportName_eq_name_iff {name : String} {field : MemoryField} :
    MemoryEntry.reportName name = field.name ↔ name ∈ field.spellings := by
  constructor
  · intro h
    rcases reportName_eq_self_or_mem_spellings name with hself | ⟨field', hmem, hname⟩
    · rw [hself] at h
      rw [h]
      exact name_mem_spellings field
    · rw [hname] at h
      rwa [← name_injective h]
  · exact reportName_of_mem_spellings field name

end MemoryField

/-! ## Recording -/

namespace MemoryReport

/-- The value of a field. -/
def value (report : MemoryReport) : (field : MemoryField) → field.Value
  | .counter c => report.counter c
  | .ratio r => report.ratio r

variable {report other : MemoryReport} {field : MemoryField} {entry : MemoryEntry}
  {entries : List MemoryEntry}

theorem ext_value (h : ∀ field, report.value field = other.value field) : report = other :=
  MemoryReport.ext (funext fun c => h (.counter c)) (funext fun r => h (.ratio r))

theorem counter_record (report : MemoryReport) (entry : MemoryEntry) (c : MemoryCounter) :
    (report.record entry).counter c =
      if entry.name = c.name then MemoryEntry.counterValue entry.raw else report.counter c := by
  by_cases hname : entry.name = c.name
  · have hratio : MemoryRatio.ofName? entry.name = none := by
      rw [hname]
      cases c <;> rfl
    have hcounter : MemoryCounter.ofName? entry.name = some c :=
      MemoryCounter.ofName?_eq_some_iff.2 hname
    rw [record, hratio, hcounter, if_pos hname]
    exact if_pos rfl
  · rw [if_neg hname, record]
    split
    · rfl
    · split
      · next c' hc' =>
        refine if_neg fun hc => hname ?_
        rw [hc]
        exact MemoryCounter.ofName?_eq_some_iff.1 hc'
      · rfl

theorem ratio_record (report : MemoryReport) (entry : MemoryEntry) (r : MemoryRatio) :
    (report.record entry).ratio r =
      if entry.name = r.name then MemoryEntry.ratioValue entry.raw else report.ratio r := by
  by_cases hname : entry.name = r.name
  · have hratio : MemoryRatio.ofName? entry.name = some r :=
      MemoryRatio.ofName?_eq_some_iff.2 hname
    rw [record, hratio, if_pos hname]
    exact if_pos rfl
  · rw [if_neg hname, record]
    split
    · next r' hr' =>
      refine if_neg fun hr => hname ?_
      rw [hr]
      exact MemoryRatio.ofName?_eq_some_iff.1 hr'
    · split <;> rfl

/-- Recording an entry changes the field of its name and no other. -/
theorem value_record (report : MemoryReport) (entry : MemoryEntry) (field : MemoryField) :
    (report.record entry).value field =
      if entry.name = field.name then field.read entry.raw else report.value field := by
  cases field with
  | counter c => exact counter_record report entry c
  | ratio r => exact ratio_record report entry r

theorem record_of_unknown (h : ∀ field : MemoryField, entry.name ≠ field.name) :
    report.record entry = report :=
  ext_value fun field => by rw [value_record, if_neg (h field)]

/-- Entries of different names can be recorded in either order. -/
theorem record_comm {a b : MemoryEntry} (h : a.name ≠ b.name) :
    (report.record a).record b = (report.record b).record a := by
  refine ext_value fun field => ?_
  simp only [value_record]
  by_cases hb : b.name = field.name
  · have ha : a.name ≠ field.name := fun ha => h (ha.trans hb.symm)
    rw [if_pos hb, if_neg ha, if_pos hb]
  · rw [if_neg hb, if_neg hb]

/-- Entries of other names leave a field as it is. -/
theorem value_foldl_of_ne (h : ∀ entry ∈ entries, entry.name ≠ field.name) :
    (entries.foldl record report).value field = report.value field := by
  induction entries generalizing report with
  | nil => rfl
  | cons entry entries ih =>
      obtain ⟨hentry, hentries⟩ := List.forall_mem_cons.1 h
      rw [List.foldl_cons, ih hentries, value_record, if_neg hentry]

/-- The last entry of a name counts. -/
theorem value_ofEntries_last {before after : List MemoryEntry} (hname : entry.name = field.name)
    (hafter : ∀ later ∈ after, later.name ≠ field.name) :
    (ofEntries (before ++ entry :: after)).value field = field.read entry.raw := by
  rw [ofEntries, List.foldl_append, List.foldl_cons, value_foldl_of_ne hafter, value_record,
    if_pos hname]

theorem value_ofEntries_absent (h : ∀ entry ∈ entries, entry.name ≠ field.name) :
    (ofEntries entries).value field = field.zero := by
  rw [ofEntries, value_foldl_of_ne h]
  cases field <;> rfl

end MemoryReport

end RespClient
